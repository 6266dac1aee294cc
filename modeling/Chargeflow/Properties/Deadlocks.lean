import Mathlib.Data.List.Pairwise
import Chargeflow.System.LockOrder

/-!
# No deadlocks

Any number of billing transactions at the same time, at any statements.  Each has taken its locks in
one order, those on invoices and attempts under the lock of their subscription, and no transactions
wait for each other in a circle.
-/

namespace Chargeflow

open Foundation Relation

variable {ι : Type} [DecidableEq ι] {parents : Parents} {sys : Parties ι Resource Db Err}

/-- A lock comes later in the order than another: at a later place, or at the place of the invoices
of a subscription. -/
def Resource.After (parents : Parents) (r r' : Resource) : Prop :=
  r.rank < r'.rank ∨ (r.rank = r'.rank ∧ (r'.guard parents).isSome)

section

variable {p : Party Resource Db Err}

/-- A transaction locks one subscription at most. -/
theorem one_subscription (hp : p.Sound parents.order) {m n : ℕ} {a b : LockMode}
    (hm : (.subscription m, a) ∈ p.locks.held) (hn : (.subscription n, b) ∈ p.locks.held) :
    m = n := by
  by_contra hne
  let Apart (l l' : Resource × LockMode) : Prop := l.1.quiet l.2 = false →
    l'.1.quiet l'.2 = false → l'.1.After parents l.1 ∨ l.1.After parents l'.1
  have hpairs : p.locks.held.Pairwise Apart :=
    hp.ordered.imp fun hafter hl hl' => Or.inl (hafter hl hl')
  have : Std.Symm Apart := ⟨fun _ _ hafter hl hl' => (hafter hl' hl).symm⟩
  have hdistinct : ((.subscription m, a) : Resource × LockMode) ≠ (.subscription n, b) :=
    fun heq => hne (Resource.subscription.inj (Prod.mk.inj heq).1)
  -- neither of the two comes later
  rcases hpairs.forall hm hn hdistinct rfl rfl with (hlt | ⟨-, hguard⟩) | (hlt | ⟨-, hguard⟩)
  · exact absurd hlt (Nat.lt_irrefl 2)
  · cases hguard
  · exact absurd hlt (Nat.lt_irrefl 2)
  · cases hguard

/-- A subscription that guards a lock is locked for an update. -/
theorem subscription_held (hp : p.Sound parents.order) {l : Resource × LockMode}
    (hl : l ∈ p.locks.held ∨ p.Needs parents.order l) {n : ℕ}
    (hguard : l.1.guard parents = some (.subscription n)) :
    (.subscription n, .update) ∈ p.locks.held := by
  have hexclusive : p.locks.Exclusive (.subscription n) := by
    rcases hl with hheld | hneeds
    · exact hp.guarded l hheld _ hguard
    · exact (hp.admits hneeds).guarded _ hguard
  obtain ⟨m, hm, -⟩ := hexclusive
  have hallowed : m = .update := eq_of_beq (hp.allowed _ hm)
  rwa [hallowed] at hm

end

/-- The locks of a transaction, and the one that it needs next, are taken in the order, where the
locks that never wait are left out; it locks one subscription at most; and it locks the invoices and
the attempts of a subscription, and their keys, only while it holds the lock on the subscription.
No transactions wait for each other in a circle. -/
theorem no_deadlock
    (h : Reaches (Parties.Step parents.order BillingTransaction) .empty sys) :
    (∀ i p, sys.running i = some p →
      (p.locks.held.Pairwise fun later earlier => later.1.quiet later.2 = false →
        earlier.1.quiet earlier.2 = false → earlier.1.After parents later.1) ∧
      (∀ next, p.Needs parents.order next → next.1.quiet next.2 = false →
        ∀ earlier ∈ p.locks.held, earlier.1.quiet earlier.2 = false →
          earlier.1.After parents next.1) ∧
      (∀ m n a b, (.subscription m, a) ∈ p.locks.held → (.subscription n, b) ∈ p.locks.held →
        m = n) ∧
      ∀ l, l ∈ p.locks.held ∨ p.Needs parents.order l → ∀ n,
        l.1.guard parents = some (.subscription n) →
          (.subscription n, .update) ∈ p.locks.held) ∧
    ∀ i, ¬ TransGen (sys.WaitsFor parents.order) i i := by
  have hsound := Parties.sound_of_reaches (fun _ => BillingTransaction.ordered) h
  refine ⟨fun i p hp => ?_, hsound.acyclic⟩
  have hparty := hsound.party i p hp
  refine ⟨hparty.ordered, fun next hnext => (hparty.admits hnext).ordered, ?_, ?_⟩
  · exact fun m n a b hm hn => one_subscription hparty hm hn
  · exact fun l hl n hguard => subscription_held hparty hl hguard

/-- A database with one subscription. -/
def contestedDb : Db :=
  { Db.empty with
    subscriptions := Table.empty.insert
      { id := 0
        organizationId := 1
        customerId := 1
        planId := 1
        status := .active
        currentPeriodStart := sampleTime 0 0
        currentPeriodEnd := sampleTime 1 0
        canceledAt := none
        canceledReason := none } }

/-- Two requests cancel a subscription; the second waits for the first, and the first for nobody. -/
theorem no_deadlock_contested :
    ∃ sys : Parties Bool Resource Db Err,
      Reaches (Parties.Step (Parents.order ⟨fun _ => 1, fun _ => 1⟩) BillingTransaction) .empty
        sys ∧
      sys.WaitsFor (Parents.order ⟨fun _ => 1, fun _ => 1⟩) true false ∧
      ¬ TransGen (sys.WaitsFor (Parents.order ⟨fun _ => 1, fun _ => 1⟩)) true true := by
  let order := Parents.order ⟨fun _ => 1, fun _ => 1⟩
  have hvalid : contestedDb.Parented ⟨fun _ => 1, fun _ => 1⟩ := ⟨nofun, nofun⟩
  have hcancel : BillingTransaction
      (Locking.SubscriptionService.cancel 1 .voluntary (sampleTime 0 1)) :=
    .cancel 1 .voluntary (sampleTime 0 1)
  have hmoves : ∀ h, order.Moves h contestedDb contestedDb := by
    refine fun h => ⟨hvalid, fun r _ => ?_⟩
    cases r <;> first | rfl | trivial
  have hstart : Parties.Step order BillingTransaction Parties.empty _ :=
    .start (i := false) rfl hcancel hvalid
  have h₁ := ReflTransGen.tail .refl hstart
  have h₂ := h₁.tail (.move (i := false) rfl (.query (hmoves _)))
  have hnew : ¬ order.Covers .empty (.subscription 1) .update := by
    rintro (hown | ⟨_, hheld, -⟩)
    · cases hown
    · cases hheld
  have hfree : ∀ p p' : Party Resource Db Err,
      ((Parties.empty.set false (some p)).set false (some p')).Free false (.subscription 1)
        .update := by
    intro p p' j hj q hq
    cases j with
    | false => exact absurd rfl hj
    | true => cases hq
  have h₃ := h₂.tail (.move (i := false) rfl (.grant hnew (hfree _ _) (hmoves _)))
  have h₄ := h₃.tail (.start (i := true) rfl hcancel hvalid)
  have h₅ := h₄.tail (.move (i := true) rfl (.query (hmoves _)))
  have h₆ := h₅.tail (.ask (i := true) rfl ⟨rfl, hnew⟩ rfl)
  refine ⟨_, h₆, ⟨nofun, _, _, _, _, _, rfl, rfl, rfl, ⟨rfl, hnew⟩, .update, rfl, Or.inl ?_⟩,
    (no_deadlock h₆).2 true⟩
  exact List.mem_cons_self

end Chargeflow
