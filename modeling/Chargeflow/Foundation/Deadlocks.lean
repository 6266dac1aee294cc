import Mathlib.Logic.Relation
import Chargeflow.Foundation.LockPrograms
import Chargeflow.Foundation.Transitions

/-!
# Transactions that wait for each other

Any number of transactions that run at the same time, statement by statement.  A lock is granted
when no other transaction holds a conflicting one, and a transaction that has asked for a lock waits
for those that hold a conflicting one, and for those that asked for a conflicting one before it.
When all transactions keep to the order of a `LockOrder`, the lock that a transaction asks for comes
after the locks it holds, and no transactions wait for each other in a circle.
-/

namespace Foundation

open Relation

variable {ι ρ σ ε : Type}

/-- The locks of the foreign key checks. -/
def Program.checkAll : List ρ → Program ρ σ ε Unit
  | [] => .pure ()
  | r :: rs => .lock r .keyShare (checkAll rs)

/-- A transaction at work: the rest of its program, its locks, the database as it sees it, and the
ticket it drew if it waits for a lock. -/
structure Party (ρ σ ε : Type) where
  program : Program ρ σ ε Unit
  locks : Locks ρ
  view : σ
  ticket : Option ℕ

namespace Party

/-- The lock that the next statement takes. -/
def next (p : Party ρ σ ε) : Option (ρ × LockMode) :=
  match p.program with
  | .lock r m _ => some (r, m)
  | .key r _ => some (r, .update)
  | _ => none

/-- The next statement needs a lock that the transaction does not have. -/
structure Needs (L : LockOrder ρ σ) (p : Party ρ σ ε) (l : ρ × LockMode) : Prop where
  next : p.next = some l
  new : ¬ L.Covers p.locks l.1 l.2

end Party

/-- The next statement of a transaction, when `free` says which locks can be granted.  At the commit
the foreign keys are checked. -/
inductive PartyStep (L : LockOrder ρ σ) (free : ρ → LockMode → Prop) :
    Party ρ σ ε → Party ρ σ ε → Prop
  | query {k h s s' t} : L.Moves h s s' → PartyStep L free ⟨.query k, h, s, t⟩ ⟨k s', h, s', t⟩
  | write {s' k h s t} : PartyStep L free ⟨.write s' k, h, s, t⟩ ⟨k, h, s', t⟩
  | covered {r m k h s t} : L.Covers h r m →
      PartyStep L free ⟨.lock r m k, h, s, t⟩ ⟨k, h, s, none⟩
  | grant {r m k h s s' t} : ¬ L.Covers h r m → free r m → L.Moves h s s' →
      PartyStep L free ⟨.lock r m k, h, s, t⟩ ⟨k, h.push r m, s', none⟩
  | ownKey {r k h s t} (b : Bool) : L.Covers h r .update →
      PartyStep L free ⟨.key r k, h, s, t⟩ ⟨k b, h, s, none⟩
  | takenKey {r k h s t} : ¬ L.Covers h r .update →
      PartyStep L free ⟨.key r k, h, s, t⟩ ⟨k false, h, s, none⟩
  | freeKey {r k h s s' t} : ¬ L.Covers h r .update → free r .update → L.Moves h s s' →
      PartyStep L free ⟨.key r k, h, s, t⟩ ⟨k true, h.push r .update, s', none⟩
  | insert {r k h s t} : PartyStep L free ⟨.insert r k, h, s, t⟩ ⟨k, h.insert r, s, t⟩
  | check {r k h s t} : PartyStep L free ⟨.check r k, h, s, t⟩ ⟨k, h.check r, s, t⟩
  | commit {h s t} :
      PartyStep L free ⟨.pure (), h, s, t⟩ ⟨.checkAll h.checks, { h with checks := [] }, s, t⟩

/-- The transactions at work, and the next ticket. -/
structure Parties (ι ρ σ ε : Type) where
  running : ι → Option (Party ρ σ ε)
  clock : ℕ

namespace Parties

/-- Nothing runs. -/
def empty : Parties ι ρ σ ε := ⟨fun _ => none, 0⟩

/-- No other transaction holds a conflicting lock. -/
def Free (sys : Parties ι ρ σ ε) (i : ι) (r : ρ) (m : LockMode) : Prop :=
  ∀ j, j ≠ i → ∀ q, sys.running j = some q → ∀ n, (r, n) ∈ q.locks.held → m.conflicts n = false

/-- The transaction `i` has asked for a lock, and `j` holds a conflicting one, or asked for one
before. -/
def WaitsFor (L : LockOrder ρ σ) (sys : Parties ι ρ σ ε) (i j : ι) : Prop :=
  i ≠ j ∧ ∃ p q t r m, sys.running i = some p ∧ sys.running j = some q ∧ p.ticket = some t ∧
    p.Needs L (r, m) ∧ ∃ n, m.conflicts n = true ∧
      ((r, n) ∈ q.locks.held ∨ ∃ t' < t, q.ticket = some t' ∧ q.Needs L (r, n))

variable [DecidableEq ι]

/-- The transaction `i` is replaced. -/
def set (sys : Parties ι ρ σ ε) (i : ι) (p : Option (Party ρ σ ε)) : Parties ι ρ σ ε :=
  { sys with running := Function.update sys.running i p }

/-- The steps of all transactions.  A transaction may end at any time, with a commit or a
rollback. -/
inductive Step (L : LockOrder ρ σ) (transaction : Program ρ σ ε Unit → Prop) :
    Parties ι ρ σ ε → Parties ι ρ σ ε → Prop
  | start {sys i x s} : sys.running i = none → transaction x → L.valid s →
      Step L transaction sys (sys.set i (some ⟨x, .empty, s, none⟩))
  | move {sys i p p'} : sys.running i = some p → PartyStep L (sys.Free i) p p' →
      Step L transaction sys (sys.set i (some p'))
  | ask {sys i p l} : sys.running i = some p → p.Needs L l → p.ticket = none →
      Step L transaction sys
        { sys.set i (some { p with ticket := some sys.clock }) with clock := sys.clock + 1 }
  | stop {sys i} : Step L transaction sys (sys.set i none)

end Parties

/-! ## What the transactions keep -/

section

variable {L : LockOrder ρ σ} {free : ρ → LockMode → Prop} {p p' : Party ρ σ ε} {h : Locks ρ}
  {s : σ}

/-- The foreign key checks keep to the order. -/
def LockOrder.Commits (L : LockOrder ρ σ) (h : Locks ρ) (s : σ) : Prop :=
  L.wp (.checkAll h.checks : Program ρ σ ε Unit) (fun _ _ _ => True) { h with checks := [] } s

/-- A transaction keeps to the order, up to the end of its commit. -/
def LockOrder.Ordered (L : LockOrder ρ σ) (x : Program ρ σ ε Unit) : Prop :=
  ∀ s, L.valid s → L.wp x (fun _ h s => L.Commits (ε := ε) h s) .empty s

/-- The locks of a transaction were taken in the order, each under its guard, and the rest of its
program keeps to the order. -/
structure Party.Sound (L : LockOrder ρ σ) (p : Party ρ σ ε) : Prop where
  program : L.wp p.program (fun _ h s => L.Commits (ε := ε) h s) p.locks p.view
  allowed : ∀ l ∈ p.locks.held, L.allowed l.1 l.2 = true
  guarded : ∀ l ∈ p.locks.held, ∀ g, L.guard l.1 = some g → p.locks.Exclusive g
  ordered : p.locks.held.Pairwise fun l l' =>
    L.quiet l.1 l.2 = false → L.quiet l'.1 l'.2 = false → L.After l' l.1

/-- A transaction without deferred checks commits. -/
theorem LockOrder.commits_of_nil (hchecks : h.checks = []) : L.Commits (ε := ε) h s := by
  unfold LockOrder.Commits
  rw [hchecks]
  trivial

/-- Without deferred checks, to check them all asks for nothing. -/
theorem LockOrder.wp_checkAll {rs : List ρ} (hchecks : h.checks = [])
    (hwp : L.wp (.checkAll rs : Program ρ σ ε Unit) (fun _ _ _ => True) h s) :
    L.wp (.checkAll rs : Program ρ σ ε Unit) (fun _ h s => L.Commits (ε := ε) h s) h s := by
  induction rs generalizing h s with
  | nil => exact LockOrder.commits_of_nil hchecks
  | cons r rs ih =>
    obtain ⟨hcovered, hnew⟩ := hwp
    refine ⟨fun hcovers => ih hchecks (hcovered hcovers), fun hcovers => ?_⟩
    obtain ⟨hadmits, hrest⟩ := hnew hcovers
    exact ⟨hadmits, fun s' hs => ih hchecks (hrest s' hs)⟩

/-- A transaction can commit when its foreign keys can be checked, where one lock may have to be
taken after all others. -/
theorem LockOrder.commits_of_checkable (r₀ : ρ)
    (hchecks : ∀ r ∈ h.checks, L.Checkable h r ∨ r = r₀)
    (hlast : ¬ L.Covers h r₀ .keyShare → L.Admits h r₀ .keyShare) : L.Commits (ε := ε) h s := by
  unfold LockOrder.Commits
  generalize hrs : h.checks = rs at hchecks
  generalize hh : ({ h with checks := [] } : Locks ρ) = h'
  have hsub : h.Sub h' := hh ▸ ⟨List.Subset.refl _, List.Subset.refl _⟩
  have hlast' : ¬ L.Covers h' r₀ .keyShare → L.Admits h' r₀ .keyShare := by
    subst hh
    exact fun hnew => ⟨(hlast hnew).allowed, (hlast hnew).guarded, (hlast hnew).ordered⟩
  clear hh hrs hlast
  induction rs generalizing h' s with
  | nil => trivial
  | cons r rs ih =>
    have hrest : ∀ r ∈ rs, L.Checkable h r ∨ r = r₀ := fun r hr =>
      hchecks r (List.mem_cons_of_mem _ hr)
    refine ⟨fun _ => ih hrest h' hsub hlast', fun hnew => ?_⟩
    have hsub' : h.Sub (h'.push r .keyShare) := hsub.trans (h'.sub_push r .keyShare)
    rcases hchecks r List.mem_cons_self with hr | rfl
    · have hr' := hr.mono hsub
      refine ⟨hr'.admits hnew, fun s' _ => ih hrest _ hsub' fun hnew₀ => ?_⟩
      -- a quiet lock changes nothing for the last one
      have hadmits := hlast' fun hcovers => hnew₀ (hcovers.mono (h'.sub_push r .keyShare))
      refine ⟨hadmits.allowed, fun g hg => (hadmits.guarded g hg).mono (h'.sub_push r .keyShare),
        fun hquiet l hl hquiet' => ?_⟩
      rcases List.mem_cons.mp hl with rfl | hl
      · rw [(hr'.resolve_left hnew).1] at hquiet'
        cases hquiet'
      · exact hadmits.ordered hquiet l hl hquiet'
    · exact ⟨hlast' hnew, fun s' _ => ih hrest _ hsub' fun hnew₀ =>
        absurd (L.covers_push h' r .keyShare) hnew₀⟩

/-- The lock that the next statement needs keeps to the order. -/
theorem Party.Sound.admits (hp : p.Sound L) {l : ρ × LockMode} (hl : p.Needs L l) :
    L.Admits p.locks l.1 l.2 := by
  obtain ⟨x, h, s, t⟩ := p
  obtain ⟨hnext, hnew⟩ := hl
  cases x with
  | lock r m k =>
    obtain rfl := Option.some.inj hnext
    exact (hp.program.2 hnew).1
  | key r k =>
    obtain rfl := Option.some.inj hnext
    exact (hp.program.2 hnew).1
  | _ => cases hnext

/-- One more lock that keeps to the order. -/
theorem Party.Sound.push {x x' : Program ρ σ ε Unit} {s' : σ} {t t' : Option ℕ} {r : ρ}
    {m : LockMode} (hp : Party.Sound L ⟨x, h, s, t⟩) (hadmits : L.Admits h r m)
    (hprogram : L.wp x' (fun _ h s => L.Commits (ε := ε) h s) (h.push r m) s') :
    Party.Sound L ⟨x', h.push r m, s', t'⟩ where
  program := hprogram
  allowed := by
    intro l hl
    rcases List.mem_cons.mp hl with rfl | hl
    · exact hadmits.allowed
    · exact hp.allowed l hl
  guarded := by
    intro l hl g hg
    rcases List.mem_cons.mp hl with rfl | hl
    · exact (hadmits.guarded g hg).mono (h.sub_push r m)
    · exact (hp.guarded l hl g hg).mono (h.sub_push r m)
  ordered := List.pairwise_cons.mpr
    ⟨fun l hl hquiet hquiet' => hadmits.ordered hquiet l hl hquiet', hp.ordered⟩

/-- A step of a party keeps it sound. -/
theorem PartyStep.sound (hstep : PartyStep L free p p') (hp : p.Sound L) : p'.Sound L := by
  cases hstep with
  | query hs => exact { hp with program := hp.program _ hs }
  | write => exact { hp with program := hp.program }
  | covered hcovers => exact { hp with program := hp.program.1 hcovers }
  | grant hnew _ hs =>
    obtain ⟨hadmits, hrest⟩ := hp.program.2 hnew
    exact hp.push hadmits (hrest _ hs)
  | ownKey b hcovers => exact { hp with program := hp.program.1 hcovers b }
  | takenKey hnew => exact { hp with program := (hp.program.2 hnew).2.1 }
  | freeKey hnew _ hs =>
    obtain ⟨hadmits, -, hrest⟩ := hp.program.2 hnew
    exact hp.push hadmits (hrest _ hs)
  | insert => exact { hp with program := hp.program }
  | check => exact { hp with program := hp.program }
  | commit => exact { hp with program := LockOrder.wp_checkAll rfl hp.program }

/-- A step takes no lock, or a free one. -/
theorem PartyStep.held (hstep : PartyStep L free p p') :
    ∀ l ∈ p'.locks.held, l ∈ p.locks.held ∨ free l.1 l.2 := by
  cases hstep with
  | grant _ hfree _ | freeKey _ hfree _ =>
    intro l hl
    rcases List.mem_cons.mp hl with rfl | hl
    · exact Or.inr hfree
    · exact Or.inl hl
  | _ => exact fun l hl => Or.inl hl

end

/-! ## The invariant -/

section

variable {L : LockOrder ρ σ} {transaction : Program ρ σ ε Unit → Prop}
  {sys sys' : Parties ι ρ σ ε} {i j k : ι} {p q : Party ρ σ ε}

namespace Parties

/-- All transactions keep to the order, and no two of them hold conflicting locks. -/
structure Sound (L : LockOrder ρ σ) (sys : Parties ι ρ σ ε) : Prop where
  party : ∀ i p, sys.running i = some p → p.Sound L
  compatible : ∀ i j p q, sys.running i = some p → sys.running j = some q → i ≠ j →
    ∀ r m n, (r, m) ∈ p.locks.held → (r, n) ∈ q.locks.held → m.conflicts n = false

/-- The locks of a transaction are free for it. -/
theorem Sound.free (h : sys.Sound L) (hp : sys.running i = some p) :
    ∀ l ∈ p.locks.held, sys.Free i l.1 l.2 :=
  fun l hl j hj q hq n hn => h.compatible i j p q hp hq (Ne.symm hj) l.1 l.2 n hl hn

section

variable [DecidableEq ι]

/-- A party is running after the assignment if it is the new one or ran before. -/
theorem set_eq_some {a : Option (Party ρ σ ε)} (h : (sys.set i a).running j = some p) :
    (j = i ∧ a = some p) ∨ (j ≠ i ∧ sys.running j = some p) := by
  have h : Function.update sys.running i a j = some p := h
  by_cases hj : j = i
  · subst hj
    rw [Function.update_self] at h
    exact Or.inl ⟨rfl, h⟩
  · rw [Function.update_of_ne hj] at h
    exact Or.inr ⟨hj, h⟩

/-- A transaction may be replaced by one that has only locks that are free. -/
theorem Sound.set (h : sys.Sound L) (hp : p.Sound L)
    (hheld : ∀ l ∈ p.locks.held, sys.Free i l.1 l.2) : (sys.set i (some p)).Sound L where
  party := by
    intro j q hq
    rcases set_eq_some hq with ⟨rfl, hpq⟩ | ⟨-, hq⟩
    · exact Option.some.inj hpq ▸ hp
    · exact h.party j q hq
  compatible := by
    intro j k q q' hq hq' hjk r m n hm hn
    rcases set_eq_some hq with ⟨hj, hpq⟩ | ⟨hj, hold⟩
    · obtain rfl := Option.some.inj hpq
      rcases set_eq_some hq' with ⟨hk, -⟩ | ⟨hk, hold'⟩
      · exact absurd (hj.trans hk.symm) hjk
      · exact hheld _ hm k hk q' hold' n hn
    · rcases set_eq_some hq' with ⟨hk, hpq⟩ | ⟨-, hold'⟩
      · obtain rfl := Option.some.inj hpq
        rw [LockMode.conflicts_comm]
        exact hheld _ hn j hj q hold m hm
      · exact h.compatible j k q q' hold hold' hjk r m n hm hn

/-- A step keeps the system sound if every transaction takes its locks in order. -/
theorem Step.sound (hordered : ∀ x, transaction x → L.Ordered x)
    (hstep : Step L transaction sys sys') (h : sys.Sound L) : sys'.Sound L := by
  cases hstep with
  | start _ hx hs =>
    refine h.set ⟨hordered _ hx _ hs, ?_, ?_, List.Pairwise.nil⟩ ?_
    · exact fun l hl => absurd hl List.not_mem_nil
    · exact fun l hl => absurd hl List.not_mem_nil
    · exact fun l hl => absurd hl List.not_mem_nil
  | @move i p p' hp hmove =>
    refine h.set (hmove.sound (h.party i p hp)) fun l hl => ?_
    rcases hmove.held l hl with hl | hfree
    · exact h.free hp l hl
    · exact hfree
  | @ask i p l hp _ _ =>
    have hwaiting : Party.Sound L { p with ticket := some sys.clock } := { h.party i p hp with }
    have hset := h.set hwaiting (h.free (p := p) hp)
    exact ⟨hset.party, hset.compatible⟩
  | @stop i =>
    refine ⟨fun j q hq => ?_, fun j k q q' hq hq' => ?_⟩
    · rcases set_eq_some hq with ⟨-, hnone⟩ | ⟨-, hq⟩
      · cases hnone
      · exact h.party j q hq
    · rcases set_eq_some hq with ⟨-, hnone⟩ | ⟨-, hq⟩
      · cases hnone
      rcases set_eq_some hq' with ⟨-, hnone⟩ | ⟨-, hq'⟩
      · cases hnone
      exact h.compatible j k q q' hq hq'

/-- In every run of transactions that keep to the order, the invariant holds. -/
theorem sound_of_reaches (hordered : ∀ x, transaction x → L.Ordered x)
    (h : Reaches (Step L transaction) empty sys) : sys.Sound L := by
  refine h.invariant ⟨fun i p hp => ?_, fun i j p q hp => ?_⟩ fun _ _ _ hsound hstep =>
    hstep.sound hordered hsound
  · cases hp
  · cases hp

end

/-! ## No circle -/

/-- Two transactions do not lock one row exclusively. -/
theorem Sound.not_exclusive (h : sys.Sound L) (hp : sys.running i = some p)
    (hq : sys.running j = some q) (hij : i ≠ j) {g : ρ} (hg : p.locks.Exclusive g) :
    ¬ q.locks.Exclusive g := by
  rintro ⟨n, hn, hn'⟩
  obtain ⟨m, hm, hm'⟩ := hg
  have hcompatible := h.compatible i j p q hp hq hij g m n hm hn
  rw [LockMode.conflicts_of_exclusive hm' hn'] at hcompatible
  cases hcompatible

/-- A transaction waits for a lock that has no guard, and the lock may wait. -/
theorem Sound.guard_eq_none (h : sys.Sound L) (hwait : sys.WaitsFor L i j)
    (hp : sys.running i = some p) {l : ρ × LockMode} (hl : p.Needs L l) :
    L.guard l.1 = none ∧ L.quiet l.1 l.2 = false := by
  obtain ⟨hij, p', q, t, r, m, hp', hq, -, hneeds, n, hconflict, hother⟩ := hwait
  obtain rfl := Option.some.inj (hp'.symm.trans hp)
  obtain rfl := Option.some.inj (hneeds.next.symm.trans hl.next)
  have hadmits := (h.party i _ hp).admits hneeds
  have hallowed : L.allowed r n = true := by
    rcases hother with hn | ⟨_, _, _, hn⟩
    · exact (h.party j q hq).allowed _ hn
    · exact ((h.party j q hq).admits hn).allowed
  refine ⟨?_, ?_⟩
  · cases hg : L.guard r with
    | none => rfl
    | some g =>
      have hguard : q.locks.Exclusive g := by
        rcases hother with hn | ⟨_, _, _, hn⟩
        · exact (h.party j q hq).guarded _ hn g hg
        · exact ((h.party j q hq).admits hn).guarded g hg
      exact absurd hguard (h.not_exclusive hp hq hij (hadmits.guarded g hg))
  · cases hquiet : L.quiet r m with
    | false => rfl
    | true =>
      rw [L.quiet_spec hquiet hallowed] at hconflict
      cases hconflict

/-- The place of the lock that a transaction waits for comes before that of another, or the other
asked earlier for a lock at the same place. -/
def Precedes (L : LockOrder ρ σ) (sys : Parties ι ρ σ ε) (i j : ι) : Prop :=
  ∀ p q, sys.running i = some p → sys.running j = some q → ∀ l l', p.Needs L l → q.Needs L l' →
    ∀ t t', p.ticket = some t → q.ticket = some t' →
      L.rank l.1 < L.rank l'.1 ∨ (L.rank l.1 = L.rank l'.1 ∧ t' < t)

/-- A transaction that waits for a waiting one precedes it. -/
theorem Sound.precedes (h : sys.Sound L) (hij : sys.WaitsFor L i j) (hjk : sys.WaitsFor L j k) :
    sys.Precedes L i j := by
  intro p q hp hq l l' hl hl' t t' ht ht'
  obtain ⟨-, hquiet'⟩ := h.guard_eq_none hij hp hl
  obtain ⟨hguard, hquiet⟩ := h.guard_eq_none hjk hq hl'
  obtain ⟨-, p', q', u, r, m, hp', hq', hu, hneeds, n, hconflict, hother⟩ := hij
  obtain rfl := Option.some.inj (hp'.symm.trans hp)
  obtain rfl := Option.some.inj (hq'.symm.trans hq)
  obtain rfl := Option.some.inj (hneeds.next.symm.trans hl.next)
  obtain rfl := Option.some.inj (hu.symm.trans ht)
  rcases hother with hn | ⟨u', hlt, hu', hn⟩
  · -- the holder asks for a lock that comes after the one it holds
    have hnot : L.quiet r n = false := by
      cases hn' : L.quiet r n with
      | false => rfl
      | true =>
        have hfalse := L.quiet_spec hn' ((h.party i _ hp).admits hneeds).allowed
        rw [LockMode.conflicts_comm, hconflict] at hfalse
        cases hfalse
    rcases ((h.party j _ hq).admits hl').ordered hquiet (r, n) hn hnot with hlt | ⟨-, hsome⟩
    · exact Or.inl hlt
    · rw [hguard] at hsome
      cases hsome
  · -- both wait for the same lock
    obtain rfl := Option.some.inj (hn.next.symm.trans hl'.next)
    obtain rfl := Option.some.inj (hu'.symm.trans ht')
    exact Or.inr ⟨rfl, hlt⟩

/-- A transaction that waits has drawn a ticket. -/
theorem WaitsFor.waiting (hij : sys.WaitsFor L i j) :
    ∃ p l t, sys.running i = some p ∧ p.Needs L l ∧ p.ticket = some t := by
  obtain ⟨-, p, -, t, r, m, hp, -, ht, hneeds, -⟩ := hij
  exact ⟨p, (r, m), t, hp, hneeds, ht⟩

/-- Along a path of waiting transactions each precedes the later ones. -/
theorem Sound.precedes_of_transGen (h : sys.Sound L) (hij : TransGen (sys.WaitsFor L) i j)
    (hjk : sys.WaitsFor L j k) : sys.Precedes L i j := by
  induction hij generalizing k with
  | single hij => exact h.precedes hij hjk
  | @tail b c _ hbc ih =>
    intro p q hp hq l l' hl hl' t t' ht ht'
    obtain ⟨b', m, u, hb', hm, hu⟩ := hbc.waiting
    have hfirst := ih hbc p b' hp hb' l m hl hm t u ht hu
    have hlast := h.precedes hbc hjk b' q hb' hq m l' hm hl' u t' hu ht'
    omega

/-- No transactions wait for each other in a circle. -/
theorem Sound.acyclic (h : sys.Sound L) (i : ι) : ¬ TransGen (sys.WaitsFor L) i i := by
  intro hcircle
  obtain ⟨j, hij, -⟩ := TransGen.head'_iff.mp hcircle
  obtain ⟨p, l, t, hp, hl, ht⟩ := hij.waiting
  have hlt := h.precedes_of_transGen hcircle hij p p hp hp l l hl hl t t ht ht
  omega

end Parties

end

end Foundation
