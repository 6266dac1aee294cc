import Mathlib.Data.List.Perm.Basic
import Chargeflow.Foundation.Transitions

/-!
# Transactions under locks

A transaction takes its locks and passes its checks, and it writes later.  In between, other
transactions check and write, as far as the locks allow.  When no transaction with compatible locks
can spoil what a check established, it still holds when the transaction writes; so a rule that a
write keeps after its own check is kept by every interleaving (`Guarded.invariant`).
-/

namespace Foundation

/-- A lock on a resource, which may be shared with other readers. -/
inductive Lock (ρ : Type*) where
  | shared (r : ρ)
  | exclusive (r : ρ)

namespace Lock

variable {ρ : Type*} {l m : List (Lock ρ)}

/-- The exclusive locks of `l` leave no lock on the same resource to `m`. -/
def Free (l m : List (Lock ρ)) : Prop :=
  ∀ r, exclusive r ∈ l → exclusive r ∉ m ∧ shared r ∉ m

/-- Two transactions may hold these locks at the same time. -/
def Compatible (l m : List (Lock ρ)) : Prop := Free l m ∧ Free m l

/-- Compatibility is symmetric. -/
theorem Compatible.symm (h : Compatible l m) : Compatible m l := ⟨h.2, h.1⟩

/-- No locks are compatible with any. -/
theorem Compatible.nil (m : List (Lock ρ)) : Compatible [] m :=
  ⟨fun _ h => absurd h List.not_mem_nil, fun _ _ => ⟨List.not_mem_nil, List.not_mem_nil⟩⟩

end Lock

/-- A transaction that has passed its checks, with the locks it holds. -/
structure Pending (τ ρ : Type*) where
  transaction : τ
  locks : List (Lock ρ)

/-- A state, and the transactions that are still to write. -/
structure Interleaved (σ τ ρ : Type*) where
  state : σ
  pending : List (Pending τ ρ)

/-- What the transactions of a system check, lock and write. -/
structure LockSystem (σ τ ρ : Type*) where
  /-- A transaction passes its checks. -/
  checks : σ → Pending τ ρ → Prop
  /-- A transaction writes and commits. -/
  writes : τ → σ → σ → Prop
  /-- What is not taken apart: the locks it needs, and the state it leaves. -/
  whole : List (Lock ρ) → σ → σ → Prop

namespace LockSystem

variable {σ τ ρ : Type*}

/-- One step of an interleaving.  The locks are released with the transaction. -/
inductive Step (S : LockSystem σ τ ρ) : Interleaved σ τ ρ → Interleaved σ τ ρ → Prop
  | check {s : σ} {p : Pending τ ρ} {l : List (Pending τ ρ)} (hchecks : S.checks s p)
      (hfree : ∀ q ∈ l, Lock.Compatible p.locks q.locks) : Step S ⟨s, l⟩ ⟨s, p :: l⟩
  | write {s s' : σ} {p : Pending τ ρ} {l l' : List (Pending τ ρ)} (hp : l.Perm (p :: l'))
      (hwrites : S.writes p.transaction s s') : Step S ⟨s, l⟩ ⟨s', l'⟩
  | abort {s : σ} {p : Pending τ ρ} {l l' : List (Pending τ ρ)} (hp : l.Perm (p :: l')) :
      Step S ⟨s, l⟩ ⟨s, l'⟩
  | whole {s s' : σ} {locks : List (Lock ρ)} {l : List (Pending τ ρ)}
      (hwhole : S.whole locks s s') (hfree : ∀ q ∈ l, Lock.Compatible locks q.locks) :
      Step S ⟨s, l⟩ ⟨s', l⟩

/-- The rule `I` is kept by every write whose check `C` holds, and no transaction spoils the check
of another one whose locks are compatible with its own. -/
structure Guarded (S : LockSystem σ τ ρ) (I : σ → Prop) (C : σ → Pending τ ρ → Prop) : Prop where
  checked : ∀ {s p}, I s → S.checks s p → C s p
  write : ∀ {s s' p}, I s → C s p → S.writes p.transaction s s' → I s'
  whole : ∀ {s s' locks}, I s → S.whole locks s s' → I s'
  stable_write : ∀ {s s' p q}, I s → C s p → S.writes p.transaction s s' →
    Lock.Compatible p.locks q.locks → C s q → C s' q
  stable_whole : ∀ {s s' locks q}, I s → S.whole locks s s' → Lock.Compatible locks q.locks →
    C s q → C s' q

/-- What holds between two steps: the rule, the checks of the pending transactions, and that their
locks are compatible. -/
structure Held (I : σ → Prop) (C : σ → Pending τ ρ → Prop) (v : Interleaved σ τ ρ) : Prop where
  rule : I v.state
  checked : ∀ p ∈ v.pending, C v.state p
  compatible : v.pending.Pairwise fun p q => Lock.Compatible p.locks q.locks

variable {S : LockSystem σ τ ρ} {I : σ → Prop} {C : σ → Pending τ ρ → Prop}
  {v w : Interleaved σ τ ρ}

/-- Without transactions, the invariant alone holds. -/
theorem Held.of_nil {s : σ} (h : I s) : Held I C ⟨s, []⟩ :=
  ⟨h, fun _ hp => absurd hp List.not_mem_nil, List.Pairwise.nil⟩

/-- Pairwise compatibility does not depend on the order of the transactions. -/
theorem Held.pairwise_perm {l l' : List (Pending τ ρ)} (hp : l.Perm l')
    (h : l.Pairwise fun p q => Lock.Compatible p.locks q.locks) :
    l'.Pairwise fun p q => Lock.Compatible p.locks q.locks :=
  (hp.pairwise_iff fun h => Lock.Compatible.symm h).mp h

/-- A step of a guarded system keeps the invariant and the compatibility of the locks. -/
theorem Step.held (hG : Guarded S I C) (hstep : S.Step v w) (h : Held I C v) : Held I C w := by
  cases hstep with
  | check hchecks hfree =>
    refine ⟨h.rule, ?_, h.compatible.cons hfree⟩
    simp only [List.mem_cons, forall_eq_or_imp]
    exact ⟨hG.checked h.rule hchecks, h.checked⟩
  | write hp hwrites =>
    have hcompatible := List.pairwise_cons.mp (Held.pairwise_perm hp h.compatible)
    have hchecked := h.checked _ (hp.mem_iff.mpr List.mem_cons_self)
    refine ⟨hG.write h.rule hchecked hwrites, ?_, hcompatible.2⟩
    intro q hq
    exact hG.stable_write h.rule hchecked hwrites (hcompatible.1 q hq)
      (h.checked q (hp.mem_iff.mpr (List.mem_cons_of_mem _ hq)))
  | abort hp =>
    have hcompatible := List.pairwise_cons.mp (Held.pairwise_perm hp h.compatible)
    exact ⟨h.rule, fun q hq => h.checked q (hp.mem_iff.mpr (List.mem_cons_of_mem _ hq)),
      hcompatible.2⟩
  | whole hwhole hfree =>
    refine ⟨hG.whole h.rule hwhole, ?_, h.compatible⟩
    intro q hq
    exact hG.stable_whole h.rule hwhole (hfree q hq) (h.checked q hq)

/-- The rule holds in every state of an interleaving that starts where it holds. -/
theorem Guarded.invariant (hG : Guarded S I C) {s : σ} (h : I s)
    (hrun : Reaches S.Step ⟨s, []⟩ v) : I v.state :=
  (hrun.invariant (I := Held I C) (Held.of_nil h) fun _ _ _ ha hab => hab.held hG ha).rule

end LockSystem

end Foundation
