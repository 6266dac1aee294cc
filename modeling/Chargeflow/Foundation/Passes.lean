import Chargeflow.Foundation.Transitions

/-!
# Passes and rounds

A scheduled task goes over a list, and the rest of the system does not wait for it: `Pass` handles
the items one after the other, with any steps of the system in between.  Progress is measured by a
quantity that no step raises.  Where every item lowers it, unless something else has done so before,
a pass lowers it (`Pass.lowers`), and what only a step that lowers it can break holds as long as it
stays the same (`Reaches.level`).  Enough rounds, each of which lowers a quantity, bring it to zero
(`Iterated.descent`).
-/

namespace Foundation

variable {σ ι : Type*} {step : σ → σ → Prop} {handled : ι → σ → σ → Prop} {s s' : σ}

/-- A pass over a list: the states move on between the rows, and each row is handled. -/
inductive Pass (step : σ → σ → Prop) (handled : ι → σ → σ → Prop) : List ι → σ → σ → Prop
  | nil {s s' : σ} (h : Reaches step s s') : Pass step handled [] s s'
  | cons {x : ι} {xs : List ι} {s a b s' : σ} (hbefore : Reaches step s a) (hx : handled x a b)
      (hrest : Pass step handled xs b s') : Pass step handled (x :: xs) s s'

/-- A pass whose items are handled by runs of the system is a run of the system. -/
theorem Pass.reaches {xs : List ι} (h : Pass step handled xs s s')
    (hhandled : ∀ x a b, handled x a b → Reaches step a b) : Reaches step s s' := by
  induction h with
  | nil h => exact h
  | cons hbefore hx _ ih => exact (hbefore.trans (hhandled _ _ _ hx)).trans ih

/-- A pass comes to each of its items. -/
theorem Pass.visits {xs : List ι} (h : Pass step handled xs s s')
    (hhandled : ∀ x a b, handled x a b → Reaches step a b) {x : ι} (hx : x ∈ xs) :
    ∃ a b, Reaches step s a ∧ handled x a b ∧ Reaches step b s' := by
  induction h with
  | nil => cases hx
  | @cons y ys s a b s' hbefore hy hrest ih =>
    rcases List.mem_cons.mp hx with rfl | hx
    · exact ⟨a, b, hbefore, hy, hrest.reaches hhandled⟩
    · obtain ⟨a', b', hbefore', hx', hafter⟩ := ih hx
      exact ⟨a', b', (hbefore.trans (hhandled _ _ _ hy)).trans hbefore', hx', hafter⟩

/-! ## A quantity that no step raises -/

section

variable {I : σ → Prop} {m : σ → ℕ}

/-- A measure that no step raises is not raised along a path. -/
theorem Reaches.not_raised (h : Reaches step s s') (hs : I s)
    (hstep : ∀ a b, I a → step a b → I b ∧ m b ≤ m a) : I s' ∧ m s' ≤ m s := by
  induction h with
  | refl => exact ⟨hs, Nat.le_refl _⟩
  | tail _ hbc ih =>
    obtain ⟨hc, hle⟩ := hstep _ _ ih.1 hbc
    exact ⟨hc, Nat.le_trans hle ih.2⟩

/-- While the quantity stays the same, a property lasts that every step keeps which does not lower
it. -/
theorem Reaches.level {P : σ → Prop} (h : Reaches step s s') (hs : I s)
    (hstep : ∀ a b, I a → step a b → I b ∧ m b ≤ m a)
    (hkept : ∀ a b, I a → step a b → m a ≤ m b → P a → P b) (hm : m s ≤ m s') (hP : P s) :
    P s' := by
  induction h with
  | refl => exact hP
  | @tail b c hab hbc ih =>
    obtain ⟨hb, hle⟩ := Reaches.not_raised hab hs hstep
    have hle' := (hstep b c hb hbc).2
    exact hkept b c hb hbc (Nat.le_trans hle hm) (ih (Nat.le_trans hm hle'))

/-- A pass lowers the quantity if one of its items does, where nothing has lowered it before. -/
theorem Pass.lowers {xs : List ι} (h : Pass step handled xs s s') (hs : I s)
    (hhandled : ∀ x a b, handled x a b → Reaches step a b)
    (hstep : ∀ a b, I a → step a b → I b ∧ m b ≤ m a) {x : ι} (hx : x ∈ xs)
    (hitem : ∀ a b, I a → Reaches step s a → m s ≤ m a → handled x a b → m b < m s) :
    m s' < m s := by
  obtain ⟨a, b, hbefore, hab, hafter⟩ := h.visits hhandled hx
  obtain ⟨ha, -⟩ := Reaches.not_raised hbefore hs hstep
  obtain ⟨hb, hle⟩ := Reaches.not_raised (hhandled x a b hab) ha hstep
  obtain ⟨-, hle'⟩ := Reaches.not_raised hafter hb hstep
  by_cases hlow : m a < m s
  · omega
  · exact Nat.lt_of_le_of_lt hle' (hitem a b ha hbefore (Nat.le_of_not_lt hlow) hab)

end

/-! ## Rounds -/

variable {round : σ → σ → Prop} {n : ℕ}

/-- A number of rounds, one after the other. -/
inductive Iterated (round : σ → σ → Prop) : ℕ → σ → σ → Prop
  | zero (s : σ) : Iterated round 0 s s
  | succ {n : ℕ} {s s' s'' : σ} (h : round s s') (hrest : Iterated round n s' s'') :
      Iterated round (n + 1) s s''

/-- Rounds that are runs of the system, one after the other, are a run of the system. -/
theorem Iterated.reaches (h : Iterated round n s s')
    (hround : ∀ a b, round a b → Reaches step a b) : Reaches step s s' := by
  induction h with
  | zero => exact .refl
  | succ hab _ ih => exact (hround _ _ hab).trans ih

/-- A quantity that every round brings down by one, as long as it is not zero. -/
theorem Iterated.descent {I : σ → Prop} {m : σ → ℕ} (h : Iterated round n s s') (hs : I s)
    (hround : ∀ a b, I a → round a b → I b ∧ m b ≤ m a - 1) : I s' ∧ m s' ≤ m s - n := by
  induction h with
  | zero s => exact ⟨hs, Nat.le_refl _⟩
  | @succ n a b c hstep _ ih =>
    obtain ⟨hb, hle⟩ := hround a b hs hstep
    obtain ⟨hc, hrest⟩ := ih hb
    exact ⟨hc, by omega⟩

end Foundation
