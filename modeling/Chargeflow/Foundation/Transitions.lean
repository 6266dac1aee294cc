import Mathlib.Logic.Relation
import Mathlib.Data.List.Basic

/-!
# Transition systems

Reachability in a system given by a step relation, the induction that lifts an invariant from one
step to a whole run, and traces that remember the steps of a run.  `Except.bind_eq_ok_iff` takes
apart a computation that may abort: it commits exactly when all of its stages do.
-/

namespace Foundation

open Relation

/-- A computation in stages commits exactly when each stage does. -/
theorem bind_eq_ok_iff {ε : Type*} {α β : Type} {x : Except ε α} {f : α → Except ε β} {b : β} :
    (x >>= f) = .ok b ↔ ∃ a, x = .ok a ∧ f a = .ok b := by
  cases x with
  | error e => simp [bind, Except.bind]
  | ok a => simp [bind, Except.bind]

/-- A check and the rest of a computation commit exactly when both do. -/
theorem check_eq_ok_iff {ε β : Type} {x : Except ε Unit} {y : Except ε β} {b : β} :
    (x >>= fun _ => y) = .ok b ↔ x = .ok () ∧ y = .ok b := by
  rw [bind_eq_ok_iff]
  constructor
  · rintro ⟨⟨⟩, hx, hy⟩
    exact ⟨hx, hy⟩
  · rintro ⟨hx, hy⟩
    exact ⟨(), hx, hy⟩

/-- A computation in stages fails where one of its stages does. -/
theorem bind_eq_error_iff {ε : Type*} {α β : Type} {x : Except ε α} {f : α → Except ε β} {e : ε} :
    (x >>= f) = .error e ↔ x = .error e ∨ ∃ a, x = .ok a ∧ f a = .error e := by
  cases x with
  | error e => simp [bind, Except.bind]
  | ok a => simp [bind, Except.bind]

/-- The rest of a computation after a stage that commits. -/
theorem ok_bind {ε α β : Type} (a : α) (f : α → Except ε β) : (Except.ok a >>= f) = f a := rfl

/-- What `pure` returns. -/
@[simp] theorem pure_eq_ok_iff {ε α : Type} {a b : α} :
    (pure a : Except ε α) = .ok b ↔ a = b := by
  simp [pure, Except.pure]

/-- What a mapped result returns. -/
theorem map_eq_ok_iff {ε α β : Type} {x : Except ε α} {f : α → β} {b : β} :
    x.map f = .ok b ↔ ∃ a, x = .ok a ∧ f a = b := by
  cases x <;> simp [Except.map]

/-- What a result with a mapped error returns. -/
theorem mapError_eq_ok_iff {ε ε' α : Type} {x : Except ε α} {f : ε → ε'} {a : α} :
    x.mapError f = .ok a ↔ x = .ok a := by
  cases x <;> simp [Except.mapError]

variable {σ τ : Type*} {step : σ → σ → Prop}

/-- `s'` can be reached from `s` by any number of steps. -/
def Reaches (step : σ → σ → Prop) : σ → σ → Prop := ReflTransGen step

/-- A run of a system is a run of every system with more steps. -/
theorem Reaches.mono {step' : σ → σ → Prop} {s s' : σ} (h : Reaches step s s')
    (hstep : ∀ a b, step a b → step' a b) : Reaches step' s s' :=
  ReflTransGen.mono hstep _ _ h

/-- A property of the initial state that every step from a reachable state preserves holds in every
reachable state. -/
theorem Reaches.invariant {I : σ → Prop} {s s' : σ} (h : Reaches step s s') (h0 : I s)
    (hstep : ∀ a b, Reaches step s a → I a → step a b → I b) : I s' := by
  induction h with
  | refl => exact h0
  | tail hab hbc ih => exact hstep _ _ hab ih hbc

/-- A reflexive and transitive relation that contains every step contains every run. -/
theorem Reaches.relation {R : σ → σ → Prop} {s s' : σ} (h : Reaches step s s')
    (hrefl : ∀ a, R a a) (htrans : ∀ a b c, R a b → R b c → R a c)
    (hstep : ∀ a b, step a b → R a b) : R s s' := by
  induction h with
  | refl => exact hrefl _
  | tail _ hbc ih => exact htrans _ _ _ ih (hstep _ _ hbc)

/-- A run of a system whose steps another system can follow, or ignore, is followed by a run of
that system. -/
theorem Reaches.simulation {f : σ → τ} {step' : τ → τ → Prop} {s s' : σ} (h : Reaches step s s')
    (hsim : ∀ a b, step a b → f b = f a ∨ step' (f a) (f b)) : Reaches step' (f s) (f s') := by
  induction h with
  | refl => exact ReflTransGen.refl
  | tail _ hbc ih =>
    rcases hsim _ _ hbc with heq | hstep
    · rw [heq]; exact ih
    · exact ReflTransGen.tail ih hstep

/-- A run from `s` to `s'` with the list of its steps, each given by the states around it. -/
inductive Trace (step : σ → σ → Prop) : σ → List (σ × σ) → σ → Prop
  | nil (s : σ) : Trace step s [] s
  | cons {a b c : σ} {l : List (σ × σ)} : step a b → Trace step b l c → Trace step a ((a, b) :: l) c

/-- The states of a trace are reached. -/
theorem Trace.reaches {s s' : σ} {l : List (σ × σ)} (h : Trace step s l s') :
    Reaches step s s' := by
  induction h with
  | nil s => exact ReflTransGen.refl
  | cons hstep _ ih => exact ReflTransGen.head hstep ih

/-- Two runs, one after the other. -/
theorem Trace.append {s s' s'' : σ} {l l' : List (σ × σ)} (h : Trace step s l s')
    (h' : Trace step s' l' s'') : Trace step s (l ++ l') s'' := by
  induction h with
  | nil => exact h'
  | cons hstep _ ih => exact .cons hstep (ih h')

/-- A step of a run starts where the steps before it lead. -/
theorem Trace.split {s s' a b : σ} {l₁ l₂ : List (σ × σ)}
    (h : Trace step s (l₁ ++ (a, b) :: l₂) s') : Trace step s l₁ a ∧ step a b := by
  induction l₁ generalizing s with
  | nil =>
    cases h with
    | cons hstep _ => exact ⟨.nil _, hstep⟩
  | cons t l₁ ih =>
    cases h with
    | cons hstep htrace =>
      obtain ⟨hbefore, hab⟩ := ih htrace
      exact ⟨.cons hstep hbefore, hab⟩

end Foundation
