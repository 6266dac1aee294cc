import Mathlib.Data.List.Induction
import Chargeflow.Foundation.Transitions

/-!
# Logs in which the first entry of a key counts

The entries of a log may carry a key.  `firsts` drops every entry whose key an earlier one carries,
and `replay` runs the entries of a log one after the other.  A system that ignores an entry whose
key it has seen is in the state that the replay of the first entries leads to.
-/

namespace Foundation

section

variable {ι κ : Type*} [DecidableEq κ]

/-- Add an entry, unless its key is in the list already. -/
def keepFirst (key : ι → Option κ) (kept : List ι) (a : ι) : List ι :=
  if (key a).isSome && kept.any (fun b => key b == key a) then kept else kept ++ [a]

/-- The entries of a log whose key no earlier entry carries, in their order. -/
def firsts (key : ι → Option κ) (log : List ι) : List ι := log.foldl (keepFirst key) []

variable {key : ι → Option κ} {log : List ι} {a : ι}

/-- The first entries of a longer log. -/
theorem firsts_append : firsts key (log ++ [a]) = keepFirst key (firsts key log) a := by
  simp [firsts]

/-- No key is lost. -/
theorem exists_mem_firsts_iff {k : κ} :
    (∃ b ∈ firsts key log, key b = some k) ↔ ∃ b ∈ log, key b = some k := by
  induction log using List.reverseRecOn with
  | nil => simp [firsts]
  | append_singleton log a ih =>
    have hlog : (∃ b ∈ log ++ [a], key b = some k) ↔
        (∃ b ∈ log, key b = some k) ∨ key a = some k := by
      simp only [List.mem_append, List.mem_singleton, or_and_right, exists_or, exists_eq_left]
    rw [firsts_append, keepFirst, hlog, ← ih]
    by_cases hseen : ((key a).isSome && (firsts key log).any fun b => key b == key a) = true
    · rw [if_pos hseen]
      simp only [Bool.and_eq_true, List.any_eq_true, beq_iff_eq] at hseen
      obtain ⟨-, b, hb, heq⟩ := hseen
      exact ⟨Or.inl, fun h => h.elim id fun ha => ⟨b, hb, heq.trans ha⟩⟩
    · rw [if_neg hseen]
      simp only [List.mem_append, List.mem_singleton, or_and_right, exists_or, exists_eq_left]

/-- A further entry of a key is dropped. -/
theorem firsts_append_seen {k : κ} (ha : key a = some k) (hseen : ∃ b ∈ log, key b = some k) :
    firsts key (log ++ [a]) = firsts key log := by
  obtain ⟨b, hb, hbk⟩ := exists_mem_firsts_iff.mpr hseen
  rw [firsts_append, keepFirst, if_pos]
  simp only [Bool.and_eq_true, List.any_eq_true, beq_iff_eq]
  exact ⟨by rw [ha]; rfl, b, hb, hbk.trans ha.symm⟩

/-- The first entry of a key is kept, and so is an entry without a key. -/
theorem firsts_append_new (hnew : ∀ k, key a = some k → ∀ b ∈ log, key b ≠ some k) :
    firsts key (log ++ [a]) = firsts key log ++ [a] := by
  rw [firsts_append, keepFirst, if_neg]
  simp only [Bool.and_eq_true, List.any_eq_true, beq_iff_eq, not_and]
  rintro hsome ⟨b, hb, heq⟩
  obtain ⟨k, hk⟩ := Option.isSome_iff_exists.mp hsome
  obtain ⟨b', hb', hbk⟩ := exists_mem_firsts_iff.mp ⟨b, hb, heq.trans hk⟩
  exact hnew k hk b' hb' hbk

end

section

variable {ι ε σ : Type} {apply : ι → σ → Except ε σ}

/-- Run the entries of a log one after the other; it fails when one of them does. -/
def replay (apply : ι → σ → Except ε σ) (s : σ) (log : List ι) : Except ε σ :=
  log.foldlM (fun s a => apply a s) s

/-- A replay goes on with the next entry. -/
theorem replay_append {s s' s'' : σ} {log : List ι} {a : ι} (h : replay apply s log = .ok s')
    (ha : apply a s' = .ok s'') : replay apply s (log ++ [a]) = .ok s'' := by
  unfold replay at h ⊢
  rw [List.foldlM_append, h, ok_bind, List.foldlM_cons, ha]
  rfl

/-- A replay is a run of any system whose steps all entries are. -/
theorem replay_reaches {step : σ → σ → Prop} {s s' : σ} {log : List ι}
    (h : replay apply s log = .ok s') (hstep : ∀ a t t', apply a t = .ok t' → step t t') :
    Reaches step s s' := by
  unfold replay at h
  induction log generalizing s with
  | nil =>
    obtain rfl := Except.ok.inj h
    exact .refl
  | cons a log ih =>
    rw [List.foldlM_cons] at h
    obtain ⟨t, ha, hrest⟩ := bind_eq_ok_iff.mp h
    exact .head (hstep a s t ha) (ih hrest)

end

end Foundation
