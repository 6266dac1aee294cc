import Mathlib.Data.List.Perm.Basic
import Mathlib.Algebra.Group.End
import Mathlib.Data.List.Nodup
import Mathlib.Logic.Equiv.Basic

/-!
# Renaming fresh numbers

A list whose entries are numbered in their order, from `k` on, and a permutation of it, numbered in
the same way, have the same entries up to a permutation of the numbers.
-/

namespace Foundation

variable {α : Type*}

/-- A permutation of the numbers from `k` on. -/
def above (k : ℕ) (σ : Equiv.Perm ℕ) : Equiv.Perm ℕ where
  toFun n := if n < k then n else k + σ (n - k)
  invFun n := if n < k then n else k + σ.symm (n - k)
  left_inv n := by
    by_cases h : n < k
    · simp [h]
    · have hback : k + (n - k) = n := by omega
      simp [h, hback]
  right_inv n := by
    by_cases h : n < k
    · simp [h]
    · have hback : k + (n - k) = n := by omega
      simp [h, hback]

/-- The numbers below `k` stay. -/
theorem above_of_lt {k n : ℕ} {σ : Equiv.Perm ℕ} (h : n < k) : above k σ n = n := if_pos h

/-- The permutation acts above its bound. -/
@[simp] theorem above_add (k n : ℕ) (σ : Equiv.Perm ℕ) : above k σ (k + n) = k + σ n := by
  simp [above]

/-- A number that lands below the bound stays. -/
theorem eq_of_above_lt {k n : ℕ} {σ : Equiv.Perm ℕ} (h : above k σ n < k) : above k σ n = n :=
  (above k σ).injective (above_of_lt h)

/-- Where a number from `k` on comes from. -/
theorem above_eq_add_iff {k m n : ℕ} {σ : Equiv.Perm ℕ} :
    above k σ n = k + m ↔ n = k + σ.symm m := by
  rw [← (above k σ).injective.eq_iff (a := n), above_add, Equiv.apply_symm_apply]

/-- Where the entries of a list are in a permutation of it. -/
theorem exists_renaming {l l' : List α} (h : l.Perm l') :
    ∃ σ : Equiv.Perm ℕ, ∀ n, l'[σ n]? = l[n]? := by
  induction h with
  | nil => exact ⟨1, fun n => rfl⟩
  | @cons a l l' _ ih =>
    obtain ⟨σ, hσ⟩ := ih
    refine ⟨above 1 σ, fun n => ?_⟩
    cases n with
    | zero => rfl
    | succ n =>
      rw [Nat.add_comm n 1, above_add, Nat.add_comm 1, Nat.add_comm 1]
      exact hσ n
  | swap a b l =>
    refine ⟨Equiv.swap 0 1, fun n => ?_⟩
    match n with
    | 0 => rfl
    | 1 => rfl
    | n + 2 =>
      rw [Equiv.swap_apply_of_ne_of_ne (by omega) (by omega)]
      rfl
  | trans _ _ ih₁ ih₂ =>
    obtain ⟨σ₁, h₁⟩ := ih₁
    obtain ⟨σ₂, h₂⟩ := ih₂
    exact ⟨σ₂ * σ₁, fun n => (h₂ (σ₁ n)).trans (h₁ n)⟩

/-- The positions of the entries are the same. -/
theorem renaming_lt {l l' : List α} (hlength : l.length = l'.length) {σ : Equiv.Perm ℕ}
    (hσ : ∀ n, l'[σ n]? = l[n]?) {n : ℕ} : σ n < l.length ↔ n < l.length := by
  rw [← not_iff_not, Nat.not_lt, Nat.not_lt]
  rw [← List.getElem?_eq_none_iff (l := l) (i := n), ← hσ n, hlength, List.getElem?_eq_none_iff]

/-- The numbers of the entries, renamed, are the numbers of the entries. -/
theorem map_above_range {l l' : List α} (hlength : l.length = l'.length) {σ : Equiv.Perm ℕ}
    (hσ : ∀ n, l'[σ n]? = l[n]?) (k : ℕ) :
    ((List.range l.length).map (k + ·)).Perm
      (((List.range l.length).map (k + ·)).map (above k σ)) := by
  have hinj : Function.Injective (k + ·) := fun m n h => Nat.add_left_cancel h
  have hnodup : ((List.range l.length).map (k + ·)).Nodup := List.nodup_range.map hinj
  refine (List.perm_ext_iff_of_nodup hnodup (hnodup.map (above k σ).injective)).mpr fun m => ?_
  simp only [List.mem_map, List.mem_range]
  constructor
  · rintro ⟨n, hn, rfl⟩
    refine ⟨k + σ.symm n, ⟨σ.symm n, ?_, rfl⟩, by simp⟩
    rw [← renaming_lt hlength hσ, Equiv.apply_symm_apply]
    exact hn
  · rintro ⟨_, ⟨n, hn, rfl⟩, rfl⟩
    exact ⟨σ n, (renaming_lt hlength hσ).mpr hn, (above_add k n σ).symm⟩

end Foundation
