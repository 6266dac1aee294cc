import Mathlib.Algebra.BigOperators.Group.Finset.Basic
import Mathlib.Algebra.BigOperators.Group.Finset.Sigma
import Chargeflow.Foundation.Table

/-!
# Totals over the rows of a table

The total of a column over the rows that satisfy a test.  It can be counted in parts, and the totals
of two tables agree when their rows are matched one to one by a common key.  A total over matched
pairs is the total over the rows that have a match.
-/

namespace Foundation

namespace Table

variable {α β κ M : Type*} [Keyed α] [Keyed β] [AddCommMonoid M]

/-- The total of the column `f` over the rows that satisfy `p`. -/
def total (t : Table α) (p : α → Bool) (f : α → M) : M := ((t.filter p).map f).sum

/-- A total depends only on the rows it counts. -/
theorem total_congr {t : Table α} {p q : α → Bool} (f : α → M) (h : ∀ a ∈ t, p a = q a) :
    t.total p f = t.total q f := by
  have hrows : t.filter p = t.filter q := List.filter_congr h
  rw [total, total, hrows]

/-- The rows are counted in two parts. -/
theorem total_split (t : Table α) (p q : α → Bool) (f : α → M) :
    t.total p f = t.total (fun a => p a && q a) f + t.total (fun a => p a && !q a) f := by
  unfold total filter
  induction t.rows with
  | nil => simp
  | cons a rows ih =>
    cases hp : p a with
    | false => simpa [List.filter_cons, hp] using ih
    | true =>
      cases hq : q a with
      | false => simp [hp, hq, ih, add_left_comm]
      | true => simp [hp, hq, ih, add_assoc]

/-- A total as a sum over the set of rows. -/
theorem total_eq_sum [DecidableEq α] (t : Table α) (p : α → Bool) (f : α → M) :
    t.total p f = (t.filter p).toFinset.sum f :=
  (List.sum_toFinset f (nodup_filter p)).symm

/-- The totals of two tables agree when their rows are matched one to one. -/
theorem total_eq_of_matched {t : Table α} {u : Table β} {p : α → Bool} {q : β → Bool} {f : α → M}
    {g : β → M} (k : α → κ) (l : β → κ)
    (hk : ∀ a ∈ t, ∀ a' ∈ t, p a = true → p a' = true → k a = k a' → a = a')
    (hl : ∀ b ∈ u, ∀ b' ∈ u, q b = true → q b' = true → l b = l b' → b = b')
    (hto : ∀ a ∈ t, p a = true → ∃ b ∈ u, q b = true ∧ l b = k a ∧ g b = f a)
    (hfrom : ∀ b ∈ u, q b = true → ∃ a ∈ t, p a = true ∧ k a = l b) :
    t.total p f = u.total q g := by
  classical
  choose match? hmem htest hkey hvalue using hto
  rw [total_eq_sum, total_eq_sum]
  have hrow : ∀ {a : α}, a ∈ (t.filter p).toFinset → a ∈ t ∧ p a = true := by simp
  have hrow' : ∀ {b : β}, b ∈ (u.filter q).toFinset ↔ b ∈ u ∧ q b = true := by simp
  refine Finset.sum_bij (fun a ha => match? a (hrow ha).1 (hrow ha).2) ?_ ?_ ?_ ?_
  · intro a ha
    exact hrow'.mpr ⟨hmem a _ _, htest a _ _⟩
  · intro a ha a' ha' heq
    refine hk a (hrow ha).1 a' (hrow ha').1 (hrow ha).2 (hrow ha').2 ?_
    rw [← hkey a (hrow ha).1 (hrow ha).2, ← hkey a' (hrow ha').1 (hrow ha').2, heq]
  · intro b hb
    obtain ⟨hb, hqb⟩ := hrow'.mp hb
    obtain ⟨a, ha, hpa, hka⟩ := hfrom b hb hqb
    refine ⟨a, List.mem_toFinset.mpr (mem_filter.mpr ⟨ha, hpa⟩), ?_⟩
    exact hl _ (hmem a ha hpa) b hb (htest a ha hpa) hqb ((hkey a ha hpa).trans hka)
  · intro a ha
    exact (hvalue a (hrow ha).1 (hrow ha).2).symm

/-- The total over the rows that are matched with the rows of another table, one match for each. -/
theorem sum_total_matched [DecidableEq κ] (t : Table α) (u : Table β) (p : α → Bool) (q : β → Bool)
    (f : α → M) (k : α → κ) (l : β → κ)
    (hl : ∀ b ∈ u, ∀ b' ∈ u, q b = true → q b' = true → l b = l b' → b = b') :
    ((u.filter q).map fun b => t.total (fun a => p a && l b == k a) f).sum =
      t.total (fun a => p a && u.any fun b => q b && l b == k a) f := by
  classical
  have hmatched : ∀ a ∈ (t.filter fun a => p a && u.any fun b => q b && l b == k a).toFinset,
      ∑ b ∈ (u.filter fun b => q b && l b == k a).toFinset, f a = f a := by
    intro a ha
    simp only [List.mem_toFinset, mem_filter, Bool.and_eq_true, any_eq_true, beq_iff_eq] at ha
    obtain ⟨-, -, b, hb, hqb, hkey⟩ := ha
    have hone : (u.filter fun b => q b && l b == k a) = [b] := by
      refine filter_of_unique hb (by simp [hqb, hkey]) ?_
      intro b' hb' htest
      simp only [Bool.and_eq_true, beq_iff_eq] at htest
      exact hl b' hb' b hb htest.1 hqb (htest.2.trans hkey.symm)
    simp only [hone, List.toFinset_cons, List.toFinset_nil, LawfulSingleton.insert_empty_eq,
      Finset.sum_singleton]
  calc
    _ = ∑ b ∈ (u.filter q).toFinset, t.total (fun a => p a && l b == k a) f :=
      (List.sum_toFinset _ (nodup_filter q)).symm
    _ = ∑ b ∈ (u.filter q).toFinset,
          ∑ a ∈ (t.filter fun a => p a && l b == k a).toFinset, f a :=
      Finset.sum_congr rfl fun b _ => total_eq_sum t _ f
    _ = ∑ a ∈ (t.filter fun a => p a && u.any fun b => q b && l b == k a).toFinset,
          ∑ b ∈ (u.filter fun b => q b && l b == k a).toFinset, f a := by
      refine Finset.sum_comm' ?_
      intro b a
      simp only [List.mem_toFinset, mem_filter, Bool.and_eq_true, any_eq_true, beq_iff_eq]
      constructor
      · rintro ⟨⟨hb, hqb⟩, ha, hpa, hkey⟩
        exact ⟨⟨hb, hqb, hkey⟩, ha, hpa, b, hb, hqb, hkey⟩
      · rintro ⟨⟨hb, hqb, hkey⟩, ha, hpa, -⟩
        exact ⟨⟨hb, hqb⟩, ha, hpa, hkey⟩
    _ = ∑ a ∈ (t.filter fun a => p a && u.any fun b => q b && l b == k a).toFinset, f a :=
      Finset.sum_congr rfl hmatched
    _ = _ := (total_eq_sum t _ f).symm

end Table

end Foundation
