import Chargeflow.Foundation.Evolution

/-!
# Rows that belong to rows of another table

A row of one table refers to a row of another by its key, and both name their owner.  `Belongs` says
that the reference exists and that the owners agree.  It is kept by any change of the referring
table that checks the rows it writes, and by any change of the other table that leaves the owners of
the rows referred to alone.
-/

namespace Foundation

variable {α β : Type*} [Keyed α] [Keyed β] {parent owner : α → ℕ} {owner' : β → ℕ}
  {t : Table α} {u u' : Table β}

/-- The row `a` refers to a row of `u` that has the same owner. -/
def RefersTo (parent owner : α → ℕ) (owner' : β → ℕ) (u : Table β) (a : α) : Prop :=
  ∃ b ∈ u, key b = parent a ∧ owner' b = owner a

/-- Every row of `t` refers to a row of `u` that has the same owner. -/
def Belongs (parent owner : α → ℕ) (owner' : β → ℕ) (t : Table α) (u : Table β) : Prop :=
  ∀ a ∈ t, RefersTo parent owner owner' u a

namespace Belongs

/-- The rows of no table belong to their parents. -/
theorem empty : Belongs parent owner owner' Table.empty u :=
  fun _ ha => absurd ha Table.not_mem_empty

/-! ## The referring table changes -/

/-- A new row is checked. -/
theorem insert (h : Belongs parent owner owner' t u) {a : α}
    (ha : RefersTo parent owner owner' u (withKey t.next a)) :
    Belongs parent owner owner' (t.insert a) u := by
  intro b hb
  rcases Table.mem_insert.mp hb with hb | rfl
  · exact h b hb
  · exact ha

/-- The new version of a row is checked. -/
theorem update (h : Belongs parent owner owner' t u) {a : α}
    (ha : RefersTo parent owner owner' u a) : Belongs parent owner owner' (t.update a) u := by
  intro b hb
  rcases Table.mem_update.mp hb with ⟨rfl, -⟩ | ⟨hb, -⟩
  · exact ha
  · exact h b hb

/-- The new version of a row has the reference and the owner of the old one. -/
theorem update_same (h : Belongs parent owner owner' t u) {a a' : α} (ha : a ∈ t)
    (hparent : parent a' = parent a) (howner : owner a' = owner a) :
    Belongs parent owner owner' (t.update a') u := by
  refine h.update ?_
  obtain ⟨b, hb, hkey, hown⟩ := h a ha
  exact ⟨b, hb, hkey.trans hparent.symm, hown.trans howner.symm⟩

/-! ## The other table changes -/

/-- The rows referred to keep their owners. -/
theorem of_kept (h : Belongs parent owner owner' t u)
    (hkept : ∀ a ∈ t, ∀ b ∈ u, key b = parent a → ∃ b' ∈ u', key b' = key b ∧
      owner' b' = owner' b) : Belongs parent owner owner' t u' := by
  intro a ha
  obtain ⟨b, hb, hkey, hown⟩ := h a ha
  obtain ⟨b', hb', hkey', hown'⟩ := hkept a ha b hb hkey
  exact ⟨b', hb', hkey'.trans hkey, hown'.trans hown⟩

/-- The other table evolves, and its rows keep their owners. -/
theorem of_keeps (h : Belongs parent owner owner' t u)
    (hu : u.Keeps owner' u') : Belongs parent owner owner' t u' :=
  h.of_kept fun _ _ b hb _ => hu.kept b hb

/-- A new parent takes no row from another. -/
theorem insert_parent (h : Belongs parent owner owner' t u) (b : β) :
    Belongs parent owner owner' t (u.insert b) :=
  h.of_kept fun _ _ b' hb' _ => ⟨b', Table.mem_insert_of_mem hb', rfl, rfl⟩

/-- A row may change its owner while no row refers to it. -/
theorem update_parent (h : Belongs parent owner owner' t u) {b : β}
    (howner : ∀ b₀ ∈ u, key b₀ = key b → owner' b₀ ≠ owner' b → ∀ a ∈ t, parent a ≠ key b) :
    Belongs parent owner owner' t (u.update b) := by
  refine h.of_kept ?_
  intro a ha b₀ hb₀ hkey
  by_cases hsame : key b₀ = key b
  · refine ⟨b, Table.mem_update_self hb₀ hsame.symm, hsame.symm, ?_⟩
    by_contra hmoved
    exact howner b₀ hb₀ hsame (fun heq => hmoved heq.symm) a ha (hkey.symm.trans hsame)
  · exact ⟨b₀, Table.mem_update.mpr (Or.inr ⟨hb₀, hsame⟩), rfl, rfl⟩

end Belongs

end Foundation
