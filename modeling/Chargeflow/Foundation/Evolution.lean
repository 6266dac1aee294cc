import Mathlib.Order.Nat
import Chargeflow.Foundation.Table

/-!
# The evolution of a table

A table evolves into another one when no row is deleted, every row that was there is related to its
present version, and every other row has a key that was free.  Evolutions along a transitive
relation compose, so what a relation says about one step it says about any number of steps.
-/

namespace Foundation

/-- Every row of `t` has a version in `t'` that `R` relates it to, and the other rows of `t'` are
new. -/
structure Table.Evolves {α : Type*} [Keyed α] (R : α → α → Prop) (t t' : Table α) : Prop where
  next_le : t.next ≤ t'.next
  kept : ∀ a ∈ t, ∃ a' ∈ t', key a' = key a ∧ R a a'
  origin : ∀ a' ∈ t', (∃ a ∈ t, key a = key a' ∧ R a a') ∨ t.next ≤ key a'

namespace Table.Evolves

variable {α : Type*} [Keyed α] {R : α → α → Prop} {t t' t'' : Table α}

/-- A table evolves to itself. -/
theorem refl (hrefl : ∀ a, R a a) (t : Table α) : Evolves R t t where
  next_le := le_rfl
  kept a ha := ⟨a, ha, rfl, hrefl a⟩
  origin a ha := Or.inl ⟨a, ha, rfl, hrefl a⟩

/-- An insertion lets a table evolve. -/
theorem insert (hrefl : ∀ a, R a a) (t : Table α) (a : α) : Evolves R t (t.insert a) where
  next_le := Nat.le_succ _
  kept b hb := ⟨b, Table.mem_insert_of_mem hb, rfl, hrefl b⟩
  origin b hb := by
    rcases Table.mem_insert.mp hb with hb | rfl
    · exact Or.inl ⟨b, hb, rfl, hrefl b⟩
    · exact Or.inr (key_withKey _ _).ge

/-- The update of a row lets a table evolve if the row does. -/
theorem update (hrefl : ∀ a, R a a) {a a' : α} (ha : a ∈ t) (hR : R a a')
    (hkey : key a' = key a) : Evolves R t (t.update a') where
  next_le := le_rfl
  kept b hb := by
    rcases Table.exists_mem_update ha hkey hb with ⟨-, hb'⟩ | ⟨rfl, hb'⟩
    · exact ⟨b, hb', rfl, hrefl b⟩
    · exact ⟨a', hb', hkey, hR⟩
  origin b hb := by
    rcases (Table.mem_update_of_mem ha hkey).mp hb with rfl | ⟨hb, -⟩
    · exact Or.inl ⟨a, ha, hkey.symm, hR⟩
    · exact Or.inl ⟨b, hb, rfl, hrefl b⟩

/-- A table whose rows are the images of the rows of another one under a map that keeps the
keys. -/
theorem of_image {f : α → α} (hkey : ∀ a, key (f a) = key a) (hR : ∀ a ∈ t, R a (f a))
    (hnext : t'.next = t.next) (hrows : ∀ b, b ∈ t' ↔ ∃ a ∈ t, b = f a) : Evolves R t t' where
  next_le := hnext.ge
  kept a ha := ⟨f a, (hrows _).mpr ⟨a, ha, rfl⟩, hkey a, hR a ha⟩
  origin b hb := by
    obtain ⟨a, ha, rfl⟩ := (hrows b).mp hb
    exact Or.inl ⟨a, ha, (hkey a).symm, hR a ha⟩

/-- Evolution is transitive if the relation on rows is. -/
theorem trans (htrans : ∀ a b c, R a b → R b c → R a c) (h : Evolves R t t')
    (h' : Evolves R t' t'') : Evolves R t t'' where
  next_le := h.next_le.trans h'.next_le
  kept a ha := by
    obtain ⟨b, hb, hba, hR⟩ := h.kept a ha
    obtain ⟨c, hc, hcb, hR'⟩ := h'.kept b hb
    exact ⟨c, hc, hcb.trans hba, htrans _ _ _ hR hR'⟩
  origin c hc := by
    rcases h'.origin c hc with ⟨b, hb, hbc, hR'⟩ | hnew
    · rcases h.origin b hb with ⟨a, ha, hab, hR⟩ | hnew
      · exact Or.inl ⟨a, ha, hab.trans hbc, htrans _ _ _ hR hR'⟩
      · exact Or.inr (hnew.trans hbc.le)
    · exact Or.inr (h.next_le.trans hnew)

/-- A table evolves along a wider relation too. -/
theorem mono {S : α → α → Prop} (hRS : ∀ a b, R a b → S a b) (h : Evolves R t t') :
    Evolves S t t' where
  next_le := h.next_le
  kept a ha := by
    obtain ⟨b, hb, hkey, hR⟩ := h.kept a ha
    exact ⟨b, hb, hkey, hRS a b hR⟩
  origin b hb := by
    rcases h.origin b hb with ⟨a, ha, hkey, hR⟩ | hnew
    · exact Or.inl ⟨a, ha, hkey, hRS a b hR⟩
    · exact Or.inr hnew

/-- Two versions of a row, one in each table, are related. -/
theorem rel (h : Evolves R t t') {a a' : α} (ha : a ∈ t) (ha' : a' ∈ t') (hkey : key a' = key a) :
    R a a' := by
  obtain ⟨b, hb, hba, hR⟩ := h.kept a ha
  rwa [Table.eq_of_key_eq ha' hb (hkey.trans hba.symm)]

/-- A row with a key that was in use is a version of an old row. -/
theorem origin_of_lt (h : Evolves R t t') {a' : α} (ha' : a' ∈ t') (hlt : key a' < t.next) :
    ∃ a ∈ t, key a = key a' ∧ R a a' := by
  rcases h.origin a' ha' with hold | hnew
  · exact hold
  · omega

end Table.Evolves

/-! ## A column that is not written -/

/-- A table evolves, and its rows keep their values of `f`. -/
def Table.Keeps {α β : Type*} [Keyed α] (f : α → β) (t t' : Table α) : Prop :=
  Table.Evolves (fun a a' => f a' = f a) t t'

namespace Table.Keeps

variable {α β : Type*} [Keyed α] {f : α → β} {t t' t'' : Table α}

/-- A table keeps its own values. -/
theorem refl (t : Table α) : Keeps f t t :=
  Evolves.refl (R := fun a a' => f a' = f a) (fun _ => rfl) t

/-- An insertion keeps the values of the rows. -/
theorem insert (t : Table α) (a : α) : Keeps f t (t.insert a) :=
  Evolves.insert (R := fun a a' => f a' = f a) (fun _ => rfl) t a

/-- The update of a row keeps the values if the row keeps its own. -/
theorem update {a a' : α} (ha : a ∈ t) (hf : f a' = f a) (hkey : key a' = key a) :
    Keeps f t (t.update a') :=
  Evolves.update (R := fun a a' => f a' = f a) (fun _ => rfl) ha hf hkey

/-- Values that are kept twice are kept. -/
theorem trans (h : Keeps f t t') (h' : Keeps f t' t'') : Keeps f t t'' :=
  Evolves.trans (fun _ _ _ hab hbc => hbc.trans hab) h h'

end Table.Keeps

/-! ## Counting versions -/

namespace Table

variable {α : Type*} [Keyed α] {t t' : Table α} {p q : α → Bool}

/-- The rows that pass a test have different keys. -/
theorem nodup_keys_filter (t : Table α) (p : α → Bool) : ((t.filter p).map key).Nodup :=
  List.Nodup.sublist (List.Sublist.map key List.filter_sublist) t.keys_nodup

/-- At least as many rows pass a test as another one, if every row that passes the other one has a
version that passes it. -/
theorem length_filter_le (h : ∀ a ∈ t, p a = true → ∃ a' ∈ t', key a' = key a ∧ q a' = true) :
    (t.filter p).length ≤ (t'.filter q).length := by
  have hsub : (t.filter p).map key ⊆ (t'.filter q).map key := by
    intro n hn
    obtain ⟨a, ha, rfl⟩ := List.mem_map.mp hn
    obtain ⟨ha, hpa⟩ := mem_filter.mp ha
    obtain ⟨a', ha', hkey, hqa⟩ := h a ha hpa
    exact List.mem_map.mpr ⟨a', mem_filter.mpr ⟨ha', hqa⟩, hkey⟩
  have hle := List.Nodup.length_le_of_subset (nodup_keys_filter t p) hsub
  rwa [List.length_map, List.length_map] at hle

/-- More rows pass the test if one of them has no version that passes the other one. -/
theorem length_filter_lt (h : ∀ a ∈ t, p a = true → ∃ a' ∈ t', key a' = key a ∧ q a' = true)
    {b : α} (hb : b ∈ t') (hqb : q b = true) (hnew : ∀ a ∈ t, key a = key b → p a = false) :
    (t.filter p).length < (t'.filter q).length := by
  have hnot : key b ∉ (t.filter p).map key := by
    intro hmem
    obtain ⟨a, ha, hkey⟩ := List.mem_map.mp hmem
    obtain ⟨ha, hpa⟩ := mem_filter.mp ha
    rw [hnew a ha hkey] at hpa
    cases hpa
  have hsub : key b :: (t.filter p).map key ⊆ (t'.filter q).map key := by
    intro n hn
    rcases List.mem_cons.mp hn with rfl | hn
    · exact List.mem_map.mpr ⟨b, mem_filter.mpr ⟨hb, hqb⟩, rfl⟩
    · obtain ⟨a, ha, rfl⟩ := List.mem_map.mp hn
      obtain ⟨ha, hpa⟩ := mem_filter.mp ha
      obtain ⟨a', ha', hkey, hqa⟩ := h a ha hpa
      exact List.mem_map.mpr ⟨a', mem_filter.mpr ⟨ha', hqa⟩, hkey⟩
  have hnodup : (key b :: (t.filter p).map key).Nodup :=
    List.nodup_cons.mpr ⟨hnot, nodup_keys_filter t p⟩
  have hle := List.Nodup.length_le_of_subset hnodup hsub
  rwa [List.length_cons, List.length_map, List.length_map] at hle

end Table

end Foundation
