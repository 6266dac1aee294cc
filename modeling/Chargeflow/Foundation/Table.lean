import Mathlib.Data.List.Nodup
import Mathlib.Data.List.Dedup

/-!
# Keyed tables

A relational table as a list of rows in the order of their insertion, each row carrying its own
numeric primary key.  The structure carries the two facts a database guarantees about such a key:
no two rows share one, and the next key handed out is larger than every key in use.  Writing a row
back (`Table.update`) replaces the row with the same key, so no operation can break either fact.
-/

namespace Foundation

/-- A type of rows with a numeric primary key. -/
class Keyed (α : Type*) where
  /-- The primary key of a row. -/
  key : α → ℕ
  /-- The same row under another primary key. -/
  withKey : ℕ → α → α
  /-- Setting the key sets the key. -/
  key_withKey : ∀ n a, key (withKey n a) = n

export Keyed (key withKey key_withKey)

attribute [simp] key_withKey

/-- A table of rows with pairwise distinct positive keys, all below the next free key. -/
structure Table (α : Type*) [Keyed α] where
  /-- The rows, oldest first. -/
  rows : List α
  /-- The key of the next row to be inserted. -/
  next : ℕ
  /-- Keys start at one. -/
  next_pos : 0 < next
  /-- Keys in use are positive. -/
  key_pos : ∀ a ∈ rows, 0 < key a
  /-- Keys in use are below the next key. -/
  key_lt_next : ∀ a ∈ rows, key a < next
  /-- No two rows share a key. -/
  keys_nodup : (rows.map key).Nodup

namespace Table

variable {α : Type*} [Keyed α]

/-- A row is in a table if it is one of its rows. -/
instance : Membership α (Table α) where
  mem t a := a ∈ t.rows

/-- The table without rows. -/
def empty : Table α where
  rows := []
  next := 1
  next_pos := by decide
  key_pos := by simp
  key_lt_next := by simp
  keys_nodup := by simp

/-- The row with a given key. -/
def get? (t : Table α) (n : ℕ) : Option α := t.rows.find? fun a => key a == n

/-- The rows satisfying a test, in the order of their keys. -/
def filter (t : Table α) (p : α → Bool) : List α := t.rows.filter p

/-- Whether some row satisfies a test. -/
def any (t : Table α) (p : α → Bool) : Bool := t.rows.any p

/-- Add a row under the next key. -/
def insert (t : Table α) (a : α) : Table α where
  rows := t.rows ++ [withKey t.next a]
  next := t.next + 1
  next_pos := Nat.succ_pos _
  key_pos := by
    intro b hb
    rcases List.mem_append.mp hb with hb | hb
    · exact t.key_pos b hb
    · rw [List.mem_singleton.mp hb, key_withKey]
      exact t.next_pos
  key_lt_next := by
    intro b hb
    rcases List.mem_append.mp hb with hb | hb
    · exact Nat.lt_succ_of_lt (t.key_lt_next b hb)
    · rw [List.mem_singleton.mp hb, key_withKey]
      exact Nat.lt_succ_self _
  keys_nodup := by
    rw [List.map_append, List.nodup_append]
    refine ⟨t.keys_nodup, by simp, ?_⟩
    intro m hm n hn heq
    obtain ⟨b, hb, rfl⟩ := List.mem_map.mp hm
    have hlt := t.key_lt_next b hb
    simp only [List.map_cons, List.map_nil, List.mem_singleton, key_withKey] at hn
    omega

/-- Replace the row that has the key of `a` by `a`; a table without such a row is left alone. -/
def update (t : Table α) (a : α) : Table α where
  rows := t.rows.map fun b => if key b = key a then a else b
  next := t.next
  next_pos := t.next_pos
  key_pos := by
    intro c hc
    obtain ⟨b, hb, rfl⟩ := List.mem_map.mp hc
    split_ifs with h
    · rw [← h]; exact t.key_pos b hb
    · exact t.key_pos b hb
  key_lt_next := by
    intro c hc
    obtain ⟨b, hb, rfl⟩ := List.mem_map.mp hc
    split_ifs with h
    · rw [← h]; exact t.key_lt_next b hb
    · exact t.key_lt_next b hb
  keys_nodup := by
    have hmap : (t.rows.map fun b => if key b = key a then a else b).map key = t.rows.map key := by
      rw [List.map_map]
      refine List.map_congr_left ?_
      intro b _
      simp only [Function.comp_apply]
      split_ifs with h
      · exact h.symm
      · rfl
    rw [hmap]
    exact t.keys_nodup

/-! ## Rows and keys -/

/-- Membership in a table is membership among its rows. -/
theorem mem_def {t : Table α} {a : α} : a ∈ t ↔ a ∈ t.rows := Iff.rfl

/-- The empty table has no rows. -/
@[simp] theorem not_mem_empty {a : α} : a ∉ (empty : Table α) := by
  simp [mem_def, empty]

/-- Two rows with the same key are the same row. -/
theorem eq_of_key_eq {t : Table α} {a b : α} (ha : a ∈ t) (hb : b ∈ t) (h : key a = key b) :
    a = b :=
  List.inj_on_of_nodup_map t.keys_nodup ha hb h

/-- Every key in use is below the next key. -/
theorem key_lt {t : Table α} {a : α} (ha : a ∈ t) : key a < t.next := t.key_lt_next a ha

/-- A row is found under its key, and only under its key. -/
theorem get?_eq_some_iff {t : Table α} {n : ℕ} {a : α} :
    t.get? n = some a ↔ a ∈ t ∧ key a = n := by
  constructor
  · intro h
    exact ⟨List.mem_of_find?_eq_some h, by simpa using List.find?_some h⟩
  · rintro ⟨ha, rfl⟩
    cases hf : t.get? (key a) with
    | none =>
      have := List.find?_eq_none.mp hf a ha
      simp at this
    | some b =>
      have hb : b ∈ t := List.mem_of_find?_eq_some hf
      have hkey : key b = key a := by simpa using List.find?_some hf
      rw [eq_of_key_eq hb ha hkey]

/-- A row is found under its own key. -/
theorem get?_key {t : Table α} {a : α} (ha : a ∈ t) : t.get? (key a) = some a :=
  get?_eq_some_iff.mpr ⟨ha, rfl⟩

/-- No row has the key zero. -/
theorem get?_zero {t : Table α} : t.get? 0 = none := by
  cases h : t.get? 0 with
  | none => rfl
  | some a =>
    obtain ⟨ha, hkey⟩ := get?_eq_some_iff.mp h
    exact absurd hkey (Nat.pos_iff_ne_zero.mp (t.key_pos a ha))

/-- The rows selected by a test. -/
@[simp] theorem mem_filter {t : Table α} {p : α → Bool} {a : α} :
    a ∈ t.filter p ↔ a ∈ t ∧ p a = true := List.mem_filter

/-- The first row passing a test is a row passing it. -/
theorem head?_filter_eq_some {t : Table α} {p : α → Bool} {a : α}
    (h : (t.filter p).head? = some a) : a ∈ t ∧ p a = true :=
  mem_filter.mp (List.mem_of_head? h)

/-- There is no first row passing a test exactly when no row passes it. -/
theorem head?_filter_eq_none {t : Table α} {p : α → Bool} :
    (t.filter p).head? = none ↔ ∀ a ∈ t, p a = false := by
  simp [filter, mem_def]

/-- The one row passing a test is the first one. -/
theorem head?_filter_of_unique {t : Table α} {p : α → Bool} {a : α} (ha : a ∈ t) (hpa : p a = true)
    (hunique : ∀ b ∈ t, p b = true → b = a) : (t.filter p).head? = some a := by
  cases h : (t.filter p).head? with
  | none => simp [head?_filter_eq_none.mp h a ha] at hpa
  | some b =>
    obtain ⟨hb, hpb⟩ := head?_filter_eq_some h
    rw [hunique b hb hpb]

/-- A test succeeds on a table when it succeeds on one of its rows. -/
@[simp] theorem any_eq_true {t : Table α} {p : α → Bool} :
    t.any p = true ↔ ∃ a ∈ t, p a = true := List.any_eq_true

/-- A test fails on a table when it fails on all of its rows. -/
@[simp] theorem any_eq_false {t : Table α} {p : α → Bool} :
    t.any p = false ↔ ∀ a ∈ t, p a = false := by
  simp [any, mem_def, List.any_eq_false]

/-- Whether all rows have a property can be computed. -/
instance {t : Table α} {P : α → Prop} [DecidablePred P] : Decidable (∀ a ∈ t, P a) :=
  inferInstanceAs (Decidable (∀ a ∈ t.rows, P a))

/-- Whether some row has a property can be computed. -/
instance {t : Table α} {P : α → Prop} [DecidablePred P] : Decidable (∃ a ∈ t, P a) :=
  inferInstanceAs (Decidable (∃ a ∈ t.rows, P a))

/-! ## Reading after writing -/

/-- The rows after an insertion are the old rows and the new one. -/
@[simp] theorem mem_insert {t : Table α} {a b : α} :
    b ∈ t.insert a ↔ b ∈ t ∨ b = withKey t.next a := by
  simp [mem_def, insert]

/-- The new row is in the table. -/
theorem mem_insert_self {t : Table α} {a : α} : withKey t.next a ∈ t.insert a :=
  mem_insert.mpr (Or.inr rfl)

/-- Old rows survive an insertion. -/
theorem mem_insert_of_mem {t : Table α} {a b : α} (hb : b ∈ t) : b ∈ t.insert a :=
  mem_insert.mpr (Or.inl hb)

/-- No two rows share a value of a column. -/
def Unique {β : Type*} (f : α → β) (t : Table α) : Prop := ∀ a ∈ t, ∀ b ∈ t, f a = f b → a = b

/-- A row with a value no other row has may be inserted. -/
theorem Unique.insert {β : Type*} {f : α → β} {t : Table α} (h : t.Unique f) {a : α}
    (hf : f (withKey t.next a) = f a) (hnew : ∀ b ∈ t, f b ≠ f a) : (t.insert a).Unique f := by
  intro b hb c hc hbc
  rcases mem_insert.mp hb with hb | rfl <;> rcases mem_insert.mp hc with hc | rfl
  · exact h b hb c hc hbc
  · exact absurd (hbc.trans hf) (hnew b hb)
  · exact absurd (hbc.symm.trans hf) (hnew c hc)
  · rfl

/-- Add rows, one after the other. -/
def insertAll (t : Table α) (l : List α) : Table α := l.foldl insert t

/-- Each inserted row takes the next key. -/
@[simp] theorem next_insertAll {t : Table α} {l : List α} :
    (t.insertAll l).next = t.next + l.length := by
  induction l generalizing t with
  | nil => rfl
  | cons a l ih =>
    have hrest : ((t.insert a).insertAll l).next = t.next + 1 + l.length := ih
    rw [List.length_cons, Nat.add_comm l.length 1, ← Nat.add_assoc]
    exact hrest

/-- The new rows have the next keys, in their order. -/
theorem mem_insertAll {t : Table α} {l : List α} {b : α} :
    b ∈ t.insertAll l ↔ b ∈ t ∨ ∃ k a, l[k]? = some a ∧ b = withKey (t.next + k) a := by
  induction l generalizing t with
  | nil => simp [insertAll]
  | cons a l ih =>
    have hrest : b ∈ (t.insert a).insertAll l ↔ b ∈ t.insert a ∨
        ∃ k a', l[k]? = some a' ∧ b = withKey (t.next + 1 + k) a' := ih
    have hfirst : (∃ k a', (a :: l)[k]? = some a' ∧ b = withKey (t.next + k) a') ↔
        b = withKey t.next a ∨ ∃ k a', l[k]? = some a' ∧ b = withKey (t.next + 1 + k) a' := by
      constructor
      · rintro ⟨k, a', hk, hb⟩
        cases k with
        | zero => exact Or.inl (Option.some.inj hk ▸ hb)
        | succ k => exact Or.inr ⟨k, a', hk, by rwa [Nat.add_assoc, Nat.add_comm 1]⟩
      · rintro (hb | ⟨k, a', hk, hb⟩)
        · exact ⟨0, a, rfl, hb⟩
        · exact ⟨k + 1, a', hk, by rwa [Nat.add_comm k, ← Nat.add_assoc]⟩
    rw [hfirst, ← or_assoc, ← mem_insert]
    exact hrest

/-- The rows after an update: the new version of the row, and every row with another key. -/
theorem mem_update {t : Table α} {a b : α} :
    b ∈ t.update a ↔ (b = a ∧ ∃ c ∈ t, key c = key a) ∨ (b ∈ t ∧ key b ≠ key a) := by
  simp only [mem_def, update, List.mem_map]
  constructor
  · rintro ⟨c, hc, rfl⟩
    by_cases h : key c = key a
    · rw [if_pos h]; exact Or.inl ⟨rfl, c, hc, h⟩
    · rw [if_neg h]; exact Or.inr ⟨hc, h⟩
  · rintro (⟨rfl, c, hc, h⟩ | ⟨hb, h⟩)
    · exact ⟨c, hc, if_pos h⟩
    · exact ⟨b, hb, if_neg h⟩

/-- Updating a row that is in the table replaces that row and no other. -/
theorem mem_update_of_mem {t : Table α} {a a' b : α} (ha : a ∈ t) (hkey : key a' = key a) :
    b ∈ t.update a' ↔ b = a' ∨ (b ∈ t ∧ b ≠ a) := by
  rw [mem_update]
  constructor
  · rintro (⟨rfl, -⟩ | ⟨hb, h⟩)
    · exact Or.inl rfl
    · exact Or.inr ⟨hb, fun hba => h (by rw [hba, hkey])⟩
  · rintro (rfl | ⟨hb, h⟩)
    · exact Or.inl ⟨rfl, a, ha, hkey.symm⟩
    · exact Or.inr ⟨hb, fun hk => h (eq_of_key_eq hb ha (hk.trans hkey))⟩

/-- The new version of a row is in the table after the update. -/
theorem mem_update_self {t : Table α} {a a' : α} (ha : a ∈ t) (hkey : key a' = key a) :
    a' ∈ t.update a' :=
  (mem_update_of_mem ha hkey).mpr (Or.inl rfl)

/-- Every row has a version after an update: itself, or the new one if it was the updated row. -/
theorem exists_mem_update {t : Table α} {a a' b : α} (ha : a ∈ t) (hkey : key a' = key a)
    (hb : b ∈ t) : (b ≠ a ∧ b ∈ t.update a') ∨ (b = a ∧ a' ∈ t.update a') := by
  by_cases h : b = a
  · exact Or.inr ⟨h, mem_update_self ha hkey⟩
  · exact Or.inl ⟨h, (mem_update_of_mem ha hkey).mpr (Or.inr ⟨hb, h⟩)⟩

/-- A row keeps its version in an update, unless it is the updated row. -/
theorem update_version {t : Table α} {a a' b b' : α} (ha : a ∈ t) (hkey : key a' = key a)
    (hb : b ∈ t) (hb' : b' ∈ t.update a') (h : key b = key b') : b' = b ∨ (b' = a' ∧ b = a) := by
  rcases (mem_update_of_mem ha hkey).mp hb' with rfl | ⟨hold, -⟩
  · exact Or.inr ⟨rfl, eq_of_key_eq hb ha (h.trans hkey)⟩
  · exact Or.inl (eq_of_key_eq hold hb h.symm)

/-- What an update leaves alone in the updated row it leaves alone in every row. -/
theorem update_field {β : Type*} (f : α → β) {t : Table α} {a a' b b' : α} (ha : a ∈ t)
    (hkey : key a' = key a) (hsame : f a' = f a) (hb : b ∈ t) (hb' : b' ∈ t.update a')
    (h : key b = key b') : f b' = f b := by
  rcases update_version ha hkey hb hb' h with rfl | ⟨rfl, rfl⟩
  · rfl
  · exact hsame

/-- A test that fails on every version of a row does not see an update of that row. -/
theorem any_update {t : Table α} {a : α} {p : α → Bool} (h : ∀ b, key b = key a → p b = false) :
    (t.update a).any p = t.any p := by
  rw [Bool.eq_iff_iff, any_eq_true, any_eq_true]
  constructor
  · rintro ⟨b, hb, htest⟩
    rcases mem_update.mp hb with ⟨rfl, -⟩ | ⟨hb, -⟩
    · simp [h b rfl] at htest
    · exact ⟨b, hb, htest⟩
  · rintro ⟨b, hb, htest⟩
    refine ⟨b, mem_update.mpr (Or.inr ⟨hb, ?_⟩), htest⟩
    intro hkey
    simp [h b hkey] at htest

/-- Tables with the same rows and the same next key are equal. -/
theorem ext_rows {t u : Table α} (hrows : t.rows = u.rows) (hnext : t.next = u.next) : t = u := by
  cases t; cases u
  simp_all

/-- Of two updates of one row only the second remains. -/
theorem update_update {t : Table α} {a b : α} (h : key a = key b) :
    (t.update a).update b = t.update b := by
  refine ext_rows ?_ rfl
  simp only [update, List.map_map]
  refine List.map_congr_left ?_
  intro c _
  simp only [Function.comp_apply]
  by_cases hc : key c = key b
  · rw [if_pos (hc.trans h.symm), if_pos h, if_pos hc]
  · have hca : key c ≠ key a := fun h' => hc (h'.trans h)
    rw [if_neg hca, if_neg hc]

/-- Writing back a row as it is changes nothing. -/
theorem update_self {t : Table α} {a : α} (ha : a ∈ t) : t.update a = t := by
  refine ext_rows ?_ rfl
  have hid : t.rows.map (fun b => if key b = key a then a else b) = t.rows.map id := by
    refine List.map_congr_left ?_
    intro b hb
    split_ifs with h
    · exact (eq_of_key_eq hb ha h).symm
    · rfl
  exact hid.trans (List.map_id _)

/-- Updates of two rows may be made in any order. -/
theorem update_comm {t : Table α} {a b : α} (h : key a ≠ key b) :
    (t.update a).update b = (t.update b).update a := by
  refine ext_rows ?_ rfl
  simp only [update, List.map_map]
  refine List.map_congr_left ?_
  intro c _
  simp only [Function.comp_apply]
  by_cases hca : key c = key a
  · have hcb : key c ≠ key b := fun h' => h (hca.symm.trans h')
    rw [if_pos hca, if_neg hcb, if_neg h, if_pos hca]
  · by_cases hcb : key c = key b
    · rw [if_neg hca, if_pos hcb, if_neg h.symm]
    · rw [if_neg hca, if_neg hcb, if_neg hca]

/-- Replace rows, one after the other. -/
def updateAll (t : Table α) (l : List α) : Table α := l.foldl update t

/-- Updates leave the next key. -/
@[simp] theorem next_updateAll {t : Table α} {l : List α} : (t.updateAll l).next = t.next := by
  induction l generalizing t with
  | nil => rfl
  | cons a l ih => exact ih (t := t.update a)

/-- The rows after updates of different rows of the table. -/
theorem mem_updateAll {t : Table α} {l : List α} (hl : ∀ a ∈ l, ∃ c ∈ t, key c = key a)
    (hnodup : (l.map key).Nodup) {b : α} :
    b ∈ t.updateAll l ↔ b ∈ l ∨ (b ∈ t ∧ ∀ a ∈ l, key b ≠ key a) := by
  induction l generalizing t with
  | nil => simp [updateAll]
  | cons a l ih =>
    obtain ⟨hfirst, hnodup⟩ := List.nodup_cons.mp hnodup
    obtain ⟨c, hc, hca⟩ := hl a List.mem_cons_self
    have hother : ∀ a' ∈ l, key a' ≠ key a :=
      fun a' ha' h => hfirst (h ▸ List.mem_map_of_mem ha')
    have hkept : ∀ a' ∈ l, ∃ c ∈ t.update a, key c = key a' := by
      intro a' ha'
      obtain ⟨c', hc', hca'⟩ := hl a' (List.mem_cons_of_mem a ha')
      exact ⟨c', mem_update.mpr (Or.inr ⟨hc', hca' ▸ hother a' ha'⟩), hca'⟩
    have hrest : b ∈ (t.update a).updateAll l ↔
        b ∈ l ∨ (b ∈ t.update a ∧ ∀ a' ∈ l, key b ≠ key a') := ih hkept hnodup
    have hstep : b ∈ t.update a ↔ b = a ∨ (b ∈ t ∧ key b ≠ key a) := by
      rw [mem_update]
      exact or_congr_left ⟨fun h => h.1, fun h => ⟨h, c, hc, hca⟩⟩
    rw [List.forall_mem_cons, List.mem_cons]
    refine hrest.trans ?_
    rw [hstep]
    constructor
    · rintro (hb | ⟨rfl | ⟨hb, hba⟩, hbl⟩)
      · exact Or.inl (Or.inr hb)
      · exact Or.inl (Or.inl rfl)
      · exact Or.inr ⟨hb, hba, hbl⟩
    · rintro ((rfl | hb) | ⟨hb, hba, hbl⟩)
      · exact Or.inr ⟨Or.inl rfl, fun a' ha' => (hother a' ha').symm⟩
      · exact Or.inl hb
      · exact Or.inr ⟨Or.inr ⟨hb, hba⟩, hbl⟩

/-- Updates of different rows may be made in any order. -/
theorem updateAll_perm {t : Table α} {l l' : List α} (h : l.Perm l') (hnodup : (l.map key).Nodup) :
    t.updateAll l = t.updateAll l' := by
  refine h.foldl_eq' ?_ t
  intro a ha b hb u
  by_cases hab : a = b
  · rw [hab]
  · exact update_comm fun hkey => hab (List.inj_on_of_nodup_map hnodup ha hb hkey)

/-- Updating a row right after its insertion amounts to inserting the new version. -/
theorem insert_update {t : Table α} {a b : α} (h : withKey t.next b = b) :
    (t.insert a).update b = t.insert b := by
  have hkey : key b = t.next := by rw [← h, key_withKey]
  refine ext_rows ?_ rfl
  have hold : t.rows.map (fun c => if key c = t.next then b else c) = t.rows.map id := by
    refine List.map_congr_left ?_
    intro c hc
    rw [if_neg (Nat.ne_of_lt (t.key_lt_next c hc))]
    rfl
  simp only [update, insert, List.map_append, List.map_cons, List.map_nil, key_withKey, hkey, hold,
    List.map_id, if_true, h]

/-! ## Counting rows -/

/-- No row is selected twice. -/
theorem nodup_filter {t : Table α} (p : α → Bool) : (t.filter p).Nodup :=
  (List.Nodup.of_map _ t.keys_nodup).filter _

/-- An update that a test does not see changes the row among those passing it. -/
theorem filter_update {t : Table α} {a : α} {p : α → Bool}
    (h : ∀ b ∈ t, key b = key a → p a = p b) :
    (t.update a).filter p = (t.filter p).map fun b => if key b = key a then a else b := by
  simp only [filter, update, List.filter_map]
  congr 1
  refine List.filter_congr ?_
  intro b hb
  simp only [Function.comp_apply]
  split_ifs with hkey
  · exact h b hb hkey
  · rfl

/-- An update that a test does not see leaves the number of rows passing it. -/
theorem length_filter_update {t : Table α} {a : α} {p : α → Bool}
    (h : ∀ b ∈ t, key b = key a → p a = p b) :
    ((t.update a).filter p).length = (t.filter p).length := by
  rw [filter_update h, List.length_map]

/-- An insertion adds at most the new row to those passing a test. -/
theorem length_filter_insert {t : Table α} {a : α} {p : α → Bool} :
    ((t.insert a).filter p).length =
      (t.filter p).length + if p (withKey t.next a) then 1 else 0 := by
  simp only [filter, insert, List.filter_append, List.length_append]
  cases h : p (withKey t.next a) <;> simp [h]

/-- If any two rows passing a test are equal, at most one row passes it. -/
theorem length_filter_le_one {t : Table α} {p : α → Bool}
    (h : ∀ a ∈ t, ∀ b ∈ t, p a = true → p b = true → a = b) : (t.filter p).length ≤ 1 := by
  have hnodup := nodup_filter (t := t) p
  match hl : t.filter p with
  | [] => simp
  | [_] => simp
  | a :: b :: l =>
    exfalso
    have ha : a ∈ t.filter p := by rw [hl]; simp
    have hb : b ∈ t.filter p := by rw [hl]; simp
    rw [mem_filter] at ha hb
    rw [hl, h a ha.1 b hb.1 ha.2 hb.2] at hnodup
    simp at hnodup

/-- The one row passing a test is all that passes it. -/
theorem filter_of_unique {t : Table α} {p : α → Bool} {a : α} (ha : a ∈ t) (hpa : p a = true)
    (hunique : ∀ b ∈ t, p b = true → b = a) : t.filter p = [a] := by
  have hmem : a ∈ t.filter p := mem_filter.mpr ⟨ha, hpa⟩
  have hone : (t.filter p).length ≤ 1 :=
    length_filter_le_one fun b hb c hc hpb hpc => (hunique b hb hpb).trans (hunique c hc hpc).symm
  obtain ⟨b, hb⟩ := List.length_eq_one_iff.mp (Nat.le_antisymm hone (List.length_pos_of_mem hmem))
  rw [hb, List.mem_singleton] at hmem
  rw [hb, hmem]

/-! ## Filtered updates -/

/-- The update of the rows selected by a test, and their number. -/
def updateWhere (t : Table α) (p : α → Bool) (f : α → α) : Table α × ℕ :=
  ((t.filter p).foldl (fun t a => t.update (f a)) t, (t.filter p).length)

/-- A test on the row with a given key selects that row, or none. -/
theorem filter_key {t : Table α} {n : ℕ} {q : α → Bool} :
    t.filter (fun a => key a == n && q a) = ((t.get? n).filter q).toList := by
  cases h : t.get? n with
  | none =>
    refine List.filter_eq_nil_iff.mpr ?_
    intro a ha htest
    simp only [Bool.and_eq_true, beq_iff_eq] at htest
    rw [get?_eq_some_iff.mpr ⟨ha, htest.1⟩] at h
    cases h
  | some a =>
    obtain ⟨ha, rfl⟩ := get?_eq_some_iff.mp h
    have hone : ∀ b ∈ t, (key b == key a && q b) = true → b = a := by
      intro b hb htest
      simp only [Bool.and_eq_true, beq_iff_eq] at htest
      exact eq_of_key_eq hb ha htest.1
    by_cases hq : q a = true
    · have hmem : a ∈ t.filter fun b => key b == key a && q b := by simp [ha, hq]
      have hle := length_filter_le_one (t := t) (p := fun b => key b == key a && q b)
        fun b hb c hc hpb hpc => (hone b hb hpb).trans (hone c hc hpc).symm
      have hlist : (t.filter fun b => key b == key a && q b) = [a] := by
        obtain ⟨b, hb⟩ := List.length_eq_one_iff.mp (Nat.le_antisymm hle (List.length_pos_of_mem hmem))
        rw [hb, List.mem_singleton] at hmem
        rw [hb, hmem]
      rw [hlist, Option.filter_some, if_pos hq]
      rfl
    · rw [Option.filter_some, if_neg hq]
      refine List.filter_eq_nil_iff.mpr ?_
      intro b hb htest
      have hba := hone b hb htest
      subst hba
      simp [hq] at htest

/-- The filtered update of the row with a given key. -/
theorem updateWhere_key {t : Table α} {n : ℕ} {q : α → Bool} {f : α → α} :
    t.updateWhere (fun a => key a == n && q a) f =
      match t.get? n with
      | some a => if q a then (t.update (f a), 1) else (t, 0)
      | none => (t, 0) := by
  unfold updateWhere
  rw [filter_key]
  cases t.get? n with
  | none => rfl
  | some a => cases hq : q a <;> simp [Option.filter_some, hq]

/-! ## Deleting -/

/-- Remove the row with a given key. -/
def delete (t : Table α) (n : ℕ) : Table α where
  rows := t.rows.filter fun a => key a != n
  next := t.next
  next_pos := t.next_pos
  key_pos := fun a ha => t.key_pos a (List.mem_of_mem_filter ha)
  key_lt_next := fun a ha => t.key_lt_next a (List.mem_of_mem_filter ha)
  keys_nodup := t.keys_nodup.sublist (List.filter_sublist.map key)

/-- The rows of a table after a deletion. -/
@[simp] theorem mem_delete {t : Table α} {n : ℕ} {a : α} :
    a ∈ t.delete n ↔ a ∈ t ∧ key a ≠ n := by
  rw [mem_def, mem_def]
  simp [delete, List.mem_filter]

/-- The rows passing a test, without the deleted one. -/
theorem filter_delete {t : Table α} {n : ℕ} {p : α → Bool} :
    (t.delete n).filter p = (t.filter p).filter fun a => key a != n := by
  simp only [filter, delete, List.filter_filter, Bool.and_comm]

/-- A test that the deleted row does not pass. -/
theorem filter_delete_of_not {t : Table α} {n : ℕ} {p : α → Bool}
    (h : ∀ a ∈ t, key a = n → p a = false) : (t.delete n).filter p = t.filter p := by
  rw [filter_delete]
  refine List.filter_eq_self.mpr ?_
  intro a ha
  obtain ⟨ha, hp⟩ := mem_filter.mp ha
  refine bne_iff_ne.mpr fun hkey => ?_
  rw [h a ha hkey] at hp
  cases hp

end Table

end Foundation
