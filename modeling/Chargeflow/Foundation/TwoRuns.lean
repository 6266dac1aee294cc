import Chargeflow.Foundation.Table
import Chargeflow.Foundation.Transitions

/-!
# Two runs side by side

Two runs of one program on databases that agree on the rows of one owner.  `Alike` relates the
results of two computations that may abort, and its rules follow two programs statement by
statement.  The keys that the runs hand out differ, as each database has its own counters: a `Shift`
sends the keys of the first run to those of the second.  `Twin` relates a table of the first run to
the same table of the second, and says that the rows of all other owners stay as they were.
-/

namespace Foundation

/-! ## Computations that may abort -/

/-- Both computations abort with the same error, or both end with related results. -/
inductive Alike {ε α β : Type} (Q : α → β → Prop) : Except ε α → Except ε β → Prop
  | ok {a : α} {b : β} (h : Q a b) : Alike Q (.ok a) (.ok b)
  | error (e : ε) : Alike Q (.error e) (.error e)

namespace Alike

variable {ε α β γ δ : Type} {Q Q' : α → β → Prop} {R : γ → δ → Prop} {x : Except ε α}
  {y : Except ε β}

/-- What both runs agree on may be weakened. -/
theorem mono (h : Alike Q x y) (hQ : ∀ a b, Q a b → Q' a b) : Alike Q' x y := by
  cases h with
  | ok h => exact .ok (hQ _ _ h)
  | error e => exact .error e

/-- The results of computations that end are related, and they are the results. -/
theorem ended (h : Alike Q x y) : Alike (fun a b => Q a b ∧ x = .ok a ∧ y = .ok b) x y := by
  cases h with
  | ok h => exact .ok ⟨h, rfl, rfl⟩
  | error e => exact .error e

/-- Both runs return or both raise the same error. -/
theorem both (h : Alike Q x y) :
    (∃ a b, x = .ok a ∧ y = .ok b ∧ Q a b) ∨ ∃ e, x = .error e ∧ y = .error e := by
  cases h with
  | ok h => exact Or.inl ⟨_, _, rfl, rfl, h⟩
  | error e => exact Or.inr ⟨e, rfl, rfl⟩

/-- Both runs map alike. -/
theorem map {f : α → γ} {g : β → δ} (h : Alike Q x y) (hrest : ∀ a b, Q a b → R (f a) (g b)) :
    Alike R (x.map f) (y.map g) := by
  cases h with
  | ok h => exact .ok (hrest _ _ h)
  | error e => exact .error e

/-- Both runs map their errors alike. -/
theorem mapError {ε' : Type} (f : ε → ε') (h : Alike Q x y) :
    Alike Q (x.mapError f) (y.mapError f) := by
  cases h with
  | ok h => exact .ok h
  | error e => exact .error (f e)

/-- Two computations in stages, stage by stage. -/
theorem bind {f : α → Except ε γ} {g : β → Except ε δ} (h : Alike Q x y)
    (hrest : ∀ a b, Q a b → Alike R (f a) (g b)) : Alike R (x >>= f) (y >>= g) := by
  cases h with
  | ok h => exact hrest _ _ h
  | error e => exact .error e

/-- A computation that both runs make on the same data. -/
theorem same {f : α → Except ε γ} {g : α → Except ε δ} {x y : Except ε α} (h : y = x)
    (hrest : ∀ a, x = .ok a → Alike R (f a) (g a)) : Alike R (x >>= f) (y >>= g) := by
  rw [h]
  cases x with
  | ok a => exact hrest a rfl
  | error e => exact .error e

/-- A branch that both runs take. -/
theorem ite {c c' : Prop} [Decidable c] [Decidable c'] {x' : Except ε α} {y' : Except ε β}
    (hc : c ↔ c') (hthen : c → Alike Q x y) (helse : ¬ c → Alike Q x' y') :
    Alike Q (if c then x else x') (if c' then y else y') := by
  by_cases h : c
  · rw [if_pos h, if_pos (hc.mp h)]
    exact hthen h
  · rw [if_neg h, if_neg (mt hc.mpr h)]
    exact helse h

/-- Two folds over corresponding lists, from a relation that each step keeps. -/
theorem foldlM {ι κ : Type} {f : α → ι → Except ε α} {g : β → κ → Except ε β} {ren : ι → κ}
    {l : List ι} (hstep : ∀ i ∈ l, ∀ a b, Q a b → Alike Q (f a i) (g b (ren i))) {a : α} {b : β}
    (h : Q a b) : Alike Q (l.foldlM f a) ((l.map ren).foldlM g b) := by
  induction l generalizing a b with
  | nil => exact .ok h
  | cons i l ih =>
    rw [List.map_cons, List.foldlM_cons, List.foldlM_cons]
    refine bind (hstep i List.mem_cons_self a b h) ?_
    intro a' b' h'
    exact ih (fun j hj => hstep j (List.mem_cons_of_mem i hj)) h'

end Alike

/-! ## Keys -/

/-- The first free key of the two runs. -/
structure Shift where
  first : ℕ
  second : ℕ

namespace Shift

variable {σ : Shift} {m n : ℕ}

/-- The key of the second run for a key of the first: old keys stay, new ones are counted from the
first free key. -/
def map (σ : Shift) (n : ℕ) : ℕ := if n < σ.first then n else σ.second + (n - σ.first)

/-- An old key is old in both runs. -/
def Known (σ : Shift) (n : ℕ) : Prop := n < σ.first → n < σ.second

/-- A number below the first new one stays. -/
theorem map_of_lt (h : n < σ.first) : σ.map n = n := if_pos h

/-- New numbers correspond in their order. -/
@[simp] theorem map_add (σ : Shift) (n : ℕ) : σ.map (σ.first + n) = σ.second + n := by
  unfold map
  rw [if_neg (Nat.not_lt_of_le (Nat.le_add_right _ _)), Nat.add_sub_cancel_left]

/-- A new number is known in both runs. -/
theorem known_add (σ : Shift) (n : ℕ) : σ.Known (σ.first + n) :=
  fun h => absurd h (Nat.not_lt_of_le (Nat.le_add_right _ _))

/-- Different keys stay different. -/
theorem map_inj (hm : σ.Known m) (hn : σ.Known n) : σ.map m = σ.map n ↔ m = n := by
  unfold map Known at *
  split_ifs <;> omega

end Shift

/-! ## Tables -/

variable {α : Type} [Keyed α]

/-- The rows failing a test are not seen by the update of a row that fails it. -/
theorem Table.filter_update_of_not {t : Table α} {a : α} {p : α → Bool}
    (h : ∀ b ∈ t, key b = key a → p a = p b) (ha : p a = false) :
    (t.update a).filter p = t.filter p := by
  rw [Table.filter_update h]
  refine (List.map_congr_left ?_).trans (List.map_id _)
  intro b hb
  obtain ⟨hb, htest⟩ := Table.mem_filter.mp hb
  refine if_neg fun hkey => ?_
  rw [← h b hb hkey, ha] at htest
  cases htest

/-- Two tests that agree on a list find the same. -/
theorem any_congr_of_mem {β : Type} {l : List β} {p q : β → Bool} (h : ∀ a ∈ l, p a = q a) :
    l.any p = l.any q := by
  rw [Bool.eq_iff_iff, List.any_eq_true, List.any_eq_true]
  exact exists_congr fun a => and_congr_right fun ha => by rw [h a ha]

/-- A test on the rows of a table, on two kinds of rows. -/
theorem Table.any_split (t : Table α) (own p : α → Bool) :
    t.any p = ((t.filter own).any p || (t.filter fun a => !own a).any p) := by
  rw [Bool.eq_iff_iff, Bool.or_eq_true, Table.any_eq_true, List.any_eq_true, List.any_eq_true]
  simp only [Table.mem_filter, Bool.not_eq_true']
  constructor
  · rintro ⟨a, ha, hp⟩
    cases hown : own a with
    | true => exact Or.inl ⟨a, ⟨ha, hown⟩, hp⟩
    | false => exact Or.inr ⟨a, ⟨ha, hown⟩, hp⟩
  · rintro (⟨a, ⟨ha, -⟩, hp⟩ | ⟨a, ⟨ha, -⟩, hp⟩)
    · exact ⟨a, ha, hp⟩
    · exact ⟨a, ha, hp⟩

/-- What becomes of the rows of one owner in the second run.  The other columns may name keys of
other tables, so the renaming of a row is more than that of its own key. -/
structure Renaming (α : Type) [Keyed α] where
  /-- The rows of the owner. -/
  own : α → Bool
  /-- A row of the first run, in the second. -/
  row : α → α
  /-- The keys of the table. -/
  keys : Shift
  key_row : ∀ a, key (row a) = keys.map (key a)
  own_row : ∀ a, own (row a) = own a

/-- The rows of the owner correspond, and the other rows of both runs are those of the tables that
the runs began with. -/
structure Twin (ρ : Renaming α) (u₁ u₂ t₁ t₂ : Table α) : Prop where
  own : t₂.filter ρ.own = (t₁.filter ρ.own).map ρ.row
  known : ∀ a ∈ t₁, ρ.own a = true → ρ.keys.Known (key a)
  next : ∃ n, t₁.next = ρ.keys.first + n ∧ t₂.next = ρ.keys.second + n
  others₁ : t₁.filter (fun a => !ρ.own a) = u₁.filter fun a => !ρ.own a
  others₂ : t₂.filter (fun a => !ρ.own a) = u₂.filter fun a => !ρ.own a

/-- A test that some row of another owner passes in both tables, or in none. -/
def Neutral (ρ : Renaming α) (u₁ u₂ : Table α) (test : α → Bool) : Prop :=
  (u₁.filter fun a => !ρ.own a).any test = (u₂.filter fun a => !ρ.own a).any test

/-- A test that finds nothing is neutral. -/
theorem Neutral.never {ρ : Renaming α} {u₁ u₂ : Table α} : Neutral ρ u₁ u₂ fun _ => false := by
  unfold Neutral
  rw [List.any_eq_false.mpr (by simp), List.any_eq_false.mpr (by simp)]

/-- A table next to itself. -/
theorem Neutral.refl {ρ : Renaming α} {u : Table α} {test : α → Bool} : Neutral ρ u u test := rfl

/-- A test that no row of another owner passes. -/
theorem Neutral.of_fails {ρ : Renaming α} {u₁ u₂ : Table α} {test : α → Bool}
    (h₁ : ∀ a ∈ u₁, ρ.own a ≠ true → test a = false)
    (h₂ : ∀ a ∈ u₂, ρ.own a ≠ true → test a = false) : Neutral ρ u₁ u₂ test := by
  have hnone : ∀ {u : Table α}, (∀ a ∈ u, ρ.own a ≠ true → test a = false) →
      (u.filter fun a => !ρ.own a).any test = false := by
    intro u hu
    refine List.any_eq_false.mpr ?_
    intro a ha
    obtain ⟨ha, hown⟩ := Table.mem_filter.mp ha
    simp [hu a ha (by simpa using hown)]
  exact (hnone h₁).trans (hnone h₂).symm

/-- The owner has a row with the key `n`. -/
def HasRow (own : α → Bool) (t : Table α) (n : ℕ) : Prop := ∃ a ∈ t, own a = true ∧ key a = n

/-- A row of the tenant is there under its key. -/
theorem HasRow.of_mem {own : α → Bool} {t : Table α} {a : α} (ha : a ∈ t) (hown : own a = true) :
    HasRow own t (key a) := ⟨a, ha, hown, rfl⟩

/-- A row of the tenant is there after an insertion. -/
theorem HasRow.insert {own : α → Bool} {t : Table α} {n : ℕ} (h : HasRow own t n) (a : α) :
    HasRow own (t.insert a) n := by
  obtain ⟨b, hb, hown, hkey⟩ := h
  exact ⟨b, Table.mem_insert_of_mem hb, hown, hkey⟩

/-- A row of the owner that is updated stays with the owner. -/
theorem HasRow.update {own : α → Bool} {t : Table α} {n : ℕ} (h : HasRow own t n) {a : α}
    (hown : own a = true) : HasRow own (t.update a) n := by
  obtain ⟨b, hb, hbown, hkey⟩ := h
  by_cases hsame : key b = key a
  · exact ⟨a, Table.mem_update_self hb hsame.symm, hown, hsame ▸ hkey⟩
  · exact ⟨b, Table.mem_update.mpr (Or.inr ⟨hb, hsame⟩), hbown, hkey⟩

/-- Every row of `t` refers to a row of `t'` that has the same owner. -/
def Attached {β : Type} [Keyed β] (ρ : Renaming α) (ρ' : Renaming β) (parent : α → ℕ) (t : Table α)
    (t' : Table β) : Prop :=
  ∀ a ∈ t, ∃ b ∈ t', key b = parent a ∧ ρ'.own b = ρ.own a

/-- The rows that refer to a row have its owner. -/
theorem Attached.own {β : Type} [Keyed β] {ρ : Renaming α} {ρ' : Renaming β} {parent : α → ℕ}
    {t : Table α} {t' : Table β} (h : Attached ρ ρ' parent t t') {a : α} {b : β} (ha : a ∈ t)
    (hb : b ∈ t') (hkey : parent a = key b) : ρ.own a = ρ'.own b := by
  obtain ⟨b', hb', hkey', hown⟩ := h a ha
  rw [← hown, Table.eq_of_key_eq hb' hb (hkey'.trans hkey)]

/-- A row of the owner refers to rows of the owner. -/
theorem Attached.hasRow {β : Type} [Keyed β] {ρ : Renaming α} {ρ' : Renaming β} {parent : α → ℕ}
    {t : Table α} {t' : Table β} (h : Attached ρ ρ' parent t t') {a : α} (ha : a ∈ t)
    (hown : ρ.own a = true) : HasRow ρ'.own t' (parent a) := by
  obtain ⟨b, hb, hkey, hown'⟩ := h a ha
  exact ⟨b, hb, hown'.trans hown, hkey⟩

namespace Twin

variable {ρ : Renaming α} {u₁ u₂ t₁ t₂ : Table α}

/-- Tables with the same rows of the owner, all of them old. -/
theorem start (hkeys : ρ.keys = ⟨t₁.next, t₂.next⟩) (hown : t₂.filter ρ.own = t₁.filter ρ.own)
    (hrow : ∀ a ∈ t₁, ρ.own a = true → ρ.row a = a) : Twin ρ t₁ t₂ t₁ t₂ := by
  refine ⟨?_, ?_, ⟨0, by simp [hkeys], by simp [hkeys]⟩, rfl, rfl⟩
  · rw [hown]
    refine ((List.map_id _).symm.trans (List.map_congr_left ?_))
    intro a ha
    obtain ⟨ha, hao⟩ := Table.mem_filter.mp ha
    exact (hrow a ha hao).symm
  · intro a ha hao _
    have hmem : a ∈ t₂.filter ρ.own := hown ▸ Table.mem_filter.mpr ⟨ha, hao⟩
    rw [hkeys]
    exact Table.key_lt (Table.mem_filter.mp hmem).1

/-! ### Reading -/

/-- A row of the owner is in the second run too. -/
theorem mem (h : Twin ρ u₁ u₂ t₁ t₂) {a : α} (ha : a ∈ t₁) (hown : ρ.own a = true) :
    ρ.row a ∈ t₂ := by
  have hrow : ρ.row a ∈ t₂.filter ρ.own := by
    rw [h.own]
    exact List.mem_map_of_mem (Table.mem_filter.mpr ⟨ha, hown⟩)
  exact (Table.mem_filter.mp hrow).1

/-- A row of the owner is found in both runs. -/
theorem get? (h : Twin ρ u₁ u₂ t₁ t₂) {n : ℕ} (hn : HasRow ρ.own t₁ n) :
    ∃ a ∈ t₁, ρ.own a = true ∧ key a = n ∧ t₁.get? n = some a ∧
      t₂.get? (ρ.keys.map n) = some (ρ.row a) := by
  obtain ⟨a, ha, hown, rfl⟩ := hn
  exact ⟨a, ha, hown, rfl, Table.get?_key ha,
    Table.get?_eq_some_iff.mpr ⟨h.mem ha hown, ρ.key_row a⟩⟩

/-- The keys of rows of the owner are different in both runs, or in none. -/
theorem map_eq_map_iff (h : Twin ρ u₁ u₂ t₁ t₂) {m n : ℕ} (hm : HasRow ρ.own t₁ m)
    (hn : HasRow ρ.own t₁ n) : ρ.keys.map m = ρ.keys.map n ↔ m = n := by
  obtain ⟨a, ha, haown, rfl⟩ := hm
  obtain ⟨b, hb, hbown, rfl⟩ := hn
  exact Shift.map_inj (h.known a ha haown) (h.known b hb hbown)

/-- Tests that only pass rows of the owner select corresponding rows. -/
theorem filter (h : Twin ρ u₁ u₂ t₁ t₂) {p q : α → Bool}
    (hp : ∀ a ∈ t₁, p a = true → ρ.own a = true)
    (hq : ∀ b ∈ t₂, q b = true → ρ.own b = true)
    (hpq : ∀ a ∈ t₁, ρ.own a = true → q (ρ.row a) = p a) :
    t₂.filter q = (t₁.filter p).map ρ.row := by
  have hnarrow : ∀ {t : Table α} {r : α → Bool}, (∀ a ∈ t, r a = true → ρ.own a = true) →
      t.filter r = (t.filter ρ.own).filter r := by
    intro t r hr
    refine Eq.trans ?_ List.filter_filter.symm
    refine List.filter_congr ?_
    intro a ha
    cases hra : r a with
    | false => rfl
    | true => rw [hr a ha hra]; rfl
  rw [hnarrow hq, hnarrow hp, h.own, List.filter_map]
  congr 1
  refine List.filter_congr ?_
  intro a ha
  obtain ⟨ha, hown⟩ := Table.mem_filter.mp ha
  exact hpq a ha hown

/-- A test, with the rows of others that pass it in both runs or in none. -/
theorem any_neutral (h : Twin ρ u₁ u₂ t₁ t₂) {p q r : α → Bool} (hr : Neutral ρ u₁ u₂ r)
    (hp : ∀ a ∈ t₁, ρ.own a ≠ true → p a = r a) (hq : ∀ b ∈ t₂, ρ.own b ≠ true → q b = r b)
    (hpq : ∀ a ∈ t₁, ρ.own a = true → q (ρ.row a) = p a) : t₂.any q = t₁.any p := by
  have hothers : ∀ {t : Table α} {f : α → Bool}, (∀ a ∈ t, ρ.own a ≠ true → f a = r a) →
      (t.filter fun a => !ρ.own a).any f = (t.filter fun a => !ρ.own a).any r := by
    intro t f hf
    refine any_congr_of_mem ?_
    intro a ha
    obtain ⟨ha, hown⟩ := Table.mem_filter.mp ha
    exact hf a ha (by simpa using hown)
  rw [Table.any_split t₂ ρ.own, Table.any_split t₁ ρ.own, hothers hq, hothers hp, h.others₁,
    h.others₂, show _ = _ from hr, h.own, List.any_map]
  congr 1
  refine any_congr_of_mem ?_
  intro a ha
  obtain ⟨ha, hown⟩ := Table.mem_filter.mp ha
  exact hpq a ha hown

/-- Tests that only pass rows of the owner succeed in both runs, or in none. -/
theorem any (h : Twin ρ u₁ u₂ t₁ t₂) {p q : α → Bool}
    (hp : ∀ a ∈ t₁, p a = true → ρ.own a = true)
    (hq : ∀ b ∈ t₂, q b = true → ρ.own b = true)
    (hpq : ∀ a ∈ t₁, ρ.own a = true → q (ρ.row a) = p a) : t₂.any q = t₁.any p := by
  refine h.any_neutral (r := fun _ => false) Neutral.never ?_ ?_ hpq
  · intro a ha hown
    exact Bool.eq_false_iff.mpr (mt (hp a ha) hown)
  · intro b hb hown
    exact Bool.eq_false_iff.mpr (mt (hq b hb) hown)

section children

variable {β : Type} [Keyed β] {ρ' : Renaming β} {u₁' u₂' t₁' t₂' : Table β} {parent : α → ℕ}

/-- The tests on rows that refer to a row of the owner. -/
theorem children (h' : Twin ρ' u₁' u₂' t₁' t₂') (hlink₁ : Attached ρ ρ' parent t₁ t₁')
    (hlink₂ : Attached ρ ρ' parent t₂ t₂')
    (hparent : ∀ a, parent (ρ.row a) = ρ'.keys.map (parent a)) {n : ℕ} (hn : HasRow ρ'.own t₁' n)
    {p q : α → Bool} (hpq : ∀ a ∈ t₁, ρ.own a = true → q (ρ.row a) = p a) :
    (∀ a ∈ t₁, (parent a == n && p a) = true → ρ.own a = true) ∧
      (∀ a ∈ t₂, (parent a == ρ'.keys.map n && q a) = true → ρ.own a = true) ∧
      ∀ a ∈ t₁, ρ.own a = true →
        (parent (ρ.row a) == ρ'.keys.map n && q (ρ.row a)) = (parent a == n && p a) := by
  refine ⟨?_, ?_, ?_⟩
  · intro a ha htest
    obtain ⟨b, hb, hbown, rfl⟩ := hn
    rw [Bool.and_eq_true, beq_iff_eq] at htest
    rw [hlink₁.own ha hb htest.1, hbown]
  · intro a ha htest
    obtain ⟨b, hb, hbown, rfl⟩ := hn
    rw [Bool.and_eq_true, beq_iff_eq, ← ρ'.key_row] at htest
    rw [hlink₂.own ha (h'.mem hb hbown) htest.1, ρ'.own_row, hbown]
  · intro a ha haown
    rw [hpq a ha haown, hparent]
    congr 1
    rw [Bool.eq_iff_iff, beq_iff_eq, beq_iff_eq]
    exact h'.map_eq_map_iff (hlink₁.hasRow ha haown) hn

/-- The rows that refer to a row of the owner, among those that pass a test. -/
theorem filter_children (h : Twin ρ u₁ u₂ t₁ t₂) (h' : Twin ρ' u₁' u₂' t₁' t₂')
    (hlink₁ : Attached ρ ρ' parent t₁ t₁') (hlink₂ : Attached ρ ρ' parent t₂ t₂')
    (hparent : ∀ a, parent (ρ.row a) = ρ'.keys.map (parent a)) {n : ℕ} (hn : HasRow ρ'.own t₁' n)
    {p q : α → Bool} (hpq : ∀ a ∈ t₁, ρ.own a = true → q (ρ.row a) = p a) :
    t₂.filter (fun a => parent a == ρ'.keys.map n && q a) =
      (t₁.filter fun a => parent a == n && p a).map ρ.row := by
  obtain ⟨h₁, h₂, htest⟩ := h'.children hlink₁ hlink₂ hparent hn hpq
  exact h.filter h₁ h₂ htest

/-- Whether some row refers to a row of the owner and passes a test. -/
theorem any_children (h : Twin ρ u₁ u₂ t₁ t₂) (h' : Twin ρ' u₁' u₂' t₁' t₂')
    (hlink₁ : Attached ρ ρ' parent t₁ t₁') (hlink₂ : Attached ρ ρ' parent t₂ t₂')
    (hparent : ∀ a, parent (ρ.row a) = ρ'.keys.map (parent a)) {n : ℕ} (hn : HasRow ρ'.own t₁' n)
    {p q : α → Bool} (hpq : ∀ a ∈ t₁, ρ.own a = true → q (ρ.row a) = p a) :
    t₂.any (fun a => parent a == ρ'.keys.map n && q a) =
      t₁.any fun a => parent a == n && p a := by
  obtain ⟨h₁, h₂, htest⟩ := h'.children hlink₁ hlink₂ hparent hn hpq
  exact h.any h₁ h₂ htest

end children

/-! ### Writing -/

/-- Both runs hand out the next key. -/
theorem map_next (h : Twin ρ u₁ u₂ t₁ t₂) : ρ.keys.map t₁.next = t₂.next := by
  obtain ⟨n, hnext₁, hnext₂⟩ := h.next
  rw [hnext₁, hnext₂, Shift.map_add]

/-- Both runs insert a row of the owner. -/
theorem insert (h : Twin ρ u₁ u₂ t₁ t₂) {a b : α} (hown : ρ.own (withKey t₁.next a) = true)
    (hrow : withKey t₂.next b = ρ.row (withKey t₁.next a)) :
    Twin ρ u₁ u₂ (t₁.insert a) (t₂.insert b) := by
  obtain ⟨n, hnext₁, hnext₂⟩ := h.next
  have hown₂ : ρ.own (withKey t₂.next b) = true := by rw [hrow, ρ.own_row, hown]
  refine ⟨?_, ?_, ⟨n + 1, congrArg (· + 1) hnext₁, congrArg (· + 1) hnext₂⟩, ?_, ?_⟩
  · have hold := h.own
    simp only [Table.filter] at hold
    simp only [Table.filter, Table.insert, List.filter_append, List.map_append, hold,
      List.filter_cons, hown, if_true, List.filter_nil, List.map_cons, List.map_nil, hrow,
      ρ.own_row]
  · intro c hc hcown
    rcases Table.mem_insert.mp hc with hc | rfl
    · exact h.known c hc hcown
    · rw [key_withKey, hnext₁]
      exact Shift.known_add ρ.keys n
  · rw [← h.others₁]
    simp [Table.filter, Table.insert, hown]
  · rw [← h.others₂]
    simp [Table.filter, Table.insert, hown₂]

/-- Both runs update a row of the owner. -/
theorem update (h : Twin ρ u₁ u₂ t₁ t₂) {a c : α} (hc : c ∈ t₁) (hkey : key c = key a)
    (hcown : ρ.own c = true) (hown : ρ.own a = true) :
    Twin ρ u₁ u₂ (t₁.update a) (t₂.update (ρ.row a)) := by
  have hsame₁ : ∀ b ∈ t₁, key b = key a → ρ.own a = ρ.own b := by
    intro b hb hb'
    rw [Table.eq_of_key_eq hb hc (hb'.trans hkey.symm), hown, hcown]
  have hsame₂ : ∀ b ∈ t₂, key b = key (ρ.row a) → ρ.own (ρ.row a) = ρ.own b := by
    intro b hb hb'
    have hkey₂ : key b = key (ρ.row c) := by rw [hb', ρ.key_row, ρ.key_row, hkey]
    rw [Table.eq_of_key_eq hb (h.mem hc hcown) hkey₂, ρ.own_row, ρ.own_row, hown, hcown]
  refine ⟨?_, ?_, h.next, ?_, ?_⟩
  · rw [Table.filter_update hsame₂, Table.filter_update hsame₁, h.own, List.map_map, List.map_map]
    refine List.map_congr_left ?_
    intro b hb
    obtain ⟨hb, hbown⟩ := Table.mem_filter.mp hb
    simp only [Function.comp_apply, ρ.key_row, ← hkey, h.map_eq_map_iff (.of_mem hb hbown)
      (.of_mem hc hcown)]
    split_ifs <;> rfl
  · intro b hb hbown
    rcases Table.mem_update.mp hb with ⟨rfl, -⟩ | ⟨hb, -⟩
    · rw [← hkey]
      exact h.known c hc hcown
    · exact h.known b hb hbown
  · rw [Table.filter_update_of_not (fun b hb hb' => by rw [hsame₁ b hb hb']) (by simp [hown]),
      h.others₁]
  · rw [Table.filter_update_of_not (fun b hb hb' => by rw [hsame₂ b hb hb'])
      (by simp [ρ.own_row, hown]), h.others₂]

/-- Both runs delete a row of the owner. -/
theorem delete (h : Twin ρ u₁ u₂ t₁ t₂) {n : ℕ} (hn : HasRow ρ.own t₁ n) :
    Twin ρ u₁ u₂ (t₁.delete n) (t₂.delete (ρ.keys.map n)) := by
  obtain ⟨c, hc, hcown, rfl⟩ := hn
  refine ⟨?_, ?_, h.next, ?_, ?_⟩
  · rw [Table.filter_delete, Table.filter_delete, h.own, List.filter_map]
    congr 1
    refine List.filter_congr ?_
    intro a ha
    obtain ⟨ha, hown⟩ := Table.mem_filter.mp ha
    rw [Function.comp_apply, ρ.key_row, Bool.eq_iff_iff, bne_iff_ne, bne_iff_ne]
    exact not_congr (h.map_eq_map_iff (.of_mem ha hown) (.of_mem hc hcown))
  · intro a ha hown
    exact h.known a (Table.mem_delete.mp ha).1 hown
  · rw [Table.filter_delete_of_not, h.others₁]
    intro a ha hkey
    rw [Table.eq_of_key_eq ha hc hkey, hcown]
    rfl
  · rw [Table.filter_delete_of_not, h.others₂]
    intro a ha hkey
    rw [Table.eq_of_key_eq ha (h.mem hc hcown) (hkey.trans (ρ.key_row c).symm), ρ.own_row, hcown]
    rfl

end Twin

end Foundation
