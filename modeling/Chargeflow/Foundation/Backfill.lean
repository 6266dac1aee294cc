import Mathlib.Data.List.Forall2
import Chargeflow.Foundation.Table
import Chargeflow.Foundation.Transitions

/-!
# Changes of a table's columns

A migration adds columns to every row of a table, fills them in a loop over the rows, and then adds
constraints that the rows must satisfy.  The loop stops at the first row it cannot fill.
-/

namespace Foundation

/-! ## Loops over lists -/

section

variable {α β ε : Type} {f : α → Except ε β} {l : List α}

/-- What every entry keeps, the list keeps. -/
theorem map_of_forall₂ {γ : Type} {R : α → β → Prop} {p : α → γ} {q : β → γ} {l : List α}
    {l' : List β} (h : List.Forall₂ R l l') (hpq : ∀ a b, R a b → q b = p a) :
    l'.map q = l.map p := by
  induction h with
  | nil => rfl
  | cons hab _ ih => rw [List.map_cons, List.map_cons, ih, hpq _ _ hab]

/-- Where an entry comes from. -/
theorem exists_of_forall₂ {R : α → β → Prop} {l : List α} {l' : List β} (h : List.Forall₂ R l l')
    {b : β} (hb : b ∈ l') : ∃ a ∈ l, R a b := by
  induction h with
  | nil => cases hb
  | cons hab _ ih =>
    rcases List.mem_cons.mp hb with rfl | hb
    · exact ⟨_, List.mem_cons_self, hab⟩
    · obtain ⟨a, ha, hab⟩ := ih hb
      exact ⟨a, List.mem_cons_of_mem _ ha, hab⟩

/-- A traversal whose every step succeeds maps the list. -/
theorem mapM_eq_ok {g : α → β} (h : ∀ a ∈ l, f a = .ok (g a)) : l.mapM f = .ok (l.map g) := by
  induction l with
  | nil => rfl
  | cons a l ih =>
    obtain ⟨ha, hl⟩ := List.forall_mem_cons.mp h
    rw [List.mapM_cons, ha, ih hl]
    rfl

/-- The first failure is the result. -/
theorem mapM_eq_error (h : ∃ a ∈ l, ∃ e, f a = .error e) :
    ∃ a ∈ l, ∃ e, f a = .error e ∧ l.mapM f = .error e := by
  induction l with
  | nil =>
    obtain ⟨a, ha, -⟩ := h
    cases ha
  | cons a l ih =>
    rw [List.mapM_cons]
    cases hfa : f a with
    | error e => exact ⟨a, List.mem_cons_self, e, hfa, rfl⟩
    | ok b =>
      have hrest : ∃ a ∈ l, ∃ e, f a = .error e := by
        obtain ⟨c, hc, e, he⟩ := h
        rcases List.mem_cons.mp hc with rfl | hc
        · cases hfa.symm.trans he
        · exact ⟨c, hc, e, he⟩
      obtain ⟨c, hc, e, he, hmapM⟩ := ih hrest
      refine ⟨c, List.mem_cons_of_mem a hc, e, he, ?_⟩
      rw [hmapM]
      rfl

end

/-! ## Loops over tables -/

namespace Table

variable {α β ε : Type} [Keyed α] [Keyed β]

/-- The rows with other columns, under their keys. -/
def mapRows (t : Table α) (f : α → β) (hkey : ∀ a, key (f a) = key a) : Table β where
  rows := t.rows.map f
  next := t.next
  next_pos := t.next_pos
  key_pos := by
    intro b hb
    obtain ⟨a, ha, rfl⟩ := List.mem_map.mp hb
    rw [hkey]
    exact t.key_pos a ha
  key_lt_next := by
    intro b hb
    obtain ⟨a, ha, rfl⟩ := List.mem_map.mp hb
    rw [hkey]
    exact t.key_lt_next a ha
  keys_nodup := by
    have hmap : (t.rows.map f).map key = t.rows.map key := by
      rw [List.map_map]
      exact List.map_congr_left fun a _ => hkey a
    rw [hmap]
    exact t.keys_nodup

/-- One row after the other is read, changed and saved, or skipped. -/
def backfill (f : α → Except ε (Option α)) (t : Table α) : Except ε (Table α) :=
  t.rows.foldlM (fun t a => do
    match ← f a with
    | some a' => return t.update a'
    | none => return t) t

/-- Saving the row between two parts of a table. -/
theorem rows_update_append {t : Table α} {done rest : List α} {a a' : α}
    (h : t.rows = done ++ a :: rest) (hkey : key a' = key a) :
    (t.update a').rows = done ++ a' :: rest := by
  have hnodup := t.keys_nodup
  rw [h, List.map_append, List.map_cons, List.nodup_append] at hnodup
  obtain ⟨-, htail, hdisjoint⟩ := hnodup
  obtain ⟨hrest, -⟩ := List.nodup_cons.mp htail
  have hkeep : ∀ l : List α, (∀ b ∈ l, key b ≠ key a') →
      (l.map fun b => if key b = key a' then a' else b) = l := by
    intro l hl
    refine (List.map_congr_left ?_).trans (List.map_id l)
    intro b hb
    exact if_neg (hl b hb)
  have hdone : ∀ b ∈ done, key b ≠ key a' := by
    intro b hb
    rw [hkey]
    exact hdisjoint (key b) (List.mem_map_of_mem hb) (key a) List.mem_cons_self
  have hrest' : ∀ b ∈ rest, key b ≠ key a' := by
    intro b hb heq
    exact hrest (hkey ▸ heq ▸ List.mem_map_of_mem hb)
  unfold update
  dsimp only
  rw [h, List.map_append, List.map_cons, if_pos hkey.symm, hkeep done hdone, hkeep rest hrest']

/-- The loop treats every row as it was at the beginning. -/
theorem map_rows_backfill {f : α → Except ε (Option α)}
    (hkey : ∀ a a', f a = .ok (some a') → key a' = key a) (t : Table α) :
    (backfill f t).map rows = t.rows.mapM fun a => (f a).map (Option.getD · a) := by
  -- the rows in front have been treated, and the induction is on the others
  have hloop : ∀ (rest done : List α) (u : Table α), u.rows = done ++ rest →
      (rest.foldlM (fun t a => do
        match ← f a with
        | some a' => return t.update a'
        | none => return t) u : Except ε (Table α)).map rows =
      (rest.mapM fun a => (f a).map (Option.getD · a)).map (done ++ ·) := by
    intro rest
    induction rest with
    | nil =>
      intro done u hu
      exact congrArg Except.ok hu
    | cons a rest ih =>
      intro done u hu
      rw [List.foldlM_cons, List.mapM_cons]
      cases hfa : f a with
      | error e => rfl
      | ok r =>
        have hnext : ∀ (a' : α) (u' : Table α), u'.rows = done ++ a' :: rest →
            (rest.foldlM (fun t a => do
              match ← f a with
              | some a' => return t.update a'
              | none => return t) u' : Except ε (Table α)).map rows =
            (rest.mapM fun a => (f a).map (Option.getD · a)).map (done ++ a' :: ·) := by
          intro a' u' hu'
          have hrest := ih (done ++ [a']) u' (by rw [hu', List.append_assoc]; rfl)
          simpa only [List.append_assoc, List.singleton_append] using hrest
        cases r with
        | none =>
          refine (hnext a u hu).trans ?_
          show _ = Except.map (done ++ ·) (do
            let rest ← rest.mapM fun a => (f a).map (Option.getD · a)
            pure (a :: rest))
          cases rest.mapM fun a => (f a).map (Option.getD · a) <;> rfl
        | some a' =>
          refine (hnext a' (u.update a') (rows_update_append hu (hkey a a' hfa))).trans ?_
          show _ = Except.map (done ++ ·) (do
            let rest ← rest.mapM fun a => (f a).map (Option.getD · a)
            pure (a' :: rest))
          cases rest.mapM fun a => (f a).map (Option.getD · a) <;> rfl
  have hall := hloop t.rows [] t rfl
  unfold backfill
  rw [hall]
  cases t.rows.mapM fun a => (f a).map (Option.getD · a) <;> rfl

/-- A loop that treats every row well. -/
theorem backfill_eq_ok {f : α → Except ε (Option α)}
    (hkey : ∀ a a', f a = .ok (some a') → key a' = key a) {t : Table α} {R : α → α → Prop}
    (h : ∀ a ∈ t, ∃ r, f a = .ok r ∧ R a (r.getD a)) :
    ∃ t', backfill f t = .ok t' ∧ List.Forall₂ R t.rows t'.rows := by
  let g : α → α := fun a =>
    match f a with
    | .ok r => r.getD a
    | .error _ => a
  have hg : ∀ a ∈ t.rows, (f a).map (Option.getD · a) = .ok (g a) := by
    intro a ha
    obtain ⟨r, hr, -⟩ := h a ha
    dsimp only [g]
    rw [hr]
    rfl
  have hrows := map_rows_backfill hkey t
  rw [mapM_eq_ok hg] at hrows
  obtain ⟨t', ht', hmap⟩ := map_eq_ok_iff.mp hrows
  refine ⟨t', ht', ?_⟩
  rw [hmap, List.forall₂_map_right_iff, List.forall₂_same]
  intro a ha
  obtain ⟨r, hr, hR⟩ := h a ha
  dsimp only [g]
  rwa [hr]

/-- A loop that meets a row it cannot fill. -/
theorem backfill_eq_error {f : α → Except ε (Option α)}
    (hkey : ∀ a a', f a = .ok (some a') → key a' = key a) {t : Table α}
    (h : ∃ a ∈ t, ∃ e, f a = .error e) :
    ∃ a ∈ t, ∃ e, f a = .error e ∧ backfill f t = .error e := by
  have hrows := map_rows_backfill hkey t
  have hmap : ∃ a ∈ t.rows, ∃ e, (f a).map (Option.getD · a) = .error e := by
    obtain ⟨a, ha, e, he⟩ := h
    exact ⟨a, ha, e, by rw [he]; rfl⟩
  obtain ⟨a, ha, e, he, hmapM⟩ := mapM_eq_error hmap
  have hfa : f a = .error e := by
    cases hfa : f a with
    | ok r => rw [hfa] at he; cases he
    | error e' =>
      rw [hfa] at he
      rw [Except.error.inj he]
  refine ⟨a, ha, e, hfa, ?_⟩
  rw [hmapM] at hrows
  cases hbackfill : backfill f t with
  | ok t' => rw [hbackfill] at hrows; cases hrows
  | error e' =>
    rw [hbackfill] at hrows
    rw [Except.error.inj hrows]

end Table

end Foundation
