import Chargeflow.Foundation.Ownership
import Chargeflow.Effects.Saving
import Chargeflow.Instances

/-!
# What the save of an instance writes

For the saves of `Instances`: what their checks guarantee, and the keys of the row they leave
behind.  Invoices, invoice lines and payment attempts are records of one kind, each with an
organization and one parent: `RecordModel` says where their keys are, and one lemma says what a save
makes of them.
-/

namespace Chargeflow

open Foundation

/-! ## Keys -/

namespace ForeignKey

variable {k : ForeignKey} {n : ℕ}

/-- The column of a foreign key is its value once it is set. -/
theorem value_eq (h : k.column = some n) : k.value = some n := by
  simp [value, h]

/-- An assignment sets the column. -/
theorem assign_column : (k.assign n).column = some n := by
  unfold assign
  split_ifs with h
  · exact h
  · rfl

/-- The value that is written is that of the foreign key. -/
theorem prepare_eq_ok {name : String} {v : Option ℕ} (h : k.prepare name = .ok v) :
    v = k.value := by
  obtain ⟨-, -, h⟩ := bind_eq_ok_iff.mp h
  exact (pure_eq_ok_iff.mp h).symm

end ForeignKey

/-- A column that is not null has a value. -/
theorem notNull_eq_ok {column : String} {v : Option ℕ} {n : ℕ} (h : notNull column v = .ok n) :
    v = some n := by
  cases v with
  | none => cases h
  | some m => exact congrArg some (Except.ok.inj h)

/-- A key after a save is the one of the instance, or it was not written. -/
def SavedKey (written : Bool) (v : Option ℕ) (stored n : ℕ) : Prop :=
  (written = true ∧ v = some n) ∨ (written = false ∧ n = stored)

/-- The key of a saved row is the written one, or the stored one. -/
theorem savedKey_eq_ok {column : String} {written : Bool} {v : Option ℕ} {stored n : ℕ}
    (h : savedKey column written v stored = .ok n) : SavedKey written v stored n := by
  cases written with
  | true => exact Or.inl ⟨rfl, notNull_eq_ok h⟩
  | false => exact Or.inr ⟨rfl, (Except.ok.inj h).symm⟩

section

variable {α γ : Type} [Keyed α] {t t' : Table α}

/-- A reference that passes its check has a row. -/
theorem checkReference_eq_ok {column : String} {n : ℕ} {v : Unit}
    (h : checkReference t column n = .ok v) : ∃ a ∈ t, key a = n := by
  rw [checkReference, ensure_eq_ok_iff] at h
  obtain ⟨a, ha⟩ := Option.isSome_iff_exists.mp h
  exact ⟨a, Table.get?_eq_some_iff.mp ha⟩

/-- A stored row that is written is the one with the primary key of the instance. -/
theorem saveTarget_storedRow [DecidableEq γ] {pk : Option ℕ} {updateFields : Option (List γ)}
    {n : ℕ} {written : γ → Bool} (h : saveTarget pk updateFields = .ok (.storedRow n written)) :
    pk = some n := by
  unfold saveTarget at h
  split at h <;> simp_all

/-- A save leaves the table as it is, inserts a row, or replaces a stored one. -/
theorem saveRow_eq_ok {model : String} {target : SaveTarget γ} {newRow : Except Err α}
    {merge : (γ → Bool) → α → Except Err α} {check : α → Except Err Unit}
    (h : saveRow t model target newRow merge check = .ok t') :
    (target = .nothing ∧ t' = t) ∨
      (∃ row, target = .newRow ∧ newRow = .ok row ∧ check row = .ok () ∧ t' = t.insert row) ∨
      ∃ n written, ∃ stored ∈ t, ∃ row, target = .storedRow n written ∧ key stored = n ∧
        merge written stored = .ok row ∧ check row = .ok () ∧ t' = t.update row := by
  cases target with
  | nothing => exact Or.inl ⟨rfl, (Except.ok.inj h).symm⟩
  | newRow =>
    simp only [saveRow, bind_eq_ok_iff, pure_eq_ok_iff] at h
    obtain ⟨row, hrow, ⟨⟩, hcheck, rfl⟩ := h
    exact Or.inr (Or.inl ⟨row, rfl, hrow, hcheck, rfl⟩)
  | storedRow n written =>
    simp only [saveRow, bind_eq_ok_iff, pure_eq_ok_iff, fetch_eq_ok_iff] at h
    obtain ⟨stored, ⟨hstored, hkey⟩, row, hrow, ⟨⟩, hcheck, rfl⟩ := h
    exact Or.inr (Or.inr ⟨n, written, stored, hstored, row, rfl, hkey, hrow, hcheck, rfl⟩)

end

/-! ## Parents -/

section

variable {α γ : Type} [Keyed α] {t t' : Table α} {owner : α → ℕ}

/-- The save of a plan or a customer moves a row only while no subscription refers to it. -/
structure ParentCleaned (t : Table α) (owner : α → ℕ) (subscriptions : Table Subscription)
    (parent : Subscription → ℕ) (pk : Option ℕ) (organization : ForeignKey) : Prop where
  stored : ∀ n, pk = some n → ∃ a ∈ t, key a = n
  stays : ∀ a ∈ t, pk = some (key a) → organization.column ≠ some (owner a) →
    ∀ s ∈ subscriptions, parent s ≠ key a

/-- A parent that passes its check keeps the organization of its subscriptions. -/
theorem cleanParent_eq_ok {subscriptions : Table Subscription} {parent : Subscription → ℕ}
    {pk : Option ℕ} {organization : ForeignKey} {v : Unit}
    (h : cleanParent t owner subscriptions parent pk organization = .ok v)
    (hstored : ∀ n, pk = some n → ∃ a ∈ t, key a = n) :
    ParentCleaned t owner subscriptions parent pk organization := by
  rw [cleanParent, ensure_eq_ok_iff, Bool.not_eq_true', Bool.and_eq_false_iff] at h
  refine ⟨hstored, ?_⟩
  intro a ha hpk hmoved s hs hparent
  rcases h with h | h
  · have := Table.any_eq_false.mp h a ha
    simp [hpk, hmoved] at this
  · have := Table.any_eq_false.mp h s hs
    simp [hpk, hparent] at this

end

/-! ## Records -/

/-- Where the keys of a record and of its parent are. -/
structure RecordModel (α β γ : Type) [Keyed α] [Keyed β] where
  owner : α → ℕ
  parent : α → ℕ
  parentOwner : β → ℕ
  organizationColumn : γ
  parentColumn : γ
  owner_withKey : ∀ n a, owner (withKey n a) = owner a
  parent_withKey : ∀ n a, parent (withKey n a) = parent a

/-- The keys of a record in memory, and the columns its save writes. -/
structure RecordSave (γ : Type) where
  pk : Option ℕ
  organization : ForeignKey
  parent : ForeignKey
  updateFields : Option (List γ)

namespace RecordModel

variable {α β γ : Type} [Keyed α] [Keyed β] [DecidableEq γ] (M : RecordModel α β γ)
  {t t' : Table α} {u u' : Table β} {r : RecordSave γ}

/-- Without the key of its parent in memory a record is not checked.  Its save then leaves a stored
record in its organization, and the parent it writes is of the organization of the record. -/
def Unmoved (t : Table α) (u : Table β) (r : RecordSave γ) : Prop :=
  r.parent.column = none → ∀ target, saveTarget r.pk r.updateFields = .ok target →
    match target with
    | .nothing => True
    | .newRow => ∀ b ∈ u, r.parent.value = some (key b) →
        ∀ o, r.organization.value = some o → o = M.parentOwner b
    | .storedRow n written => ∀ a ∈ t, key a = n →
        (written M.organizationColumn = true →
          ∀ o, r.organization.value = some o → o = M.owner a) ∧
        (written M.parentColumn = true → ∀ b ∈ u, r.parent.value = some (key b) →
          M.parentOwner b = M.owner a)

/-- The row of a record in memory and the one of its related object are there. -/
structure Present (t : Table α) (u : Table β) (r : RecordSave γ) : Prop where
  stored : ∀ n, r.pk = some n → ∃ a ∈ t, key a = n
  related : ∀ n, r.parent.related = some (some n) → ∃ b ∈ u, key b = n

/-- What is known of a record when it is written: with the key of its parent it has the organization
of the parent. -/
structure Cleaned (t : Table α) (u : Table β) (r : RecordSave γ) : Prop where
  present : Present t u r
  checked : ∀ m, r.parent.column = some m → ∃ b ∈ u, key b = m ∧
    r.organization.column = some (M.parentOwner b) ∧
    ∀ a ∈ t, r.pk = some (key a) → M.owner a = M.parentOwner b
  unmoved : M.Unmoved t u r

/-- The key of the parent of the row a save leaves refers to a row, and the keys of the row are
those of the instance in the columns that were written. -/
inductive Saved (t : Table α) (u : Table β) (r : RecordSave γ) : Table α → Prop
  | unchanged (htarget : saveTarget r.pk r.updateFields = .ok .nothing) : Saved t u r t
  | inserted {row : α} (htarget : saveTarget r.pk r.updateFields = .ok .newRow)
      (howner : r.organization.value = some (M.owner row))
      (hparent : r.parent.value = some (M.parent row)) (href : ∃ b ∈ u, key b = M.parent row) :
      Saved t u r (t.insert row)
  | updated {n : ℕ} {written : γ → Bool} {stored row : α}
      (htarget : saveTarget r.pk r.updateFields = .ok (.storedRow n written))
      (hstored : stored ∈ t) (hkey : key stored = n) (hrow : key row = n)
      (howner : SavedKey (written M.organizationColumn) r.organization.value (M.owner stored)
        (M.owner row))
      (hparent : SavedKey (written M.parentColumn) r.parent.value (M.parent stored) (M.parent row))
      (href : ∃ b ∈ u, key b = M.parent row) : Saved t u r (t.update row)

variable {M}

/-- A save that commits leaves the written row with the keys of the instance. -/
theorem saved_of_eq_ok {model : String} {target : SaveTarget γ} {newRow : Except Err α}
    {merge : (γ → Bool) → α → Except Err α} {check : α → Except Err Unit}
    (h : saveRow t model target newRow merge check = .ok t')
    (htarget : saveTarget r.pk r.updateFields = .ok target)
    (hnew : ∀ row, newRow = .ok row → r.organization.value = some (M.owner row) ∧
      r.parent.value = some (M.parent row))
    (hmerge : ∀ written stored row, merge written stored = .ok row → key row = key stored ∧
      SavedKey (written M.organizationColumn) r.organization.value (M.owner stored) (M.owner row) ∧
      SavedKey (written M.parentColumn) r.parent.value (M.parent stored) (M.parent row))
    (hcheck : ∀ row, check row = .ok () → ∃ b ∈ u, key b = M.parent row) : M.Saved t u r t' := by
  rcases saveRow_eq_ok h with ⟨rfl, rfl⟩ | ⟨row, rfl, hrow, hchecked, rfl⟩ |
    ⟨n, written, stored, hstored, row, rfl, hkey, hrow, hchecked, rfl⟩
  · exact .unchanged htarget
  · exact .inserted htarget (hnew row hrow).1 (hnew row hrow).2 (hcheck row hchecked)
  · obtain ⟨hsame, howner, hparent⟩ := hmerge written stored row hrow
    exact .updated htarget hstored hkey (hsame.trans hkey) howner hparent (hcheck row hchecked)

/-- A record without the key of its parent in memory is not checked. -/
theorem Cleaned.unchecked (hpresent : Present t u r) (hunmoved : M.Unmoved t u r)
    (hcolumn : r.parent.column = none) : M.Cleaned t u r :=
  ⟨hpresent, fun m hm => absurd (hcolumn.symm.trans hm) (by simp), hunmoved⟩

/-- A record with the key of its parent has passed the check. -/
theorem Cleaned.of_parent (hpresent : Present t u r) {b : β} (hb : b ∈ u)
    (hcolumn : r.parent.column = some (key b))
    (horganization : r.organization.column = some (M.parentOwner b))
    (hstays : ∀ a ∈ t, r.pk = some (key a) → M.owner a = M.parentOwner b) : M.Cleaned t u r := by
  refine ⟨hpresent, ?_, ?_⟩
  · intro m hm
    exact ⟨b, hb, Option.some.inj (hcolumn.symm.trans hm), horganization, hstays⟩
  · exact fun hnone => absurd (hcolumn.symm.trans hnone) (by simp)

/-- A new row has the organization of its parent. -/
theorem Cleaned.inserted (h : M.Cleaned t u r) {row : α} {b : β}
    (htarget : saveTarget r.pk r.updateFields = .ok .newRow)
    (howner : r.organization.value = some (M.owner row))
    (hparent : r.parent.value = some (M.parent row)) (hb : b ∈ u) (hkey : key b = M.parent row) :
    M.parentOwner b = M.owner row := by
  cases hcolumn : r.parent.column with
  | none =>
    exact (h.unmoved hcolumn _ htarget b hb (hparent.trans (congrArg some hkey.symm)) _ howner).symm
  | some m =>
    obtain ⟨b', hb', hbm, horganization, -⟩ := h.checked m hcolumn
    rw [ForeignKey.value_eq hcolumn] at hparent
    rw [ForeignKey.value_eq horganization] at howner
    have hsame : b = b' := Table.eq_of_key_eq hb hb'
      (hkey.trans ((Option.some.inj hparent).symm.trans hbm.symm))
    rw [hsame]
    exact Option.some.inj howner

/-- A stored row keeps its organization. -/
theorem Cleaned.owner_eq (h : M.Cleaned t u r) {n : ℕ} {written : γ → Bool} {stored row : α}
    (htarget : saveTarget r.pk r.updateFields = .ok (.storedRow n written)) (hstored : stored ∈ t)
    (hkey : key stored = n) (howner : SavedKey (written M.organizationColumn) r.organization.value
      (M.owner stored) (M.owner row)) : M.owner row = M.owner stored := by
  rcases howner with ⟨hwritten, hvalue⟩ | ⟨-, hsame⟩
  · cases hcolumn : r.parent.column with
    | none => exact (h.unmoved hcolumn _ htarget stored hstored hkey).1 hwritten _ hvalue
    | some m =>
      obtain ⟨b, -, -, horganization, hstays⟩ := h.checked m hcolumn
      rw [ForeignKey.value_eq horganization] at hvalue
      rw [hstays stored hstored ((saveTarget_storedRow htarget).trans (congrArg some hkey.symm))]
      exact (Option.some.inj hvalue).symm
  · exact hsame

/-- A parent that is written into a stored row has the organization of the row. -/
theorem Cleaned.parentOwner_eq (h : M.Cleaned t u r) {n m : ℕ} {written : γ → Bool} {stored : α}
    {b : β} (htarget : saveTarget r.pk r.updateFields = .ok (.storedRow n written))
    (hstored : stored ∈ t) (hkey : key stored = n) (hwritten : written M.parentColumn = true)
    (hparent : r.parent.value = some m) (hb : b ∈ u) (hbm : key b = m) :
    M.parentOwner b = M.owner stored := by
  cases hcolumn : r.parent.column with
  | none =>
    exact (h.unmoved hcolumn _ htarget stored hstored hkey).2 hwritten b hb
      (hparent.trans (congrArg some hbm.symm))
  | some m' =>
    obtain ⟨b', hb', hbm', -, hstays⟩ := h.checked m' hcolumn
    rw [ForeignKey.value_eq hcolumn] at hparent
    have hsame : b = b' := Table.eq_of_key_eq hb hb'
      (hbm.trans ((Option.some.inj hparent).symm.trans hbm'.symm))
    rw [hsame]
    exact (hstays stored hstored
      ((saveTarget_storedRow htarget).trans (congrArg some hkey.symm))).symm

/-- The save of a checked record leaves every record in its organization. -/
theorem Saved.keeps (h : M.Saved t u r t') (hclean : M.Cleaned t u r) :
    t.Keeps M.owner t' := by
  cases h with
  | unchanged htarget => exact .refl t
  | inserted => exact .insert t _
  | updated htarget hstored hkey hrow howner hparent href =>
    exact .update hstored (hclean.owner_eq htarget hstored hkey howner)
      (hrow.trans hkey.symm)

/-- After the save of a checked record every record has the organization of its parent. -/
theorem Saved.belongs (h : M.Saved t u r t') (hclean : M.Cleaned t u r)
    (hdb : Belongs M.parent M.owner M.parentOwner t u) :
    Belongs M.parent M.owner M.parentOwner t' u := by
  cases h with
  | unchanged htarget => exact hdb
  | inserted htarget howner hparent href =>
    obtain ⟨b, hb, hbm⟩ := href
    refine hdb.insert ⟨b, hb, ?_, ?_⟩
    · rw [M.parent_withKey]
      exact hbm
    · rw [M.owner_withKey]
      exact hclean.inserted htarget howner hparent hb hbm
  | updated htarget hstored hkey hrow howner hparent href =>
    have hkept := hclean.owner_eq htarget hstored hkey howner
    rcases hparent with ⟨hwritten, hvalue⟩ | ⟨-, hsame⟩
    · obtain ⟨b, hb, hbm⟩ := href
      exact hdb.update ⟨b, hb, hbm, (hclean.parentOwner_eq htarget hstored hkey hwritten hvalue hb
        hbm).trans hkept.symm⟩
    · exact hdb.update_same hstored hsame hkept

/-- A save that moves no record, and leaves the written one with a parent of its organization, did
so also where the record was not checked. -/
theorem Saved.unmoved (h : M.Saved t u r t') (hkeeps : t.Keeps M.owner t')
    (hbelongs : Belongs M.parent M.owner M.parentOwner t' u) : M.Unmoved t u r := by
  intro _ target htarget
  cases h with
  | unchanged htarget' =>
    obtain rfl := Except.ok.inj (htarget.symm.trans htarget')
    trivial
  | @inserted row htarget' howner hparent href =>
    obtain rfl := Except.ok.inj (htarget.symm.trans htarget')
    intro b hb hvalue o ho
    obtain ⟨b', hb', hkey, hsame⟩ := hbelongs _ Table.mem_insert_self
    rw [M.parent_withKey] at hkey
    rw [M.owner_withKey] at hsame
    obtain rfl := Table.eq_of_key_eq hb hb'
      ((Option.some.inj (hvalue.symm.trans hparent)).trans hkey.symm)
    exact (Option.some.inj (ho.symm.trans howner)).trans hsame.symm
  | @updated n written stored row htarget' hstored hkey hrow howner hparent href =>
    obtain rfl := Except.ok.inj (htarget.symm.trans htarget')
    intro a ha hkeya
    obtain rfl := Table.eq_of_key_eq ha hstored (hkeya.trans hkey.symm)
    have hmem : row ∈ t.update row := Table.mem_update_self hstored (hrow.trans hkey.symm)
    have hkept : M.owner row = M.owner a := hkeeps.rel hstored hmem (hrow.trans hkey.symm)
    refine ⟨?_, ?_⟩
    · intro hwritten o ho
      rcases howner with ⟨-, hvalue⟩ | ⟨hnot, -⟩
      · exact (Option.some.inj (ho.symm.trans hvalue)).trans hkept
      · rw [hwritten] at hnot
        cases hnot
    · intro hwritten b hb hvalue
      rcases hparent with ⟨-, hvalue'⟩ | ⟨hnot, -⟩
      · obtain ⟨b', hb', hkeyb, hsame⟩ := hbelongs row hmem
        obtain rfl := Table.eq_of_key_eq hb hb'
          ((Option.some.inj (hvalue.symm.trans hvalue')).trans hkeyb.symm)
        exact hsame.trans hkept
      · rw [hwritten] at hnot
        cases hnot

/-- The parent of a row after a save is the one of a row before it, or the one of the instance. -/
theorem Saved.parent_origin (h : M.Saved t u r t') {a' : α} (ha' : a' ∈ t') :
    (∃ a ∈ t, M.parent a = M.parent a') ∨ r.parent.value = some (M.parent a') := by
  cases h with
  | unchanged => exact Or.inl ⟨a', ha', rfl⟩
  | inserted htarget howner hparent href =>
    rcases Table.mem_insert.mp ha' with ha' | rfl
    · exact Or.inl ⟨a', ha', rfl⟩
    · rw [M.parent_withKey]
      exact Or.inr hparent
  | updated htarget hstored hkey hrow howner hparent href =>
    rcases Table.mem_update.mp ha' with ⟨rfl, -⟩ | ⟨ha', -⟩
    · rcases hparent with ⟨-, hvalue⟩ | ⟨-, hsame⟩
      · exact Or.inr hvalue
      · exact Or.inl ⟨_, hstored, hsame.symm⟩
    · exact Or.inl ⟨a', ha', rfl⟩

/-- A save changes the row of its instance and no other. -/
theorem Saved.version (h : M.Saved t u r t') {a a' : α} (ha : a ∈ t) (ha' : a' ∈ t')
    (hkey : key a' = key a) : a' = a ∨ r.pk = some (key a) := by
  cases h with
  | unchanged => exact Or.inl (Table.eq_of_key_eq ha' ha hkey)
  | inserted htarget howner hparent href =>
    rcases Table.mem_insert.mp ha' with ha' | rfl
    · exact Or.inl (Table.eq_of_key_eq ha' ha hkey)
    · rw [key_withKey] at hkey
      exact absurd hkey (Nat.ne_of_gt (Table.key_lt ha))
  | updated htarget hstored hkeyn hrow howner hparent href =>
    rcases Table.update_version hstored (hrow.trans hkeyn.symm) ha ha' hkey.symm with
      rfl | ⟨rfl, rfl⟩
    · exact Or.inl rfl
    · exact Or.inr ((saveTarget_storedRow htarget).trans (congrArg some hkeyn.symm))

/-- What a check of a record established still holds when the records keep their organizations, and
so does the parent in memory. -/
theorem Cleaned.of_kept (h : M.Cleaned t u r) (ht : t.Keeps M.owner t')
    (hu : ∀ b ∈ u, ∃ b' ∈ u', key b' = key b ∧ ((∀ m, r.parent.column = some m → m = key b) →
      M.parentOwner b' = M.parentOwner b)) : M.Cleaned t' u' r := by
  have hrow : ∀ a' ∈ t', ∀ n, r.pk = some n → key a' = n → ∃ a ∈ t, key a = n ∧
      M.owner a' = M.owner a := by
    intro a' ha' n hpk hkey
    obtain ⟨a, ha, hkey'⟩ := h.present.stored n hpk
    exact ⟨a, ha, hkey', ht.rel ha ha' (hkey.trans hkey'.symm)⟩
  have hparent : ∀ b' ∈ u', r.parent.column = none → r.parent.value = some (key b') →
      ∃ b ∈ u, key b = key b' ∧ M.parentOwner b' = M.parentOwner b := by
    intro b' hb' hcolumn hvalue
    have hrelated : r.parent.related = some (some (key b')) := by
      simpa [ForeignKey.value, hcolumn, Option.join_eq_some_iff] using hvalue
    obtain ⟨b, hb, hkey⟩ := h.present.related _ hrelated
    obtain ⟨c, hc, hcb, howner⟩ := hu b hb
    obtain rfl := Table.eq_of_key_eq hb' hc (hkey.symm.trans hcb.symm)
    exact ⟨b, hb, hkey, howner fun m hm => by simp [hcolumn] at hm⟩
  refine ⟨⟨?_, ?_⟩, ?_, ?_⟩
  · intro n hpk
    obtain ⟨a, ha, hkey⟩ := h.present.stored n hpk
    obtain ⟨a', ha', hkey', -⟩ := ht.kept a ha
    exact ⟨a', ha', hkey'.trans hkey⟩
  · intro n hrelated
    obtain ⟨b, hb, hkey⟩ := h.present.related n hrelated
    obtain ⟨b', hb', hkey', -⟩ := hu b hb
    exact ⟨b', hb', hkey'.trans hkey⟩
  · intro m hcolumn
    obtain ⟨b, hb, hkey, horganization, hstays⟩ := h.checked m hcolumn
    obtain ⟨b', hb', hkey', howner⟩ := hu b hb
    have howner := howner fun m' hm' => by
      rw [hcolumn] at hm'
      exact (Option.some.inj hm').symm.trans hkey.symm
    refine ⟨b', hb', hkey'.trans hkey, by rw [howner]; exact horganization, ?_⟩
    intro a' ha' hpk
    obtain ⟨a, ha, hkeya, hsame⟩ := hrow a' ha' _ hpk rfl
    rw [hsame, howner]
    exact hstays a ha (hpk.trans (congrArg some hkeya.symm))
  · intro hcolumn target htarget
    have hunmoved := h.unmoved hcolumn target htarget
    cases target with
    | nothing => trivial
    | newRow =>
      intro b' hb' hvalue o ho
      obtain ⟨b, hb, hkey, hsame⟩ := hparent b' hb' hcolumn hvalue
      rw [hsame]
      exact hunmoved b hb (hvalue.trans (congrArg some hkey.symm)) o ho
    | storedRow n written =>
      intro a' ha' hkeya'
      obtain ⟨a, ha, hkeya, hsame⟩ := hrow a' ha' n (saveTarget_storedRow htarget) hkeya'
      rw [hsame]
      refine ⟨(hunmoved a ha hkeya).1, ?_⟩
      intro hwritten b' hb' hvalue
      obtain ⟨b, hb, hkey, hsame'⟩ := hparent b' hb' hcolumn hvalue
      rw [hsame']
      exact (hunmoved a ha hkeya).2 hwritten b hb (hvalue.trans (congrArg some hkey.symm))

/-- A check holds in later tables whose rows keep their organizations. -/
theorem Cleaned.of_keeps (h : M.Cleaned t u r) (ht : t.Keeps M.owner t')
    (hu : u.Keeps M.parentOwner u') : M.Cleaned t' u' r := by
  refine h.of_kept ht ?_
  intro b hb
  obtain ⟨b', hb', hkey, howner⟩ := hu.kept b hb
  exact ⟨b', hb', hkey, fun _ => howner⟩

end RecordModel

/-- The end of `clean` of a record leaves it with the organization of its parent. -/
theorem cleanRecord_eq_ok {α : Type} [Keyed α] {t : Table α} {owner : α → ℕ} {pk : Option ℕ}
    {organization organization' : ForeignKey} {o : ℕ}
    (h : cleanRecord t owner pk organization o = .ok organization') :
    organization'.column = some o ∧ ∀ a ∈ t, pk = some (key a) → owner a = o := by
  simp only [cleanRecord, bind_eq_ok_iff, ensure_eq_ok_iff, pure_eq_ok_iff] at h
  obtain ⟨-, -, -, hstays, rfl⟩ := h
  refine ⟨ForeignKey.assign_column, ?_⟩
  intro a ha hpk
  rw [Bool.not_eq_true'] at hstays
  have := Table.any_eq_false.mp hstays a ha
  simpa [hpk] using this

/-! ## The models -/

/-- The row of a plan or a customer after a save. -/
inductive ParentSaved {α : Type} [Keyed α] (t : Table α) (owner : α → ℕ) (pk : Option ℕ)
    (organization : ForeignKey) : Table α → Prop
  | unchanged : ParentSaved t owner pk organization t
  | inserted (row : α) : ParentSaved t owner pk organization (t.insert row)
  | updated {stored row : α} (written : Bool) (hpk : pk = some (key stored)) (hstored : stored ∈ t)
      (hkey : key row = key stored)
      (howner : SavedKey written organization.value (owner stored) (owner row)) :
      ParentSaved t owner pk organization (t.update row)

/-- A save of a parent that commits leaves it with the organization of the instance. -/
theorem parentSaved_of_eq_ok {α γ : Type} [Keyed α] [DecidableEq γ] {t t' : Table α}
    {owner : α → ℕ} {pk : Option ℕ} {updateFields : Option (List γ)} {organization : ForeignKey}
    (column : γ) {model : String} {target : SaveTarget γ} {newRow : Except Err α}
    {merge : (γ → Bool) → α → Except Err α} {check : α → Except Err Unit}
    (h : saveRow t model target newRow merge check = .ok t')
    (htarget : saveTarget pk updateFields = .ok target)
    (hmerge : ∀ written stored row, merge written stored = .ok row → key row = key stored ∧
      SavedKey (written column) organization.value (owner stored) (owner row)) :
    ParentSaved t owner pk organization t' := by
  rcases saveRow_eq_ok h with ⟨rfl, rfl⟩ | ⟨row, rfl, -, -, rfl⟩ |
    ⟨n, written, stored, hstored, row, rfl, hkey, hrow, -, rfl⟩
  · exact .unchanged
  · exact .inserted row
  · obtain ⟨hsame, howner⟩ := hmerge written stored row hrow
    exact .updated (written column) ((saveTarget_storedRow htarget).trans (congrArg some hkey.symm))
      hstored hsame howner

/-- A row moves to another organization only while no subscription refers to it. -/
theorem ParentSaved.moved {α : Type} [Keyed α] {t t' : Table α} {owner : α → ℕ}
    {subscriptions : Table Subscription} {parent : Subscription → ℕ} {pk : Option ℕ}
    {organization : ForeignKey} (h : ParentSaved t owner pk organization t')
    (hclean : ParentCleaned t owner subscriptions parent pk organization) :
    ∀ a ∈ t, ∃ a' ∈ t', key a' = key a ∧ (owner a' ≠ owner a →
      pk = some (key a) ∧ ∀ s ∈ subscriptions, parent s ≠ key a) := by
  intro a ha
  cases h with
  | unchanged => exact ⟨a, ha, rfl, fun hmoved => absurd rfl hmoved⟩
  | inserted row => exact ⟨a, Table.mem_insert_of_mem ha, rfl, fun hmoved => absurd rfl hmoved⟩
  | updated written hpk hstored hkey howner =>
    rcases Table.exists_mem_update hstored hkey ha with ⟨-, ha'⟩ | ⟨rfl, ha'⟩
    · exact ⟨a, ha', rfl, fun hmoved => absurd rfl hmoved⟩
    · refine ⟨_, ha', hkey, ?_⟩
      intro hmoved
      refine ⟨hpk, hclean.stays a ha hpk ?_⟩
      intro hcolumn
      rcases howner with ⟨-, hvalue⟩ | ⟨-, hsame⟩
      · rw [ForeignKey.value_eq hcolumn] at hvalue
        exact hmoved (Option.some.inj hvalue).symm
      · exact hmoved hsame

/-- A write of a plan changes the plans, and only those. -/
theorem PlanInstance.write_eq_ok {db db' : Db} {p : PlanInstance}
    {updateFields : Option (List PlanColumn)} (h : p.write db updateFields = .ok db') :
    ∃ plans, ParentSaved db.plans Plan.organizationId p.pk p.organization plans ∧
      db' = { db with plans := plans } := by
  simp only [PlanInstance.write, bind_eq_ok_iff, pure_eq_ok_iff] at h
  obtain ⟨organization, horganization, target, htarget, plans, hsave, rfl⟩ := h
  obtain rfl := ForeignKey.prepare_eq_ok horganization
  refine ⟨plans, parentSaved_of_eq_ok .organization hsave htarget ?_, rfl⟩
  intro written stored row hrow
  simp only [PlanInstance.merge, bind_eq_ok_iff, pure_eq_ok_iff] at hrow
  obtain ⟨o, ho, rfl⟩ := hrow
  exact ⟨rfl, savedKey_eq_ok ho⟩

/-- A write of a customer changes the customers, and only those. -/
theorem CustomerInstance.write_eq_ok {db db' : Db} {c : CustomerInstance}
    {updateFields : Option (List CustomerColumn)} (h : c.write db updateFields = .ok db') :
    ∃ customers, ParentSaved db.customers Customer.organizationId c.pk c.organization customers ∧
      db' = { db with customers := customers } := by
  simp only [CustomerInstance.write, bind_eq_ok_iff, pure_eq_ok_iff] at h
  obtain ⟨organization, horganization, target, htarget, customers, hsave, rfl⟩ := h
  obtain rfl := ForeignKey.prepare_eq_ok horganization
  refine ⟨customers, parentSaved_of_eq_ok .organization hsave htarget ?_, rfl⟩
  intro written stored row hrow
  simp only [CustomerInstance.merge, bind_eq_ok_iff, pure_eq_ok_iff] at hrow
  obtain ⟨o, ho, rfl⟩ := hrow
  exact ⟨rfl, savedKey_eq_ok ho⟩

/-! ### Subscriptions -/

/-- A subscription is a record of its customer, -/
def Subscription.customerModel : RecordModel Subscription Customer SubscriptionColumn where
  owner := Subscription.organizationId
  parent := Subscription.customerId
  parentOwner := Customer.organizationId
  organizationColumn := .organization
  parentColumn := .customer
  owner_withKey _ _ := rfl
  parent_withKey _ _ := rfl

/-- and one of its plan. -/
def Subscription.planModel : RecordModel Subscription Plan SubscriptionColumn where
  owner := Subscription.organizationId
  parent := Subscription.planId
  parentOwner := Plan.organizationId
  organizationColumn := .organization
  parentColumn := .plan
  owner_withKey _ _ := rfl
  parent_withKey _ _ := rfl

namespace SubscriptionInstance

variable {db db' : Db} {s s' : SubscriptionInstance} {f : Option (List SubscriptionColumn)}

/-- The keys of a subscription with its customer as the parent. -/
def customerKeys (f : Option (List SubscriptionColumn)) (s : SubscriptionInstance) :
    RecordSave SubscriptionColumn := ⟨s.pk, s.organization, s.customer, f⟩

/-- The keys of a subscription with its plan as the parent. -/
def planKeys (f : Option (List SubscriptionColumn)) (s : SubscriptionInstance) :
    RecordSave SubscriptionColumn := ⟨s.pk, s.organization, s.plan, f⟩

/-- The parents of an instance that passes the lock are not missing. -/
theorem lockParents_eq_ok {customer plan : Option ℕ} {v : Unit}
    (h : lockParents db customer plan = .ok v) :
    ∃ c p, customer = some c ∧ plan = some p := by
  cases customer with
  | none => cases h
  | some c =>
    cases plan with
    | none =>
      simp only [lockParents, bind_eq_ok_iff] at h
      obtain ⟨-, -, h⟩ := h
      cases h
    | some p => exact ⟨c, p, rfl, rfl⟩

/-- A subscription that keeps its parents has the columns of its stored row. -/
theorem KeepsParents.columns (h : s.KeepsParents db) : ∃ row ∈ db.subscriptions,
    s.pk = some row.id ∧ s.customer.column = some row.customerId ∧
      s.plan.column = some row.planId := by
  unfold KeepsParents persistedParents at h
  rw [Option.map_map, Option.map_eq_some_iff] at h
  obtain ⟨row, hrow, hparents⟩ := h
  obtain ⟨n, hpk, hget⟩ := Option.bind_eq_some_iff.mp hrow
  obtain ⟨hmem, hkey⟩ := Table.get?_eq_some_iff.mp hget
  simp only [Function.comp_apply, Prod.mk.injEq] at hparents
  exact ⟨row, hmem, hpk.trans (congrArg some hkey.symm), hparents.1.symm, hparents.2.symm⟩

/-- With both parents in memory, `clean` leaves the organization that they have in common. -/
theorem clean_eq_ok {c p : ℕ} (h : s.clean db = .ok s') (hcustomer : s.customer.column = some c)
    (hplan : s.plan.column = some p) :
    ∃ organization, s' = { s with organization := organization } ∧
      ∃ customer ∈ db.customers, ∃ plan ∈ db.plans, customer.id = c ∧ plan.id = p ∧
        plan.organizationId = customer.organizationId ∧
        organization.column = some customer.organizationId ∧
        ∀ row ∈ db.subscriptions, s.pk = some row.id →
          row.organizationId = customer.organizationId := by
  unfold clean at h
  rw [hcustomer, hplan] at h
  simp only [bind_eq_ok_iff, fetch_eq_ok_iff, ensure_eq_ok_iff, pure_eq_ok_iff, beq_iff_eq] at h
  obtain ⟨customer, ⟨hc, hcid⟩, plan, ⟨hp, hpid⟩, -, hsame, organization, hrecord, rfl⟩ := h
  obtain ⟨hcolumn, hstays⟩ := cleanRecord_eq_ok hrecord
  exact ⟨organization, rfl, customer, hc, plan, hp, hcid, hpid, hsame, hcolumn, hstays⟩

/-- A save of a subscription writes the keys of the instance. -/
theorem write_eq_ok (h : s.write db f = .ok db') :
    ∃ subscriptions, Subscription.customerModel.Saved db.subscriptions db.customers
        (s.customerKeys f) subscriptions ∧
      Subscription.planModel.Saved db.subscriptions db.plans (s.planKeys f) subscriptions ∧
      db' = { db with subscriptions := subscriptions } := by
  simp only [write, bind_eq_ok_iff, pure_eq_ok_iff] at h
  obtain ⟨organization, horganization, customer, hcustomer, plan, hplan, target, htarget,
    subscriptions, hsave, rfl⟩ := h
  obtain rfl := ForeignKey.prepare_eq_ok horganization
  obtain rfl := ForeignKey.prepare_eq_ok hcustomer
  obtain rfl := ForeignKey.prepare_eq_ok hplan
  have hnew : ∀ row, s.newRow s.organization.value s.customer.value s.plan.value = .ok row →
      s.organization.value = some row.organizationId ∧ s.customer.value = some row.customerId ∧
        s.plan.value = some row.planId := by
    intro row hrow
    simp only [newRow, bind_eq_ok_iff, pure_eq_ok_iff] at hrow
    obtain ⟨o, ho, c, hc, p, hp, rfl⟩ := hrow
    exact ⟨notNull_eq_ok ho, notNull_eq_ok hc, notNull_eq_ok hp⟩
  have hmerge : ∀ written stored row,
      s.merge s.organization.value s.customer.value s.plan.value written stored = .ok row →
      row.id = stored.id ∧
      SavedKey (written .organization) s.organization.value stored.organizationId
        row.organizationId ∧
      SavedKey (written .customer) s.customer.value stored.customerId row.customerId ∧
      SavedKey (written .plan) s.plan.value stored.planId row.planId := by
    intro written stored row hrow
    simp only [merge, bind_eq_ok_iff, pure_eq_ok_iff] at hrow
    obtain ⟨o, ho, c, hc, p, hp, rfl⟩ := hrow
    exact ⟨rfl, savedKey_eq_ok ho, savedKey_eq_ok hc, savedKey_eq_ok hp⟩
  refine ⟨subscriptions, ?_, ?_, rfl⟩
  · refine RecordModel.saved_of_eq_ok hsave htarget ?_ ?_ ?_
    · exact fun row hrow => ⟨(hnew row hrow).1, (hnew row hrow).2.1⟩
    · intro written stored row hrow
      obtain ⟨hid, ho, hc, -⟩ := hmerge written stored row hrow
      exact ⟨hid, ho, hc⟩
    · intro row hrow
      simp only [bind_eq_ok_iff] at hrow
      obtain ⟨⟨⟩, hcustomer, -⟩ := hrow
      exact checkReference_eq_ok hcustomer
  · refine RecordModel.saved_of_eq_ok hsave htarget ?_ ?_ ?_
    · exact fun row hrow => ⟨(hnew row hrow).1, (hnew row hrow).2.2⟩
    · intro written stored row hrow
      obtain ⟨hid, ho, -, hp⟩ := hmerge written stored row hrow
      exact ⟨hid, ho, hp⟩
    · intro row hrow
      simp only [bind_eq_ok_iff] at hrow
      obtain ⟨⟨⟩, -, hplan⟩ := hrow
      exact checkReference_eq_ok hplan

end SubscriptionInstance

/-! ### Invoices, lines and attempts -/

/-- Invoices, whose parents are subscriptions. -/
def Invoice.model : RecordModel Invoice Subscription InvoiceColumn where
  owner := Invoice.organizationId
  parent := Invoice.subscriptionId
  parentOwner := Subscription.organizationId
  organizationColumn := .organization
  parentColumn := .subscription
  owner_withKey _ _ := rfl
  parent_withKey _ _ := rfl

/-- Invoice lines, whose parents are invoices. -/
def InvoiceLine.model : RecordModel InvoiceLine Invoice LineColumn where
  owner := InvoiceLine.organizationId
  parent := InvoiceLine.invoiceId
  parentOwner := Invoice.organizationId
  organizationColumn := .organization
  parentColumn := .invoice
  owner_withKey _ _ := rfl
  parent_withKey _ _ := rfl

/-- Payment attempts, whose parents are invoices. -/
def PaymentAttempt.model : RecordModel PaymentAttempt Invoice AttemptColumn where
  owner := PaymentAttempt.organizationId
  parent := PaymentAttempt.invoiceId
  parentOwner := Invoice.organizationId
  organizationColumn := .organization
  parentColumn := .invoice
  owner_withKey _ _ := rfl
  parent_withKey _ _ := rfl

namespace InvoiceInstance

variable {db db' : Db} {i i' : InvoiceInstance} {f : Option (List InvoiceColumn)}

/-- The keys of an invoice that is saved. -/
def keys (f : Option (List InvoiceColumn)) (i : InvoiceInstance) : RecordSave InvoiceColumn :=
  ⟨i.pk, i.organization, i.subscription, f⟩

/-- The check of an invoice guarantees its keys. -/
theorem clean_eq_ok (h : i.clean db = .ok i')
    (hpresent : RecordModel.Present db.invoices db.subscriptions (i.keys f))
    (hunmoved : Invoice.model.Unmoved db.invoices db.subscriptions (i.keys f)) :
    Invoice.model.Cleaned db.invoices db.subscriptions (i'.keys f) := by
  unfold clean at h
  cases hcolumn : i.subscription.column with
  | none =>
    rw [hcolumn] at h
    obtain rfl := Except.ok.inj h
    exact .unchecked hpresent hunmoved hcolumn
  | some n =>
    rw [hcolumn] at h
    simp only [bind_eq_ok_iff, fetch_eq_ok_iff, pure_eq_ok_iff] at h
    obtain ⟨subscription, ⟨hs, rfl⟩, organization, hrecord, rfl⟩ := h
    obtain ⟨horganization, hstays⟩ := cleanRecord_eq_ok hrecord
    exact .of_parent ⟨hpresent.stored, hpresent.related⟩ hs hcolumn horganization hstays

/-- A write of an invoice changes the invoices, and only those. -/
theorem write_eq_ok (h : i.write db f = .ok db') :
    ∃ invoices, Invoice.model.Saved db.invoices db.subscriptions (i.keys f) invoices ∧
      db' = { db with invoices := invoices } := by
  simp only [write, bind_eq_ok_iff, pure_eq_ok_iff] at h
  obtain ⟨organization, horganization, subscription, hsubscription, target, htarget, invoices,
    hsave, rfl⟩ := h
  obtain rfl := ForeignKey.prepare_eq_ok horganization
  obtain rfl := ForeignKey.prepare_eq_ok hsubscription
  refine ⟨invoices, RecordModel.saved_of_eq_ok hsave htarget ?_ ?_ ?_, rfl⟩
  · intro row hrow
    simp only [newRow, bind_eq_ok_iff, pure_eq_ok_iff] at hrow
    obtain ⟨o, ho, n, hn, rfl⟩ := hrow
    exact ⟨notNull_eq_ok ho, notNull_eq_ok hn⟩
  · intro written stored row hrow
    simp only [merge, bind_eq_ok_iff, pure_eq_ok_iff] at hrow
    obtain ⟨o, ho, n, hn, rfl⟩ := hrow
    exact ⟨rfl, savedKey_eq_ok ho, savedKey_eq_ok hn⟩
  · intro row hrow
    simp only [checkRow, bind_eq_ok_iff] at hrow
    obtain ⟨-, -, -, -, ⟨⟩, href, -⟩ := hrow
    exact checkReference_eq_ok href

end InvoiceInstance

namespace LineInstance

variable {db db' : Db} {l l' : LineInstance} {f : Option (List LineColumn)}

/-- The keys of an invoice line that is saved. -/
def keys (f : Option (List LineColumn)) (l : LineInstance) : RecordSave LineColumn :=
  ⟨l.pk, l.organization, l.invoice, f⟩

/-- The check of an invoice line guarantees its keys. -/
theorem clean_eq_ok (h : l.clean db = .ok l')
    (hpresent : RecordModel.Present db.invoiceLines db.invoices (l.keys f))
    (hunmoved : InvoiceLine.model.Unmoved db.invoiceLines db.invoices (l.keys f)) :
    InvoiceLine.model.Cleaned db.invoiceLines db.invoices (l'.keys f) := by
  unfold clean at h
  cases hcolumn : l.invoice.column with
  | none =>
    rw [hcolumn] at h
    obtain rfl := Except.ok.inj h
    exact .unchecked hpresent hunmoved hcolumn
  | some n =>
    rw [hcolumn] at h
    simp only [bind_eq_ok_iff, fetch_eq_ok_iff, pure_eq_ok_iff] at h
    obtain ⟨invoice, ⟨hi, rfl⟩, organization, hrecord, rfl⟩ := h
    obtain ⟨horganization, hstays⟩ := cleanRecord_eq_ok hrecord
    exact .of_parent ⟨hpresent.stored, hpresent.related⟩ hi hcolumn horganization hstays

/-- A write of an invoice line changes the invoice lines, and only those. -/
theorem write_eq_ok (h : l.write db f = .ok db') :
    ∃ lines, InvoiceLine.model.Saved db.invoiceLines db.invoices (l.keys f) lines ∧
      db' = { db with invoiceLines := lines } := by
  simp only [write, bind_eq_ok_iff, pure_eq_ok_iff] at h
  obtain ⟨organization, horganization, invoice, hinvoice, target, htarget, lines, hsave, rfl⟩ := h
  obtain rfl := ForeignKey.prepare_eq_ok horganization
  obtain rfl := ForeignKey.prepare_eq_ok hinvoice
  refine ⟨lines, RecordModel.saved_of_eq_ok hsave htarget ?_ ?_ ?_, rfl⟩
  · intro row hrow
    simp only [newRow, bind_eq_ok_iff, pure_eq_ok_iff] at hrow
    obtain ⟨o, ho, n, hn, rfl⟩ := hrow
    exact ⟨notNull_eq_ok ho, notNull_eq_ok hn⟩
  · intro written stored row hrow
    simp only [merge, bind_eq_ok_iff, pure_eq_ok_iff] at hrow
    obtain ⟨o, ho, n, hn, rfl⟩ := hrow
    exact ⟨rfl, savedKey_eq_ok ho, savedKey_eq_ok hn⟩
  · intro row hrow
    simp only [checkRow, bind_eq_ok_iff] at hrow
    obtain ⟨-, -, -, -, href⟩ := hrow
    exact checkReference_eq_ok href

end LineInstance

namespace AttemptInstance

variable {db db' : Db} {p p' : AttemptInstance} {f : Option (List AttemptColumn)}

/-- The keys of a payment attempt that is saved. -/
def keys (f : Option (List AttemptColumn)) (p : AttemptInstance) : RecordSave AttemptColumn :=
  ⟨p.pk, p.organization, p.invoice, f⟩

/-- The comparison of the snapshots takes the place of the check that a stored row stays in its
organization. -/
theorem clean_eq_ok (h : p.clean db = .ok p')
    (hpresent : RecordModel.Present db.attempts db.invoices (p.keys f))
    (hunmoved : PaymentAttempt.model.Unmoved db.attempts db.invoices (p.keys f)) :
    PaymentAttempt.model.Cleaned db.attempts db.invoices (p'.keys f) := by
  unfold clean at h
  cases hcolumn : p.invoice.column with
  | none =>
    rw [hcolumn] at h
    obtain rfl := Except.ok.inj h
    exact .unchecked hpresent hunmoved hcolumn
  | some n =>
    rw [hcolumn] at h
    simp only [bind_eq_ok_iff, fetch_eq_ok_iff, pure_eq_ok_iff, checkOrganization,
      ensure_eq_ok_iff] at h
    obtain ⟨invoice, ⟨hi, rfl⟩, -, horganization, -, hsnapshot, rfl⟩ := h
    have hstays : ∀ row ∈ db.attempts, p.pk = some row.id →
        row.organizationId = invoice.organizationId := by
      intro row hrow hpk
      have hget : p.pk.bind db.attempts.get? = some row := by
        rw [hpk]
        exact Table.get?_key hrow
      rw [hget] at hsnapshot
      simp only [Option.all_some, sameSnapshot, Bool.and_eq_true, beq_iff_eq, and_assoc] at hsnapshot
      rw [hsnapshot.1] at horganization
      simpa using horganization
    exact .of_parent ⟨hpresent.stored, hpresent.related⟩ hi hcolumn ForeignKey.assign_column hstays

/-- A write of a payment attempt changes the payment attempts, and only those. -/
theorem write_eq_ok (h : p.write db f = .ok db') :
    ∃ attempts, PaymentAttempt.model.Saved db.attempts db.invoices (p.keys f) attempts ∧
      db' = { db with attempts := attempts } := by
  simp only [write, bind_eq_ok_iff, pure_eq_ok_iff] at h
  obtain ⟨organization, horganization, invoice, hinvoice, target, htarget, attempts, hsave,
    rfl⟩ := h
  obtain rfl := ForeignKey.prepare_eq_ok horganization
  obtain rfl := ForeignKey.prepare_eq_ok hinvoice
  refine ⟨attempts, RecordModel.saved_of_eq_ok hsave htarget ?_ ?_ ?_, rfl⟩
  · intro row hrow
    simp only [newRow, bind_eq_ok_iff, pure_eq_ok_iff] at hrow
    obtain ⟨o, ho, n, hn, rfl⟩ := hrow
    exact ⟨notNull_eq_ok ho, notNull_eq_ok hn⟩
  · intro written stored row hrow
    simp only [merge, bind_eq_ok_iff, pure_eq_ok_iff] at hrow
    obtain ⟨o, ho, n, hn, rfl⟩ := hrow
    exact ⟨rfl, savedKey_eq_ok ho, savedKey_eq_ok hn⟩
  · intro row hrow
    simp only [checkRow, bind_eq_ok_iff] at hrow
    obtain ⟨-, -, -, -, href⟩ := hrow
    exact checkReference_eq_ok href

end AttemptInstance

end Chargeflow
