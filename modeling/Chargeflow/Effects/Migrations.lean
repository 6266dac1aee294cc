import Chargeflow.Application.Migrations
import Chargeflow.Foundation.Encoding

/-!
# What the migrations do

One lemma per migration: the tables it leaves behind when its rows can be read, and its error when
they cannot.
-/

namespace Chargeflow

open Foundation

/-- Every subscription has a customer and a plan of one organization. -/
def Legacy.Db.Matched (db : Legacy.Db) : Prop :=
  ∀ s ∈ db.subscriptions, ∀ c ∈ db.customers, ∀ p ∈ db.plans, c.id = s.customerId →
    p.id = s.planId → c.organizationId = p.organizationId

/-- The error of a subscription whose customer and plan differ. -/
def mismatched : MigrationErr :=
  .valueError "Cannot assign organization to a subscription with mismatched customer and plan."

variable {env : MigrationEnv} {db : Legacy.Db}

/-! ## Constraints -/

/-- A column that is filled everywhere can be made not null. -/
theorem setNotNull_eq_ok {α β : Type} [Keyed α] {column : String} {f : α → Option β} {t : Table α}
    (h : ∀ a ∈ t, ∃ b, f a = some b) : setNotNull column f t = .ok () := by
  unfold setNotNull
  rw [if_neg]
  rw [Bool.not_eq_true, Table.any_eq_false]
  intro a ha
  obtain ⟨b, hb⟩ := h a ha
  rw [hb]
  rfl

/-- A constraint can be added when no two rows have the same value. -/
theorem addUnique_eq_ok {α β : Type} [Keyed α] [DecidableEq β] {constraint : String}
    {f : α → Option β} {t : Table α}
    (h : ∀ a ∈ t, ∀ b ∈ t, ∀ v, f a = some v → f b = some v → key a = key b) :
    addUnique constraint f t = .ok () := by
  unfold addUnique
  rw [if_neg]
  rw [Bool.not_eq_true, Table.any_eq_false]
  intro a ha
  rw [Table.any_eq_false]
  intro b hb
  by_contra htest
  simp only [Bool.not_eq_false, Bool.and_eq_true, bne_iff_ne, ne_eq, decide_eq_true_eq] at htest
  obtain ⟨⟨hkey, hsome⟩, heq⟩ := htest
  obtain ⟨v, hv⟩ := Option.isSome_iff_exists.mp hsome
  exact hkey (h a ha b hb v hv (heq ▸ hv))

/-- An organization that exists can be saved as an owner. -/
theorem saveOrganization_eq_ok {organizations : Table Organization} {o : Organization}
    (ho : o ∈ organizations) : saveOrganization organizations (some o.id) = .ok (some o.id) := by
  have hget : organizations.get? o.id = some o := Table.get?_key ho
  unfold saveOrganization
  dsimp only
  rw [hget]

/-- A text that fits its column can be saved. -/
theorem saveText_eq_ok {column value : String} {maxLength : ℕ} (h : value.length ≤ maxLength) :
    saveText column value maxLength = .ok value := if_pos h

/-- The new column leaves the rows alone. -/
theorem rows_addOrganization {α : Type} [Keyed α] (t : Table α) :
    (addOrganization t).rows.map Owned.row = t.rows := by
  unfold addOrganization Table.mapRows
  dsimp only
  rw [List.map_map]
  exact List.map_id t.rows

/-- The rows are the old ones, without an organization. -/
theorem mem_addOrganization {α : Type} [Keyed α] {t : Table α} {a : Owned α} :
    a ∈ addOrganization t ↔ a.row ∈ t ∧ a.organizationId = none := by
  refine List.mem_map.trans ?_
  constructor
  · rintro ⟨b, hb, rfl⟩
    exact ⟨hb, rfl⟩
  · rintro ⟨ha, hnone⟩
    refine ⟨a.row, ha, ?_⟩
    cases a
    cases hnone
    rfl

/-! ## Subscriptions -/

/-- The loop over the subscriptions keeps their keys. -/
theorem backfillSubscription_key {organizations : Table Organization} {customers : Table Customer}
    {plans : Table Plan} (s s' : Owned Legacy.Subscription)
    (h : backfillSubscription organizations customers plans s = .ok (some s')) :
    key s' = key s := by
  unfold backfillSubscription at h
  split at h
  case h_1 =>
    split_ifs at h
    obtain ⟨o, -, h⟩ := bind_eq_ok_iff.mp h
    obtain rfl := Option.some.inj (pure_eq_ok_iff.mp h)
    rfl
  case h_2 => cases h

/-- The related rows of a subscription. -/
theorem Legacy.Db.Valid.related (hdb : db.Valid) {s : Legacy.Subscription}
    (hs : s ∈ db.subscriptions) : ∃ c ∈ db.customers, ∃ p ∈ db.plans, c.id = s.customerId ∧
      p.id = s.planId ∧ db.customers.get? s.customerId = some c ∧
      db.plans.get? s.planId = some p := by
  obtain ⟨c, hc, hcid⟩ := hdb.customer s hs
  obtain ⟨p, hp, hpid⟩ := hdb.plan s hs
  exact ⟨c, hc, p, hp, hcid, hpid, Table.get?_eq_some_iff.mpr ⟨hc, hcid⟩,
    Table.get?_eq_some_iff.mpr ⟨hp, hpid⟩⟩

/-- The migration of the subscriptions succeeds when customers and plans match. -/
theorem subscriptions0003_eq_ok (hdb : db.Valid) (hmatched : db.Matched) :
    ∃ subscriptions, subscriptions0003 db = .ok subscriptions ∧
      subscriptions.rows.map Owned.row = db.subscriptions.rows ∧
      ∀ s ∈ subscriptions, ∃ c ∈ db.customers, c.id = s.row.customerId ∧
        s.organizationId = some c.organizationId := by
  obtain ⟨t, ht, hrows⟩ := Table.backfill_eq_ok
    (f := backfillSubscription db.organizations db.customers db.plans)
    (t := addOrganization db.subscriptions)
    (R := fun s s' => s'.row = s.row ∧ ∃ c ∈ db.customers, c.id = s.row.customerId ∧
      s'.organizationId = some c.organizationId)
    backfillSubscription_key fun s hs => by
      obtain ⟨hmem, -⟩ := mem_addOrganization.mp hs
      obtain ⟨c, hc, p, hp, hcid, hpid, hgetc, hgetp⟩ := hdb.related hmem
      obtain ⟨o, ho, hoid⟩ := hdb.customerOrganization c hc
      refine ⟨some { s with organizationId := some c.organizationId }, ?_, rfl, c, hc, hcid, rfl⟩
      unfold backfillSubscription
      rw [hgetc, hgetp]
      dsimp only
      rw [if_neg (not_not.mpr (hmatched s.row hmem c hc p hp hcid hpid)), ← hoid,
        saveOrganization_eq_ok ho]
      rfl
  have horganization : ∀ s ∈ t, ∃ c ∈ db.customers, c.id = s.row.customerId ∧
      s.organizationId = some c.organizationId := by
    intro s hs
    obtain ⟨s₀, -, hrow, hc⟩ := exists_of_forall₂ hrows hs
    rwa [hrow]
  refine ⟨t, ?_, ?_, horganization⟩
  · have hnotNull : setNotNull "organization" Owned.organizationId t = .ok () :=
      setNotNull_eq_ok fun s hs => by
        obtain ⟨c, -, -, hc⟩ := horganization s hs
        exact ⟨_, hc⟩
    unfold subscriptions0003
    rw [ht, ok_bind, hnotNull]
    rfl
  · rw [map_of_forall₂ hrows fun s s' h => h.1, rows_addOrganization]

/-- A mismatch is found, whichever row has it. -/
theorem subscriptions0003_eq_error (hdb : db.Valid) (hmatched : ¬ db.Matched) :
    subscriptions0003 db = .error mismatched := by
  have honly : ∀ s ∈ addOrganization db.subscriptions, ∀ e,
      backfillSubscription db.organizations db.customers db.plans s = .error e →
        e = mismatched := by
    intro s hs e he
    obtain ⟨hmem, -⟩ := mem_addOrganization.mp hs
    obtain ⟨c, hc, p, -, -, -, hgetc, hgetp⟩ := hdb.related hmem
    obtain ⟨o, ho, hoid⟩ := hdb.customerOrganization c hc
    unfold backfillSubscription at he
    rw [hgetc, hgetp] at he
    dsimp only at he
    split_ifs at he
    · exact (Except.error.inj he).symm
    · rw [← hoid, saveOrganization_eq_ok ho] at he
      cases he
  have hfails : ∃ s ∈ addOrganization db.subscriptions, ∃ e,
      backfillSubscription db.organizations db.customers db.plans s = .error e := by
    unfold Legacy.Db.Matched at hmatched
    push Not at hmatched
    obtain ⟨s, hs, c, hc, p, hp, hcid, hpid, hne⟩ := hmatched
    refine ⟨⟨s, none⟩, mem_addOrganization.mpr ⟨hs, rfl⟩, mismatched, ?_⟩
    have hgetc : db.customers.get? s.customerId = some c :=
      Table.get?_eq_some_iff.mpr ⟨hc, hcid⟩
    have hgetp : db.plans.get? s.planId = some p := Table.get?_eq_some_iff.mpr ⟨hp, hpid⟩
    unfold backfillSubscription
    rw [hgetc, hgetp]
    exact if_pos hne
  obtain ⟨s, hs, e, he, hbackfill⟩ := Table.backfill_eq_error backfillSubscription_key hfails
  unfold subscriptions0003
  rw [hbackfill, honly s hs e he]
  rfl

/-! ## Invoices -/

/-- The loop over the children of other rows keeps their keys. -/
theorem backfillChild_key {α β : Type} [Keyed α] [Keyed β] {organizations : Table Organization}
    {parents : Table (Owned β)} {parentId : α → ℕ} (a a' : Owned α)
    (h : backfillChild organizations parents parentId a = .ok (some a')) : key a' = key a := by
  unfold backfillChild at h
  split at h
  · obtain ⟨o, -, h⟩ := bind_eq_ok_iff.mp h
    obtain rfl := Option.some.inj (pure_eq_ok_iff.mp h)
    rfl
  · cases h

/-- Every row has an organization that exists. -/
def AllOwned {α : Type} [Keyed α] (organizations : Table Organization) (t : Table (Owned α)) :
    Prop :=
  ∀ a ∈ t, ∃ o ∈ organizations, a.organizationId = some o.id

/-- Rows that all have an owner can have the column made not null. -/
theorem AllOwned.setNotNull {α : Type} [Keyed α] {organizations : Table Organization}
    {t : Table (Owned α)} (h : AllOwned organizations t) (column : String) :
    Chargeflow.setNotNull column Owned.organizationId t = .ok () :=
  setNotNull_eq_ok fun a ha => by
    obtain ⟨o, -, ho⟩ := h a ha
    exact ⟨_, ho⟩

/-- The organizations of the parent rows exist already. -/
theorem AllOwned.saveOrganization {α : Type} [Keyed α] {organizations : Table Organization}
    {t : Table (Owned α)} (h : AllOwned organizations t) {a : Owned α} (ha : a ∈ t) :
    Chargeflow.saveOrganization organizations a.organizationId = .ok a.organizationId := by
  obtain ⟨o, ho, horganization⟩ := h a ha
  rw [horganization]
  exact saveOrganization_eq_ok ho

/-- The loop gives every child the organization of its parent. -/
theorem backfill_child_eq_ok {α β : Type} [Keyed α] [Keyed β] {organizations : Table Organization}
    {parents : Table (Owned β)} {parentId : α → ℕ} {t : Table α}
    (howned : AllOwned organizations parents)
    (hparents : ∀ a ∈ t, ∃ b ∈ parents, key b = parentId a) :
    ∃ t', (addOrganization t).backfill (backfillChild organizations parents parentId) = .ok t' ∧
      t'.rows.map Owned.row = t.rows ∧ (∀ a ∈ t', ∃ b ∈ parents, key b = parentId a.row ∧
        a.organizationId = b.organizationId) ∧ AllOwned organizations t' := by
  obtain ⟨t', ht', hrows⟩ := Table.backfill_eq_ok
    (f := backfillChild organizations parents parentId) (t := addOrganization t)
    (R := fun a a' => a'.row = a.row ∧ ∃ b ∈ parents, key b = parentId a.row ∧
      a'.organizationId = b.organizationId)
    backfillChild_key fun a ha => by
      obtain ⟨hmem, -⟩ := mem_addOrganization.mp ha
      obtain ⟨b, hb, hkey⟩ := hparents a.row hmem
      have hget : parents.get? (parentId a.row) = some b :=
        Table.get?_eq_some_iff.mpr ⟨hb, hkey⟩
      refine ⟨some { a with organizationId := b.organizationId }, ?_, rfl, b, hb, hkey, rfl⟩
      unfold backfillChild
      rw [hget]
      dsimp only
      rw [howned.saveOrganization hb]
      rfl
  have hparent : ∀ a ∈ t', ∃ b ∈ parents, key b = parentId a.row ∧
      a.organizationId = b.organizationId := by
    intro a ha
    obtain ⟨a₀, -, hrow, hb⟩ := exists_of_forall₂ hrows ha
    rwa [hrow]
  refine ⟨t', ht', ?_, hparent, ?_⟩
  · rw [map_of_forall₂ hrows fun a a' h => h.1, rows_addOrganization]
  · intro a ha
    obtain ⟨b, hb, -, heq⟩ := hparent a ha
    obtain ⟨o, ho, horganization⟩ := howned b hb
    exact ⟨o, ho, heq.trans horganization⟩

/-- A row of the old table is still there, in a row with an organization. -/
theorem exists_owned {α : Type} [Keyed α] {t : Table α} {t' : Table (Owned α)}
    (h : t'.rows.map Owned.row = t.rows) {a : α} (ha : a ∈ t) : ∃ b ∈ t', b.row = a := by
  rw [Table.mem_def, ← h] at ha
  exact List.mem_map.mp ha

/-- The row inside a migrated row is an old one. -/
theorem mem_of_owned {α : Type} [Keyed α] {t : Table α} {t' : Table (Owned α)}
    (h : t'.rows.map Owned.row = t.rows) {b : Owned α} (hb : b ∈ t') : b.row ∈ t := by
  rw [Table.mem_def, ← h]
  exact List.mem_map_of_mem hb

/-- The migration of the invoices and their lines succeeds. -/
theorem invoices0003_eq_ok (hdb : db.Valid) {subscriptions : Table (Owned Legacy.Subscription)}
    (howned : AllOwned db.organizations subscriptions)
    (hrows : subscriptions.rows.map Owned.row = db.subscriptions.rows) :
    ∃ invoices lines, invoices0003 db subscriptions = .ok (invoices, lines) ∧
      (invoices.rows.map Owned.row = db.invoices.rows ∧ AllOwned db.organizations invoices ∧
        ∀ i ∈ invoices, ∃ s ∈ subscriptions, s.row.id = i.row.subscriptionId ∧
          i.organizationId = s.organizationId) ∧
      lines.rows.map Owned.row = db.invoiceLines.rows ∧
        ∀ l ∈ lines, ∃ i ∈ invoices, i.row.id = l.row.invoiceId ∧
          l.organizationId = i.organizationId := by
  have hsubscription : ∀ i ∈ db.invoices, ∃ s ∈ subscriptions, key s = i.subscriptionId := by
    intro i hi
    obtain ⟨s, hs, hid⟩ := hdb.subscription i hi
    obtain ⟨s', hs', rfl⟩ := exists_owned hrows hs
    exact ⟨s', hs', hid⟩
  obtain ⟨invoices, hinvoices, hrowsI, hparent, hownedI⟩ :=
    backfill_child_eq_ok howned hsubscription
  have hinvoice : ∀ l ∈ db.invoiceLines, ∃ i ∈ invoices, key i = l.invoiceId := by
    intro l hl
    obtain ⟨i, hi, hid⟩ := hdb.line l hl
    obtain ⟨i', hi', rfl⟩ := exists_owned hrowsI hi
    exact ⟨i', hi', hid⟩
  obtain ⟨lines, hlines, hrowsL, hparentL, hownedL⟩ :=
    backfill_child_eq_ok hownedI hinvoice
  refine ⟨invoices, lines, ?_, ⟨hrowsI, hownedI, hparent⟩, hrowsL, hparentL⟩
  unfold invoices0003
  rw [hinvoices, ok_bind, hlines, ok_bind, hownedI.setNotNull, ok_bind, hownedL.setNotNull]
  rfl

/-! ## Payments: organizations -/

/-- The payload names an attempt: as a webhook does, by an integer that is its key. -/
def Names (payload : Json) (attemptId : ℕ) : Prop :=
  ∃ fields, payload = .obj fields ∧ Json.get fields "payment_attempt_id" .null = .int attemptId

/-- The lookup of the migration asks for the attempt, whatever `int` makes its key of. -/
def LooksUp (env : MigrationEnv) (payload : Json) (attemptId : ℕ) : Prop :=
  intOf env (paymentIdOf payload) = .ok (attemptId : ℤ)

/-- What `int` makes of a value that is not an integer: a truth value, a number with a fraction or a
text. -/
def coercion (env : MigrationEnv) : Json → Option ℤ
  | .bool b => some (if b then 1 else 0)
  | .float m e => truncFloat m e
  | .str s => env.int s
  | _ => none

/-- No value that is not an integer is taken for the key of an attempt. -/
def Legacy.Db.Unmistaken (env : MigrationEnv) (db : Legacy.Db) : Prop :=
  ∀ e ∈ db.webhookEvents, ∀ p ∈ db.attempts,
    coercion env (paymentIdOf e.payload) ≠ some (p.id : ℤ)

/-- The payload gives a number as the key that is too large for a float. -/
def Overflows (payload : Json) : Prop :=
  ∃ m e, paymentIdOf payload = .float m e ∧ truncFloat m e = none

/-- `int` of a number with a fraction. -/
theorem intOf_float (env : MigrationEnv) (m k : ℤ) : intOf env (.float m k) =
    (truncFloat m k).elim (.error .overflowError) .ok := by
  simp only [intOf]
  cases truncFloat m k <;> rfl

/-- `int` of a text. -/
theorem intOf_str (env : MigrationEnv) (s : String) : intOf env (.str s) =
    (env.int s).elim (.error (.valueError "Field 'id' expected a number")) .ok := by
  simp only [intOf]
  cases env.int s <;> rfl

/-- The ways in which `int` fails. -/
theorem intOf_eq_error {v : Json} {e : MigrationErr} (h : intOf env v = .error e) :
    e = .typeError ∨ (∃ message, e = .valueError message) ∨
      e = .overflowError ∧ ∃ m k, v = .float m k ∧ truncFloat m k = none := by
  cases v with
  | null => exact Or.inl (Except.error.inj h).symm
  | bool b => cases h
  | int n => cases h
  | float m k =>
    rw [intOf_float] at h
    refine Or.inr (Or.inr ?_)
    generalize htrunc : truncFloat m k = result at h
    cases result with
    | some n => cases h
    | none => exact ⟨(Except.error.inj h).symm, m, k, rfl, htrunc⟩
  | str s =>
    rw [intOf_str] at h
    cases hint : env.int s with
    | some n =>
      rw [hint] at h
      cases h
    | none =>
      rw [hint] at h
      exact Or.inr (Or.inl ⟨_, (Except.error.inj h).symm⟩)
  | arr items => exact Or.inl (Except.error.inj h).symm
  | obj fields => exact Or.inl (Except.error.inj h).symm

/-- The key that a payload gives is an integer just when it names an attempt. -/
theorem names_iff {payload : Json} {attemptId : ℕ} :
    Names payload attemptId ↔ paymentIdOf payload = .int attemptId := by
  cases payload with
  | obj fields =>
    constructor
    · rintro ⟨_, ⟨⟩, h⟩
      exact h
    · exact fun h => ⟨fields, rfl, h⟩
  | _ =>
    refine ⟨?_, fun h => nomatch h⟩
    rintro ⟨_, h, -⟩
    cases h

/-- The lookup asks for the attempt that the payload names, or for one that `int` makes up. -/
theorem looksUp_iff {payload : Json} {attemptId : ℕ} : LooksUp env payload attemptId ↔
    Names payload attemptId ∨ coercion env (paymentIdOf payload) = some (attemptId : ℤ) := by
  rw [LooksUp, names_iff]
  cases paymentIdOf payload with
  | null => simp [intOf, coercion]
  | bool b => simp [intOf, coercion]
  | int n => simp [intOf, coercion]
  | float m k =>
    rw [intOf_float]
    cases htrunc : truncFloat m k <;> simp [coercion, htrunc]
  | str s =>
    rw [intOf_str]
    cases hint : env.int s <;> simp [coercion, hint]
  | arr items => simp [intOf, coercion]
  | obj fields => simp [intOf, coercion]

/-- What the lookup by a payload finds. -/
inductive Lookup (env : MigrationEnv) (attempts : Table (Owned Legacy.PaymentAttempt))
    (payload : Json) : Except MigrationErr (Owned Legacy.PaymentAttempt) → Prop
  | found {p : Owned Legacy.PaymentAttempt} (hp : p ∈ attempts) (h : LooksUp env payload p.row.id) :
      Lookup env attempts payload (.ok p)
  | missing {e : MigrationErr} (h : ∀ p ∈ attempts, ¬ LooksUp env payload p.row.id)
      (hcaught : e = .doesNotExist ∨ e = .typeError ∨ ∃ message, e = .valueError message) :
      Lookup env attempts payload (.error e)
  | overflows (h : Overflows payload) : Lookup env attempts payload (.error .overflowError)

/-- A key that is not null is looked up as a number. -/
theorem getPayment_of_ne_null {attempts : Table (Owned Legacy.PaymentAttempt)} {paymentId : Json}
    (h : paymentId ≠ .null) : getPayment env attempts paymentId = (do
      let n ← intOf env paymentId
      match attempts.rows.find? fun p => (p.row.id : ℤ) == n with
      | some p => .ok p
      | none => .error .doesNotExist) := by
  unfold getPayment
  split
  · contradiction
  · rfl

/-- The lookup of an attempt ends in one of the three ways of `Lookup`. -/
theorem lookup_getPayment (env : MigrationEnv) (attempts : Table (Owned Legacy.PaymentAttempt))
    (payload : Json) : Lookup env attempts payload
      (getPayment env attempts (paymentIdOf payload)) := by
  by_cases hnull : paymentIdOf payload = .null
  · rw [hnull]
    refine .missing ?_ (Or.inl rfl)
    intro p _ hnames
    unfold LooksUp at hnames
    rw [hnull] at hnames
    cases hnames
  rw [getPayment_of_ne_null hnull]
  cases hint : intOf env (paymentIdOf payload) with
  | error e =>
    rcases intOf_eq_error hint with rfl | ⟨message, rfl⟩ | ⟨rfl, hoverflows⟩
    · refine .missing ?_ (Or.inr (Or.inl rfl))
      intro p _ hnames
      cases hint.symm.trans hnames
    · refine .missing ?_ (Or.inr (Or.inr ⟨message, rfl⟩))
      intro p _ hnames
      cases hint.symm.trans hnames
    · exact .overflows hoverflows
  | ok n =>
    rw [ok_bind]
    cases hfind : attempts.rows.find? fun p => (p.row.id : ℤ) == n with
    | some p =>
      have hid : (p.row.id : ℤ) = n := by simpa using List.find?_some hfind
      refine .found (List.mem_of_find?_eq_some hfind) ?_
      rw [LooksUp, hint, hid]
    | none =>
      refine .missing ?_ (Or.inl rfl)
      intro p hp hnames
      have hid : n = p.row.id := Except.ok.inj (hint.symm.trans hnames)
      have htest := List.find?_eq_none.mp hfind p hp
      simp [hid] at htest

/-- The loop over the attempts keeps their keys. -/
theorem backfillPayment_key {organizations : Table Organization}
    {invoices : Table (Owned Legacy.Invoice)} (p p' : Owned Legacy.PaymentAttempt)
    (h : backfillPayment env organizations invoices p = .ok (some p')) : key p' = key p := by
  obtain ⟨_, -, h⟩ := bind_eq_ok_iff.mp h
  split at h
  · obtain ⟨o, -, h⟩ := bind_eq_ok_iff.mp h
    obtain rfl := Option.some.inj (pure_eq_ok_iff.mp h)
    rfl
  · cases h

/-- The loop over the webhook events keeps their keys. -/
theorem backfillWebhook_key {organizations : Table Organization}
    {attempts : Table (Owned Legacy.PaymentAttempt)} (e e' : Owned Legacy.WebhookEvent)
    (h : backfillWebhook env organizations attempts e = .ok (some e')) : key e' = key e := by
  obtain ⟨_, -, h⟩ := bind_eq_ok_iff.mp h
  split at h
  case h_1 =>
    obtain ⟨o, -, h⟩ := bind_eq_ok_iff.mp h
    obtain rfl := Option.some.inj (pure_eq_ok_iff.mp h)
    rfl
  all_goals cases h

/-- A document that `json.loads` accepts is read. -/
theorem decode_eq_ok {document : Json} (h : env.decodes document = true) :
    decode env document = .ok document := if_pos h

/-- A document that `json.loads` refuses raises. -/
theorem decode_eq_error {document : Json} (h : env.decodes document = false) :
    decode env document = .error .decodeError := by
  unfold decode
  rw [h]
  rfl

/-- The stored documents can be read, and no payload names its attempt by too large a number. -/
structure Legacy.Db.Readable (env : MigrationEnv) (db : Legacy.Db) : Prop where
  responses : ∀ p ∈ db.attempts, env.decodes p.providerResponse = true
  payloads : ∀ e ∈ db.webhookEvents, env.decodes e.payload = true
  finite : ∀ e ∈ db.webhookEvents, ¬ Overflows e.payload

/-- A webhook event belongs to the attempt that the lookup by its payload asks for. -/
structure EventOwned (env : MigrationEnv) (attempts : Table (Owned Legacy.PaymentAttempt))
    (payload : Json) (organizationId : Option ℕ) : Prop where
  found : ∀ p ∈ attempts, LooksUp env payload p.row.id → organizationId = p.organizationId
  missing : (∀ p ∈ attempts, ¬ LooksUp env payload p.row.id) → organizationId = none

/-- The row of an attempt, where the empty idempotency key is none. -/
def withoutEmptyKey (p : Legacy.PaymentAttempt) : Legacy.PaymentAttempt :=
  { p with idempotencyKey := p.idempotencyKey.filter (· ≠ "") }

section

variable {invoices : Table (Owned Legacy.Invoice)}

/-- The first loop of the payments migration gives every attempt the organization of its invoice. -/
theorem backfill_payment_eq_ok (hdb : db.Valid)
    (hresponses : ∀ p ∈ db.attempts, env.decodes p.providerResponse = true)
    (howned : AllOwned db.organizations invoices)
    (hrows : invoices.rows.map Owned.row = db.invoices.rows) :
    ∃ attempts, (addOrganization db.attempts).backfill
        (backfillPayment env db.organizations invoices) = .ok attempts ∧
      attempts.rows.map Owned.row = db.attempts.rows.map withoutEmptyKey ∧
      AllOwned db.organizations attempts ∧
      ∀ p ∈ attempts, ∃ i ∈ invoices, i.row.id = p.row.invoiceId ∧
        p.organizationId = i.organizationId := by
  obtain ⟨t, ht, hforall⟩ := Table.backfill_eq_ok
    (f := backfillPayment env db.organizations invoices) (t := addOrganization db.attempts)
    (R := fun p p' => p'.row = withoutEmptyKey p.row ∧ ∃ i ∈ invoices,
      i.row.id = p.row.invoiceId ∧ p'.organizationId = i.organizationId)
    backfillPayment_key fun p hp => by
      obtain ⟨hmem, -⟩ := mem_addOrganization.mp hp
      obtain ⟨i, hi, hid⟩ := hdb.attempt p.row hmem
      obtain ⟨i', hi', rfl⟩ := exists_owned hrows hi
      have hget : invoices.get? p.row.invoiceId = some i' :=
        Table.get?_eq_some_iff.mpr ⟨hi', hid⟩
      refine ⟨some ⟨withoutEmptyKey p.row, i'.organizationId⟩, ?_, rfl, i', hi', hid, rfl⟩
      unfold backfillPayment
      rw [decode_eq_ok (hresponses p.row hmem), ok_bind, hget]
      dsimp only
      rw [howned.saveOrganization hi']
      rfl
  have hinvoice : ∀ p ∈ t, ∃ i ∈ invoices, i.row.id = p.row.invoiceId ∧
      p.organizationId = i.organizationId := by
    intro p hp
    obtain ⟨p₀, -, hrow, hi⟩ := exists_of_forall₂ hforall hp
    rwa [hrow]
  refine ⟨t, ht, ?_, ?_, hinvoice⟩
  · rw [← rows_addOrganization db.attempts, List.map_map]
    exact map_of_forall₂ hforall fun p p' h => h.1
  · intro p hp
    obtain ⟨i, hi, -, heq⟩ := hinvoice p hp
    obtain ⟨o, ho, horganization⟩ := howned i hi
    exact ⟨o, ho, heq.trans horganization⟩

/-- The second loop gives every event the organization of the attempt that it looks up. -/
theorem backfill_webhook_eq_ok {attempts : Table (Owned Legacy.PaymentAttempt)}
    (hpayloads : ∀ e ∈ db.webhookEvents, env.decodes e.payload = true)
    (hfinite : ∀ e ∈ db.webhookEvents, ¬ Overflows e.payload)
    (howned : AllOwned db.organizations attempts) :
    ∃ events, (addOrganization db.webhookEvents).backfill
        (backfillWebhook env db.organizations attempts) = .ok events ∧
      events.rows.map Owned.row = db.webhookEvents.rows ∧
      ∀ e ∈ events, EventOwned env attempts e.row.payload e.organizationId := by
  obtain ⟨t, ht, hforall⟩ := Table.backfill_eq_ok
    (f := backfillWebhook env db.organizations attempts) (t := addOrganization db.webhookEvents)
    (R := fun e e' => e'.row = e.row ∧ EventOwned env attempts e.row.payload e'.organizationId)
    backfillWebhook_key fun e he => by
      obtain ⟨hmem, hnone⟩ := mem_addOrganization.mp he
      have hlookup := lookup_getPayment env attempts e.row.payload
      unfold backfillWebhook
      rw [decode_eq_ok (hpayloads e.row hmem), ok_bind]
      generalize getPayment env attempts (paymentIdOf e.row.payload) = result at hlookup
      cases hlookup with
      | @found p hp hnames =>
        refine ⟨some { e with organizationId := p.organizationId }, ?_, rfl, ?_, ?_⟩
        · dsimp only
          rw [howned.saveOrganization hp]
          rfl
        · intro q hq hnames'
          have hid : (p.row.id : ℤ) = q.row.id := Except.ok.inj (hnames.symm.trans hnames')
          obtain rfl := Table.eq_of_key_eq hp hq (Int.ofNat.inj hid)
          rfl
        · intro hno
          exact absurd hnames (hno p hp)
      | @missing err hno hcaught =>
        refine ⟨none, ?_, rfl, ?_, ?_⟩
        · rcases hcaught with rfl | rfl | ⟨message, rfl⟩ <;> rfl
        · intro q hq hnames
          exact absurd hnames (hno q hq)
        · intro _
          exact hnone
      | overflows hoverflows => exact absurd hoverflows (hfinite e.row hmem)
  refine ⟨t, ht, ?_, ?_⟩
  · rw [map_of_forall₂ hforall fun e e' h => h.1, rows_addOrganization]
  · intro e he
    obtain ⟨e₀, -, hrow, hevent⟩ := exists_of_forall₂ hforall he
    rwa [hrow]

/-- What is left of the idempotency keys is still unique. -/
theorem unique_idempotencyKey (hdb : db.Valid) {attempts : Table (Owned Legacy.PaymentAttempt)}
    (hrows : attempts.rows.map Owned.row = db.attempts.rows.map withoutEmptyKey) :
    ∀ p ∈ attempts, ∀ q ∈ attempts, p.row.idempotencyKey ≠ none →
      p.row.idempotencyKey = q.row.idempotencyKey → p = q := by
  have hold : ∀ p ∈ attempts, ∃ p₀ ∈ db.attempts, p.row = withoutEmptyKey p₀ := by
    intro p hp
    have hmem : p.row ∈ db.attempts.rows.map withoutEmptyKey := hrows ▸ List.mem_map_of_mem hp
    obtain ⟨p₀, hp₀, hrow⟩ := List.mem_map.mp hmem
    exact ⟨p₀, hp₀, hrow.symm⟩
  have hkey : ∀ {p₀ : Legacy.PaymentAttempt} {k : String},
      (withoutEmptyKey p₀).idempotencyKey = some k → p₀.idempotencyKey = some k := by
    intro p₀ k h
    exact (Option.filter_eq_some_iff.mp h).1
  intro p hp q hq hsome heq
  obtain ⟨k, hk⟩ := Option.ne_none_iff_exists'.mp hsome
  obtain ⟨p₀, hp₀, hrowp⟩ := hold p hp
  obtain ⟨q₀, hq₀, hrowq⟩ := hold q hq
  have hkp : p₀.idempotencyKey = some k := hkey (hrowp ▸ hk)
  have hkq : q₀.idempotencyKey = some k := hkey (hrowq ▸ heq ▸ hk)
  obtain rfl := hdb.idempotencyKey p₀ hp₀ q₀ hq₀ (by rw [hkp]; exact Option.some_ne_none k)
    (hkp.trans hkq.symm)
  refine Table.eq_of_key_eq hp hq ?_
  show p.row.id = q.row.id
  rw [hrowp, hrowq]

/-- The migration of the payments succeeds when every document can be read. -/
theorem payments0004_eq_ok (hdb : db.Valid) (hreadable : db.Readable env)
    (howned : AllOwned db.organizations invoices)
    (hrows : invoices.rows.map Owned.row = db.invoices.rows) :
    ∃ attempts events, payments0004 env db invoices = .ok (attempts, events) ∧
      (attempts.rows.map Owned.row = db.attempts.rows.map withoutEmptyKey ∧
        AllOwned db.organizations attempts ∧
        ∀ p ∈ attempts, ∃ i ∈ invoices, i.row.id = p.row.invoiceId ∧
          p.organizationId = i.organizationId) ∧
      events.rows.map Owned.row = db.webhookEvents.rows ∧
      ∀ e ∈ events, EventOwned env attempts e.row.payload e.organizationId := by
  obtain ⟨attempts, hattempts, hrowsA, hownedA, hinvoice⟩ :=
    backfill_payment_eq_ok hdb hreadable.responses howned hrows
  obtain ⟨events, hevents, hrowsE, hownedE⟩ :=
    backfill_webhook_eq_ok hreadable.payloads hreadable.finite hownedA
  refine ⟨attempts, events, ?_, ⟨hrowsA, hownedA, hinvoice⟩, hrowsE, hownedE⟩
  have hunique : addUnique "unique_project_payment_key"
      (fun p : Owned Legacy.PaymentAttempt =>
        p.row.idempotencyKey.map fun k => (p.organizationId, k)) attempts = .ok () := by
    refine addUnique_eq_ok fun p hp q hq v hv hv' => ?_
    obtain ⟨k, hk, rfl⟩ := Option.map_eq_some_iff.mp hv
    obtain ⟨k', hk', heq⟩ := Option.map_eq_some_iff.mp hv'
    have hkk : k' = k := congrArg Prod.snd heq
    rw [unique_idempotencyKey hdb hrowsA p hp q hq (by rw [hk]; exact Option.some_ne_none k)
      (by rw [hk, hk', hkk])]
  unfold payments0004
  rw [hattempts, ok_bind, hevents, ok_bind, hownedA.setNotNull, ok_bind, hunique]
  rfl

/-- A document that cannot be read, or a number that is too large, aborts the migration. -/
theorem payments0004_eq_error (hreadable : ¬ db.Readable env) :
    ∃ err, payments0004 env db invoices = .error err := by
  unfold payments0004
  cases hattempts : (addOrganization db.attempts).backfill
      (backfillPayment env db.organizations invoices) with
  | error err => exact ⟨err, rfl⟩
  | ok attempts =>
    rw [ok_bind]
    have hresponses : ∀ p ∈ db.attempts, env.decodes p.providerResponse = true := by
      intro p hp
      by_contra hdecodes
      obtain ⟨-, -, err, -, hfails⟩ := Table.backfill_eq_error
        (@backfillPayment_key env db.organizations invoices)
        ⟨⟨p, none⟩, mem_addOrganization.mpr ⟨hp, rfl⟩, .decodeError, by
          unfold backfillPayment
          rw [decode_eq_error (Bool.not_eq_true _ ▸ hdecodes)]
          rfl⟩
      cases hattempts.symm.trans hfails
    have hevent : ∃ e ∈ addOrganization db.webhookEvents, ∃ err,
        backfillWebhook env db.organizations attempts e = .error err := by
      by_contra hnone
      push Not at hnone
      have hpayloads : ∀ e ∈ db.webhookEvents, env.decodes e.payload = true := by
        intro e he
        by_contra hdecodes
        refine hnone ⟨e, none⟩ (mem_addOrganization.mpr ⟨he, rfl⟩) .decodeError ?_
        unfold backfillWebhook
        rw [decode_eq_error (Bool.not_eq_true _ ▸ hdecodes)]
        rfl
      refine hreadable ⟨hresponses, hpayloads, ?_⟩
      intro e he hoverflows
      refine hnone ⟨e, none⟩ (mem_addOrganization.mpr ⟨he, rfl⟩) .overflowError ?_
      obtain ⟨m, k, hfloat, htrunc⟩ := hoverflows
      have hint : intOf env (.float m k) = .error .overflowError := by
        rw [intOf_float, htrunc]
        rfl
      have hget : getPayment env attempts (paymentIdOf e.payload) = .error .overflowError := by
        rw [hfloat, getPayment_of_ne_null (by simp), hint]
        rfl
      unfold backfillWebhook
      rw [decode_eq_ok (hpayloads e he), ok_bind, hget]
    obtain ⟨-, -, err, -, hfails⟩ := Table.backfill_eq_error backfillWebhook_key hevent
    rw [hfails]
    exact ⟨err, rfl⟩

end

/-! ## Payments: the gateway -/

/-- The keys that the gateway migration makes fit their columns. -/
theorem legacyKey_length (k : String) (hk : k.length ≤ 200) {n : ℕ} (hn : n < 2 ^ 63) :
    (k ++ toString n).length ≤ 255 := by
  have hdigits : (toString n).length ≤ 19 := by
    rw [Nat.toString_eq_ofList_toDigits, String.length_ofList,
      Nat.length_toDigits_le_iff (by decide) (by decide)]
    exact hn.trans_le (by decide)
  rw [String.length_append]
  omega

/-- The number of a row can be read off its key. -/
theorem legacyKey_inj {k : String} {m n : ℕ} (h : k ++ toString m = k ++ toString n) : m = n :=
  toString_nat_inj (congrArg String.toList ((String.append_right_inj k).mp h))

/-- The loop that fills the columns of the gateway keeps the keys of the attempts. -/
theorem backfillGatewayPayment_key {customers : Table Customer}
    {subscriptions : Table (Owned Legacy.Subscription)} {invoices : Table (Owned Legacy.Invoice)}
    (p p' : GatewayAttempt)
    (h : backfillGatewayPayment env customers subscriptions invoices p = .ok (some p')) :
    key p' = key p := by
  obtain ⟨_, -, h⟩ := bind_eq_ok_iff.mp h
  dsimp only at h
  split at h
  · obtain ⟨currency, -, h⟩ := bind_eq_ok_iff.mp h
    obtain ⟨provider, -, h⟩ := bind_eq_ok_iff.mp h
    obtain ⟨providerCustomerId, -, h⟩ := bind_eq_ok_iff.mp h
    obtain ⟨providerIdempotencyKey, -, h⟩ := bind_eq_ok_iff.mp h
    obtain ⟨providerPaymentMethodId, -, h⟩ := bind_eq_ok_iff.mp h
    obtain rfl := Option.some.inj (pure_eq_ok_iff.mp h)
    rfl
  · cases h

/-- The loop that fills the columns of the gateway keeps the keys of the events. -/
theorem backfillGatewayWebhook_key (e e' : GatewayEvent)
    (h : backfillGatewayWebhook env e = .ok (some e')) : key e' = key e := by
  obtain ⟨_, -, h⟩ := bind_eq_ok_iff.mp h
  obtain ⟨provider, -, h⟩ := bind_eq_ok_iff.mp h
  obtain ⟨providerEventId, -, h⟩ := bind_eq_ok_iff.mp h
  obtain rfl := Option.some.inj (pure_eq_ok_iff.mp h)
  rfl

/-- The columns of the gateway are those of the attempt's invoice and customer. -/
structure GatewayAttempt.Filled (customers : Table Customer)
    (subscriptions : Table (Owned Legacy.Subscription)) (invoices : Table (Owned Legacy.Invoice))
    (p : GatewayAttempt) : Prop where
  columns : ∃ i ∈ invoices, ∃ s ∈ subscriptions, ∃ c ∈ customers,
    i.row.id = p.row.row.invoiceId ∧ s.row.id = i.row.subscriptionId ∧ c.id = s.row.customerId ∧
      p.currency = some i.row.currency ∧ p.providerCustomerId = c.providerCustomerId ∧
      p.providerPaymentMethodId = c.providerPaymentMethodId
  provider : p.provider = some "mock"
  providerChargeId : p.providerChargeId = ""
  providerIdempotencyKey :
    p.providerIdempotencyKey = some ("legacy-payment-" ++ toString p.row.row.id)

/-- The columns of the gateway, as they are filled for an event. -/
structure GatewayEvent.Filled (e : GatewayEvent) : Prop where
  provider : e.provider = some "mock"
  providerEventId : e.providerEventId = some ("legacy-webhook-" ++ toString e.row.row.id)

section

variable {subscriptions : Table (Owned Legacy.Subscription)}
  {invoices : Table (Owned Legacy.Invoice)} {attempts : Table (Owned Legacy.PaymentAttempt)}
  {events : Table (Owned Legacy.WebhookEvent)}

/-- The loop fills the columns of the gateway for every attempt. -/
theorem backfill_gatewayPayment_eq_ok (hdb : db.Valid)
    (hresponses : ∀ p ∈ db.attempts, env.decodes p.providerResponse = true)
    (hsubscriptions : subscriptions.rows.map Owned.row = db.subscriptions.rows)
    (hinvoices : invoices.rows.map Owned.row = db.invoices.rows)
    (hattempts : attempts.rows.map Owned.row = db.attempts.rows.map withoutEmptyKey) :
    ∃ payments, (addGatewayColumns attempts).backfill
        (backfillGatewayPayment env db.customers subscriptions invoices) = .ok payments ∧
      payments.rows.map GatewayAttempt.row = attempts.rows ∧
      ∀ p ∈ payments, p.Filled db.customers subscriptions invoices := by
  obtain ⟨t, ht, hforall⟩ := Table.backfill_eq_ok
    (f := backfillGatewayPayment env db.customers subscriptions invoices)
    (t := addGatewayColumns attempts)
    (R := fun p p' => p'.row = p.row ∧ p'.Filled db.customers subscriptions invoices)
    backfillGatewayPayment_key fun p hp => by
      obtain ⟨a, ha, rfl⟩ := List.mem_map.mp hp
      have hold : a.row ∈ db.attempts.rows.map withoutEmptyKey :=
        hattempts ▸ List.mem_map_of_mem ha
      obtain ⟨p₀, hp₀, hrow⟩ := List.mem_map.mp hold
      have hinvoiceId : p₀.invoiceId = a.row.invoiceId := by rw [← hrow]; rfl
      have hresponse : env.decodes a.row.providerResponse = true := by
        rw [← hrow]
        exact hresponses p₀ hp₀
      have hid : a.row.id < 2 ^ 63 := by
        rw [← hrow]
        exact hdb.attemptId p₀ hp₀
      obtain ⟨i₀, hi₀, hiid⟩ := hdb.attempt p₀ hp₀
      obtain ⟨i, hi, rfl⟩ := exists_owned hinvoices hi₀
      obtain ⟨s₀, hs₀, hsid⟩ := hdb.subscription i.row hi₀
      obtain ⟨s, hs, rfl⟩ := exists_owned hsubscriptions hs₀
      obtain ⟨c, hc, hcid⟩ := hdb.customer s.row hs₀
      have hgeti : invoices.get? a.row.invoiceId = some i :=
        Table.get?_eq_some_iff.mpr ⟨hi, hiid.trans hinvoiceId⟩
      have hgets : subscriptions.get? i.row.subscriptionId = some s :=
        Table.get?_eq_some_iff.mpr ⟨hs, hsid⟩
      have hgetc : db.customers.get? s.row.customerId = some c :=
        Table.get?_eq_some_iff.mpr ⟨hc, hcid⟩
      refine ⟨some ⟨a, some i.row.currency, some "mock", "", c.providerCustomerId,
        some ("legacy-payment-" ++ toString a.row.id), c.providerPaymentMethodId⟩, ?_, rfl,
        ⟨i, hi, s, hs, c, hc, hiid.trans hinvoiceId, hsid, hcid, rfl, rfl, rfl⟩, rfl, rfl, rfl⟩
      unfold backfillGatewayPayment
      dsimp only
      rw [decode_eq_ok hresponse, ok_bind, hgeti, Option.bind_eq_bind, Option.bind_some, hgets,
        Option.bind_eq_bind, Option.bind_some, hgetc]
      dsimp only [Option.bind_eq_bind, Option.bind_some, Option.pure_def]
      rw [saveText_eq_ok (hdb.currency i.row hi₀), ok_bind, saveText_eq_ok (by decide), ok_bind,
        saveText_eq_ok (hdb.providerCustomerId c hc), ok_bind,
        saveText_eq_ok (legacyKey_length "legacy-payment-" (by decide) hid), ok_bind,
        saveText_eq_ok (hdb.providerPaymentMethodId c hc)]
      rfl
  refine ⟨t, ht, ?_, ?_⟩
  · have hadded : (addGatewayColumns attempts).rows.map GatewayAttempt.row = attempts.rows := by
      unfold addGatewayColumns Table.mapRows
      dsimp only
      rw [List.map_map]
      exact List.map_id attempts.rows
    rw [map_of_forall₂ hforall fun p p' h => h.1, hadded]
  · intro p hp
    obtain ⟨p₀, -, -, hfilled⟩ := exists_of_forall₂ hforall hp
    exact hfilled

/-- The loop fills the columns of the gateway for every event. -/
theorem backfill_gatewayWebhook_eq_ok (hdb : db.Valid)
    (hpayloads : ∀ e ∈ db.webhookEvents, env.decodes e.payload = true)
    (hevents : events.rows.map Owned.row = db.webhookEvents.rows) :
    ∃ webhooks, (addGatewayEventColumns events).backfill (backfillGatewayWebhook env) =
        .ok webhooks ∧
      webhooks.rows.map GatewayEvent.row = events.rows ∧ ∀ e ∈ webhooks, e.Filled := by
  obtain ⟨t, ht, hforall⟩ := Table.backfill_eq_ok
    (f := backfillGatewayWebhook env) (t := addGatewayEventColumns events)
    (R := fun e e' => e'.row = e.row ∧ e'.Filled) backfillGatewayWebhook_key fun e he => by
      obtain ⟨a, ha, rfl⟩ := List.mem_map.mp he
      have hold : a.row ∈ db.webhookEvents := mem_of_owned hevents ha
      refine ⟨some ⟨a, some "mock", some ("legacy-webhook-" ++ toString a.row.id)⟩, ?_, rfl,
        rfl, rfl⟩
      unfold backfillGatewayWebhook
      rw [decode_eq_ok (hpayloads a.row hold), ok_bind, saveText_eq_ok (by decide), ok_bind,
        saveText_eq_ok (legacyKey_length "legacy-webhook-" (by decide)
          (hdb.webhookEventId a.row hold))]
      rfl
  refine ⟨t, ht, ?_, ?_⟩
  · have hadded : (addGatewayEventColumns events).rows.map GatewayEvent.row = events.rows := by
      unfold addGatewayEventColumns Table.mapRows
      dsimp only
      rw [List.map_map]
      exact List.map_id events.rows
    rw [map_of_forall₂ hforall fun e e' h => h.1, hadded]
  · intro e he
    obtain ⟨e₀, -, -, hfilled⟩ := exists_of_forall₂ hforall he
    exact hfilled

/-- What was written about an attempt tells it from the others. -/
theorem GatewayAttempt.key_eq {p q : GatewayAttempt}
    (hp : p.Filled db.customers subscriptions invoices)
    (hq : q.Filled db.customers subscriptions invoices)
    (h : p.providerIdempotencyKey = q.providerIdempotencyKey) : key p = key q := by
  rw [hp.providerIdempotencyKey, hq.providerIdempotencyKey] at h
  exact legacyKey_inj (Option.some.inj h)

/-- The event ids that are filled in tell the events apart. -/
theorem GatewayEvent.key_eq {e f : GatewayEvent} (he : e.Filled) (hf : f.Filled)
    (h : e.providerEventId = f.providerEventId) : key e = key f := by
  rw [he.providerEventId, hf.providerEventId] at h
  exact legacyKey_inj (Option.some.inj h)

/-- The migration of the gateway succeeds when every document can be read. -/
theorem payments0005_eq_ok (hdb : db.Valid) (hreadable : db.Readable env)
    (hsubscriptions : subscriptions.rows.map Owned.row = db.subscriptions.rows)
    (hinvoices : invoices.rows.map Owned.row = db.invoices.rows)
    (hattempts : attempts.rows.map Owned.row = db.attempts.rows.map withoutEmptyKey)
    (hevents : events.rows.map Owned.row = db.webhookEvents.rows) :
    ∃ payments webhooks, payments0005 env db.customers subscriptions invoices attempts events =
        .ok (payments, webhooks) ∧
      (payments.rows.map GatewayAttempt.row = attempts.rows ∧
        ∀ p ∈ payments, p.Filled db.customers subscriptions invoices) ∧
      webhooks.rows.map GatewayEvent.row = events.rows ∧ ∀ e ∈ webhooks, e.Filled := by
  obtain ⟨payments, hpayments, hrowsP, hfilledP⟩ := backfill_gatewayPayment_eq_ok hdb
    hreadable.responses hsubscriptions hinvoices hattempts
  obtain ⟨webhooks, hwebhooks, hrowsW, hfilledW⟩ :=
    backfill_gatewayWebhook_eq_ok hdb hreadable.payloads hevents
  refine ⟨payments, webhooks, ?_, ⟨hrowsP, hfilledP⟩, hrowsW, hfilledW⟩
  have hcurrency : setNotNull "currency" GatewayAttempt.currency payments = .ok () :=
    setNotNull_eq_ok fun p hp => by
      obtain ⟨i, -, -, -, -, -, -, -, -, hcurrency, -⟩ := (hfilledP p hp).columns
      exact ⟨_, hcurrency⟩
  have hprovider : setNotNull "provider" GatewayAttempt.provider payments = .ok () :=
    setNotNull_eq_ok fun p hp => ⟨_, (hfilledP p hp).provider⟩
  have hkey : setNotNull "provider_idempotency_key" GatewayAttempt.providerIdempotencyKey
      payments = .ok () :=
    setNotNull_eq_ok fun p hp => ⟨_, (hfilledP p hp).providerIdempotencyKey⟩
  have hprovider' : setNotNull "provider" GatewayEvent.provider webhooks = .ok () :=
    setNotNull_eq_ok fun e he => ⟨_, (hfilledW e he).provider⟩
  have hevent : setNotNull "provider_event_id" GatewayEvent.providerEventId webhooks = .ok () :=
    setNotNull_eq_ok fun e he => ⟨_, (hfilledW e he).providerEventId⟩
  have huniqueKey : addUnique "unique_provider_payment_key"
      (fun p : GatewayAttempt => some (p.provider, p.providerIdempotencyKey)) payments = .ok () :=
    addUnique_eq_ok fun p hp q hq v hv hv' =>
      GatewayAttempt.key_eq (hfilledP p hp) (hfilledP q hq)
        (congrArg Prod.snd (Option.some.inj (hv.trans hv'.symm)))
  have huniqueCharge : addUnique "unique_provider_charge"
      (fun p : GatewayAttempt =>
        if p.providerChargeId = "" then none else some (p.provider, p.providerChargeId))
      payments = .ok () :=
    addUnique_eq_ok fun p hp q _ v hv _ => by
      rw [if_pos (hfilledP p hp).providerChargeId] at hv
      cases hv
  have huniqueEvent : addUnique "unique_provider_event"
      (fun e : GatewayEvent => some (e.provider, e.providerEventId)) webhooks = .ok () :=
    addUnique_eq_ok fun e he f hf v hv hv' =>
      GatewayEvent.key_eq (hfilledW e he) (hfilledW f hf)
        (congrArg Prod.snd (Option.some.inj (hv.trans hv'.symm)))
  unfold payments0005
  rw [hpayments, ok_bind, hwebhooks, ok_bind, hcurrency, ok_bind, hprovider, ok_bind, hkey,
    ok_bind, hprovider', ok_bind, hevent, ok_bind, huniqueKey, ok_bind, huniqueCharge, ok_bind,
    huniqueEvent]
  rfl

end

end Chargeflow
