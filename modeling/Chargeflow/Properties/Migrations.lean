import Chargeflow.Effects.Migrations

/-!
# The migrations keep the billing data

The tables after the migrations hold the old rows, in the old columns, and the new columns follow
the relations between them.  Two things can go wrong in the loop over the webhook events.  A stored
document may stop it: one that cannot be read, or a number that is too large for a float.  And `int`
may make the key of an attempt of a value that is none, such as `true`, so that an event which names
no attempt gets the organization of one.
-/

namespace Chargeflow

open Foundation

variable {env : MigrationEnv} {db : Legacy.Db}

/-- The old rows are all there, and the new columns agree with their relations.  `names` tells which
attempt a payload is about. -/
structure Preserved (names : Json → ℕ → Prop) (db : Legacy.Db) (db' : MigratedDb) : Prop where
  subscriptions : db'.subscriptions.rows.map Owned.row = db.subscriptions.rows
  invoices : db'.invoices.rows.map Owned.row = db.invoices.rows
  invoiceLines : db'.invoiceLines.rows.map Owned.row = db.invoiceLines.rows
  attempts : db'.attempts.rows.map (fun p => p.row.row) = db.attempts.rows.map withoutEmptyKey
  webhookEvents : db'.webhookEvents.rows.map (fun e => e.row.row) = db.webhookEvents.rows
  subscriptionOwner : ∀ s ∈ db'.subscriptions, ∃ c ∈ db.customers, ∃ p ∈ db.plans,
    c.id = s.row.customerId ∧ p.id = s.row.planId ∧
      s.organizationId = some c.organizationId ∧ s.organizationId = some p.organizationId
  invoiceOwner : ∀ i ∈ db'.invoices, ∃ s ∈ db'.subscriptions, s.row.id = i.row.subscriptionId ∧
    i.organizationId = s.organizationId
  lineOwner : ∀ l ∈ db'.invoiceLines, ∃ i ∈ db'.invoices, i.row.id = l.row.invoiceId ∧
    l.organizationId = i.organizationId
  attemptOwner : ∀ p ∈ db'.attempts, ∃ i ∈ db'.invoices, i.row.id = p.row.row.invoiceId ∧
    p.row.organizationId = i.organizationId ∧ p.currency = some i.row.currency
  eventNamed : ∀ e ∈ db'.webhookEvents, ∀ p ∈ db'.attempts,
    names e.row.row.payload p.row.row.id → e.row.organizationId = p.row.organizationId
  eventUnnamed : ∀ e ∈ db'.webhookEvents,
    (∀ p ∈ db'.attempts, ¬ names e.row.row.payload p.row.row.id) → e.row.organizationId = none
  projectPaymentKey : ∀ p ∈ db'.attempts, ∀ q ∈ db'.attempts, p.row.row.idempotencyKey ≠ none →
    p.row.organizationId = q.row.organizationId →
    p.row.row.idempotencyKey = q.row.row.idempotencyKey → p = q
  providerPaymentKey : ∀ p ∈ db'.attempts, ∀ q ∈ db'.attempts, p.provider = q.provider →
    p.providerIdempotencyKey = q.providerIdempotencyKey → p = q
  providerCharge : ∀ p ∈ db'.attempts, ∀ q ∈ db'.attempts, p.providerChargeId ≠ "" →
    p.provider = q.provider → p.providerChargeId = q.providerChargeId → p = q
  providerEvent : ∀ e ∈ db'.webhookEvents, ∀ f ∈ db'.webhookEvents, e.provider = f.provider →
    e.providerEventId = f.providerEventId → e = f
  receipts : ∀ r, r ∉ db'.receipts

/-- The migrations succeed exactly for matching organizations, and keep the data. -/
structure MigrationsPreserve (env : MigrationEnv) (db : Legacy.Db) : Prop where
  succeeds : (∃ db', migrate env db = .ok db') ↔ db.Matched
  preserved : ∀ db', migrate env db = .ok db' → Preserved Names db db'
  mismatch : ¬ db.Matched → subscriptions0003 db = .error mismatched

/-! ## Runs -/

/-- The columns around an attempt hold the attempts of the migration before. -/
theorem mem_of_gatewayRows {t : Table GatewayAttempt} {attempts : Table (Owned Legacy.PaymentAttempt)}
    (h : t.rows.map GatewayAttempt.row = attempts.rows) {p : GatewayAttempt} (hp : p ∈ t) :
    p.row ∈ attempts := by
  rw [Table.mem_def, ← h]
  exact List.mem_map_of_mem hp

/-- Every attempt of the migration before is in a row with the columns of the gateway. -/
theorem exists_gatewayRow {t : Table GatewayAttempt} {attempts : Table (Owned Legacy.PaymentAttempt)}
    (h : t.rows.map GatewayAttempt.row = attempts.rows) {p : Owned Legacy.PaymentAttempt}
    (hp : p ∈ attempts) : ∃ q ∈ t, q.row = p := by
  rw [Table.mem_def, ← h] at hp
  exact List.mem_map.mp hp

/-- The organizations of the customers exist already. -/
theorem allOwned_of_customers (hdb : db.Valid) {subscriptions : Table (Owned Legacy.Subscription)}
    (h : ∀ s ∈ subscriptions, ∃ c ∈ db.customers, c.id = s.row.customerId ∧
      s.organizationId = some c.organizationId) : AllOwned db.organizations subscriptions := by
  intro s hs
  obtain ⟨c, hc, -, horganization⟩ := h s hs
  obtain ⟨o, ho, hid⟩ := hdb.customerOrganization c hc
  exact ⟨o, ho, horganization.trans (congrArg some hid.symm)⟩

/-- If the stored documents can be read, the migrations succeed, and label every webhook event by
the attempt that `int` makes of its payload. -/
theorem migrate_eq_ok (hdb : db.Valid) (hmatched : db.Matched) (hreadable : db.Readable env) :
    ∃ db', migrate env db = .ok db' ∧ Preserved (LooksUp env) db db' := by
  obtain ⟨subscriptions, hsubscriptions, hrowsS, hcustomer⟩ := subscriptions0003_eq_ok hdb hmatched
  have hownedS := allOwned_of_customers hdb hcustomer
  obtain ⟨invoices, lines, hinvoices, ⟨hrowsI, hownedI, hsubscription⟩, hrowsL, hinvoiceL⟩ :=
    invoices0003_eq_ok hdb hownedS hrowsS
  obtain ⟨attempts, events, hattempts, ⟨hrowsA, -, hinvoiceA⟩, hrowsE, hevent⟩ :=
    payments0004_eq_ok hdb hreadable hownedI hrowsI
  obtain ⟨payments, webhooks, hpayments, ⟨hrowsP, hfilledP⟩, hrowsW, hfilledW⟩ :=
    payments0005_eq_ok hdb hreadable hrowsS hrowsI hrowsA hrowsE
  refine ⟨⟨subscriptions, invoices, lines, payments, webhooks, Table.empty⟩, ?_, ?_⟩
  · unfold migrate
    rw [hsubscriptions, ok_bind, hinvoices, ok_bind]
    dsimp only
    rw [hattempts, ok_bind]
    dsimp only
    rw [hpayments, ok_bind]
    rfl
  have hwebhook : ∀ e ∈ webhooks, e.row ∈ events := by
    intro e he
    rw [Table.mem_def, ← hrowsW]
    exact List.mem_map_of_mem he
  exact
    { subscriptions := hrowsS
      invoices := hrowsI
      invoiceLines := hrowsL
      attempts := by
        show payments.rows.map (Owned.row ∘ GatewayAttempt.row) = _
        rw [← List.map_map, hrowsP, hrowsA]
      webhookEvents := by
        show webhooks.rows.map (Owned.row ∘ GatewayEvent.row) = _
        rw [← List.map_map, hrowsW, hrowsE]
      subscriptionOwner := by
        intro s hs
        obtain ⟨c, hc, hcid, horganization⟩ := hcustomer s hs
        have hold : s.row ∈ db.subscriptions := mem_of_owned hrowsS hs
        obtain ⟨p, hp, hpid⟩ := hdb.plan s.row hold
        refine ⟨c, hc, p, hp, hcid, hpid, horganization, ?_⟩
        rw [horganization, hmatched s.row hold c hc p hp hcid hpid]
      invoiceOwner := hsubscription
      lineOwner := hinvoiceL
      attemptOwner := by
        intro p hp
        obtain ⟨i, hi, -, -, -, -, hid, -, -, hcurrency, -⟩ := (hfilledP p hp).columns
        obtain ⟨i', hi', hid', horganization⟩ := hinvoiceA p.row (mem_of_gatewayRows hrowsP hp)
        obtain rfl := Table.eq_of_key_eq hi hi' (hid.trans hid'.symm)
        exact ⟨i, hi, hid, horganization, hcurrency⟩
      eventNamed := by
        intro e he p hp hnames
        exact (hevent e.row (hwebhook e he)).found p.row (mem_of_gatewayRows hrowsP hp) hnames
      eventUnnamed := by
        intro e he hno
        refine (hevent e.row (hwebhook e he)).missing fun p hp => ?_
        obtain ⟨q, hq, rfl⟩ := exists_gatewayRow hrowsP hp
        exact hno q hq
      projectPaymentKey := by
        intro p hp q hq hsome _ heq
        have hrow : p.row = q.row := unique_idempotencyKey hdb hrowsA p.row
          (mem_of_gatewayRows hrowsP hp) q.row (mem_of_gatewayRows hrowsP hq) hsome heq
        exact Table.eq_of_key_eq hp hq (congrArg (fun a : Owned Legacy.PaymentAttempt => key a) hrow)
      providerPaymentKey := fun p hp q hq _ heq =>
        Table.eq_of_key_eq hp hq (GatewayAttempt.key_eq (hfilledP p hp) (hfilledP q hq) heq)
      providerCharge := by
        intro p hp q _ hcharge
        exact absurd (hfilledP p hp).providerChargeId hcharge
      providerEvent := fun e he f hf _ heq =>
        Table.eq_of_key_eq he hf (GatewayEvent.key_eq (hfilledW e he) (hfilledW f hf) heq)
      receipts := fun _ => Table.not_mem_empty }

/-- A mismatch aborts `subscriptions.0003`. -/
theorem migrate_eq_error_of_mismatch (hdb : db.Valid) (hmatched : ¬ db.Matched) :
    migrate env db = .error mismatched := by
  unfold migrate
  rw [subscriptions0003_eq_error hdb hmatched]
  rfl

/-- What cannot be read aborts `payments.0004`, after the migrations before it. -/
theorem migrate_eq_error_of_unreadable (hdb : db.Valid) (hmatched : db.Matched)
    (hreadable : ¬ db.Readable env) : ∃ err, migrate env db = .error err := by
  obtain ⟨subscriptions, hsubscriptions, hrowsS, hcustomer⟩ := subscriptions0003_eq_ok hdb hmatched
  have hownedS := allOwned_of_customers hdb hcustomer
  obtain ⟨invoices, lines, hinvoices, -, -, -⟩ := invoices0003_eq_ok hdb hownedS hrowsS
  obtain ⟨err, herr⟩ := @payments0004_eq_error env db invoices hreadable
  refine ⟨err, ?_⟩
  unfold migrate
  rw [hsubscriptions, ok_bind, hinvoices, ok_bind]
  dsimp only
  rw [herr]
  rfl

/-! ## The attempts that payloads name -/

section

variable {names names' : Json → ℕ → Prop} {db' : MigratedDb}

/-- An event of the old table is there, in a row with the new columns. -/
theorem Preserved.exists_event (h : Preserved names db db') {e : Legacy.WebhookEvent}
    (he : e ∈ db.webhookEvents) : ∃ e' ∈ db'.webhookEvents, e'.row.row = e := by
  rw [Table.mem_def, ← h.webhookEvents] at he
  exact List.mem_map.mp he

/-- An attempt of the old table is there, in a row with the new columns. -/
theorem Preserved.exists_attempt (h : Preserved names db db') {p : Legacy.PaymentAttempt}
    (hp : p ∈ db.attempts) : ∃ p' ∈ db'.attempts, p'.row.row.id = p.id := by
  have hmem : withoutEmptyKey p ∈ db'.attempts.rows.map (fun p => p.row.row) :=
    h.attempts ▸ List.mem_map_of_mem hp
  obtain ⟨p', hp', hrow⟩ := List.mem_map.mp hmem
  exact ⟨p', hp', by rw [hrow]; rfl⟩

/-- The rows after the migrations are old ones. -/
theorem Preserved.rows (h : Preserved names db db') {e : GatewayEvent} (he : e ∈ db'.webhookEvents)
    {p : GatewayAttempt} (hp : p ∈ db'.attempts) :
    e.row.row ∈ db.webhookEvents ∧ ∃ p₀ ∈ db.attempts, p₀.id = p.row.row.id := by
  constructor
  · rw [Table.mem_def, ← h.webhookEvents]
    exact List.mem_map_of_mem he
  · have hmem : p.row.row ∈ db.attempts.rows.map withoutEmptyKey :=
      h.attempts ▸ List.mem_map_of_mem hp
    obtain ⟨p₀, hp₀, hrow⟩ := List.mem_map.mp hmem
    exact ⟨p₀, hp₀, by rw [← hrow]; rfl⟩

/-- Only the names of stored attempts in stored payloads count. -/
theorem Preserved.congr (h : Preserved names db db')
    (hsame : ∀ e ∈ db.webhookEvents, ∀ p ∈ db.attempts,
      (names' e.payload p.id ↔ names e.payload p.id)) : Preserved names' db db' where
  __ := h
  eventNamed := by
    intro e he p hp hnames
    obtain ⟨he₀, p₀, hp₀, hid⟩ := h.rows he hp
    exact h.eventNamed e he p hp (hid ▸ (hsame e.row.row he₀ p₀ hp₀).mp (hid ▸ hnames))
  eventUnnamed := by
    intro e he hno
    refine h.eventUnnamed e he fun p hp hnames => hno p hp ?_
    obtain ⟨he₀, p₀, hp₀, hid⟩ := h.rows he hp
    exact hid ▸ (hsame e.row.row he₀ p₀ hp₀).mpr (hid ▸ hnames)

/-- Every attempt has got an organization. -/
theorem Preserved.attempt_owned (h : Preserved names db db') {p : GatewayAttempt}
    (hp : p ∈ db'.attempts) : p.row.organizationId ≠ none := by
  obtain ⟨i, hi, -, howner, -⟩ := h.attemptOwner p hp
  obtain ⟨s, hs, -, hsame⟩ := h.invoiceOwner i hi
  obtain ⟨c, -, -, -, -, -, hsome, -⟩ := h.subscriptionOwner s hs
  rw [howner, hsame, hsome]
  exact Option.some_ne_none _

/-- An event that gets an organization by a lookup names the attempt itself. -/
theorem Preserved.unmistaken (hfound : Preserved (LooksUp env) db db')
    (hnamed : Preserved Names db db') : db.Unmistaken env := by
  intro e he p hp hcoerced
  obtain ⟨e', he', rfl⟩ := hfound.exists_event he
  obtain ⟨p', hp', hid⟩ := hfound.exists_attempt hp
  have hlooksUp : LooksUp env e'.row.row.payload p'.row.row.id :=
    looksUp_iff.mpr (Or.inr (hid ▸ hcoerced))
  have howned := hfound.eventNamed e' he' p' hp' hlooksUp
  have hnone : e'.row.organizationId = none := by
    refine hnamed.eventUnnamed e' he' fun q _ hnames => ?_
    -- an integer is not coerced
    rw [names_iff.mp hnames] at hcoerced
    cases hcoerced
  exact hfound.attempt_owned hp' (howned.symm.trans hnone)

end

/-- The migrations do what they should exactly when no stored document stops them and no payload is
mistaken for one that names an attempt. -/
theorem migrations_preserve_iff (hdb : db.Valid) :
    MigrationsPreserve env db ↔ ¬ db.Matched ∨ db.Readable env ∧ db.Unmistaken env := by
  constructor
  · intro h
    by_cases hmatched : db.Matched
    · right
      have hreadable : db.Readable env := by
        by_contra hnot
        obtain ⟨err, herr⟩ := migrate_eq_error_of_unreadable hdb hmatched hnot
        obtain ⟨db', hok⟩ := h.succeeds.mpr hmatched
        cases herr.symm.trans hok
      obtain ⟨db', hok, hfound⟩ := migrate_eq_ok hdb hmatched hreadable
      exact ⟨hreadable, hfound.unmistaken (h.preserved db' hok)⟩
    · exact Or.inl hmatched
  · intro h
    by_cases hmatched : db.Matched
    · obtain ⟨hreadable, hunmistaken⟩ := h.resolve_left (not_not_intro hmatched)
      obtain ⟨db', hok, hfound⟩ := migrate_eq_ok hdb hmatched hreadable
      refine ⟨⟨fun _ => hmatched, fun _ => ⟨db', hok⟩⟩, ?_, fun hno => absurd hmatched hno⟩
      intro db'' hok'
      obtain rfl := Except.ok.inj (hok.symm.trans hok')
      refine hfound.congr fun e he p hp => ?_
      rw [looksUp_iff, or_iff_left (hunmistaken e he p hp)]
    · have herr : migrate env db = .error mismatched := migrate_eq_error_of_mismatch hdb hmatched
      refine ⟨⟨?_, fun hyes => absurd hyes hmatched⟩, ?_, subscriptions0003_eq_error hdb⟩
      · rintro ⟨db', hok⟩
        cases herr.symm.trans hok
      · intro db' hok
        cases herr.symm.trans hok

/-! ## A sample -/

/-- Every stored document can be read; the sample asks for the number of no text. -/
def sampleMigrationEnv : MigrationEnv where
  decodes _ := true
  int _ := none

/-- The first of January 2024. -/
def sampleDay : DateTime := ⟨⟨2024, 1, 1, by decide⟩, 0, by decide⟩

/-- One attempt, with an empty idempotency key. -/
def sampleAttempt : Legacy.Db where
  organizations := Table.empty.insert ⟨0, 1, "Aurora"⟩
  customers := Table.empty.insert ⟨0, 1, "cus_1", "pm_1"⟩
  plans := Table.empty.insert ⟨0, 1, "Pro", 1999, "USD", .active, .month, 0⟩
  subscriptions := Table.empty.insert
    ⟨0, 1, 1, .active, sampleDay, sampleDay, none, none, sampleDay, sampleDay⟩
  invoices := Table.empty.insert
    ⟨0, 1, .paid, 1999, "USD", sampleDay, sampleDay, none, none, sampleDay, sampleDay⟩
  invoiceLines := Table.empty.insert ⟨0, 1, "Pro", 1999⟩
  attempts := Table.empty.insert ⟨0, 1, .success, 1999, .obj [], sampleDay, some "", false⟩
  webhookEvents := Table.empty

/-- The attempt, and one event with the given payload. -/
def sampleLegacy (payload : Json) : Legacy.Db :=
  { sampleAttempt with
    webhookEvents := Table.empty.insert ⟨0, "payment", payload, true, sampleDay⟩ }

/-- The sample attempt is valid. -/
theorem sampleAttempt_valid : sampleAttempt.Valid where
  customerOrganization := by decide
  customer := by decide
  plan := by decide
  subscription := by decide
  line := by decide
  attempt := by decide
  idempotencyKey := by
    intro p hp q hq _ _
    have hone : ∀ r ∈ sampleAttempt.attempts, key r = 1 := by decide
    exact Table.eq_of_key_eq hp hq ((hone p hp).trans (hone q hq).symm)
  currency := by decide
  providerCustomerId := by decide
  providerPaymentMethodId := by decide
  attemptId := by decide
  webhookEventId := by decide

/-- The sample database is valid, whatever the payload. -/
theorem sampleLegacy_valid (payload : Json) : (sampleLegacy payload).Valid :=
  { sampleAttempt_valid with
    webhookEventId := by
      intro e he
      rcases Table.mem_insert.mp he with he | rfl
      · exact absurd he Table.not_mem_empty
      · exact Nat.one_lt_two_pow (by decide) }

/-- The sample database agrees with its parents, whatever the payload. -/
theorem sampleLegacy_matched (payload : Json) : (sampleLegacy payload).Matched := by
  have hattempt : ∀ s ∈ sampleAttempt.subscriptions, ∀ c ∈ sampleAttempt.customers,
      ∀ p ∈ sampleAttempt.plans, c.id = s.customerId → p.id = s.planId →
        c.organizationId = p.organizationId := by
    decide
  exact hattempt

/-- The events of the sample carry the payload. -/
theorem mem_sampleLegacy {payload : Json} {e : Legacy.WebhookEvent}
    (he : e ∈ (sampleLegacy payload).webhookEvents) : e.payload = payload := by
  rcases Table.mem_insert.mp he with he | rfl
  · exact absurd he Table.not_mem_empty
  · rfl

/-- `int(True)` is the key of the attempt, which the payload does not name. -/
example : ¬ (sampleLegacy (.obj [("payment_attempt_id", .bool true)])).Unmistaken
    sampleMigrationEnv :=
  fun h => h _ Table.mem_insert_self _ Table.mem_insert_self rfl

/-- A payload that names the attempt. -/
theorem migrations_preserve_iff_sample : MigrationsPreserve sampleMigrationEnv
    (sampleLegacy (.obj [("payment_attempt_id", .int 1)])) :=
  (migrations_preserve_iff (sampleLegacy_valid _)).mpr <| Or.inr
    ⟨{ responses := fun _ _ => rfl
       payloads := fun _ _ => rfl
       finite := by
        intro e he
        rw [mem_sampleLegacy he]
        rintro ⟨m, k, h, -⟩
        cases h }, by
      intro e he p _ hcoerced
      rw [mem_sampleLegacy he] at hcoerced
      cases hcoerced⟩

/-- A payload with a number whose `float` is infinite. -/
def hugePayload : Json := .obj [("payment_attempt_id", .float (10 ^ 401 + 5) (-1))]

/-- The migrations do not preserve every valid database: one payload makes them fail. -/
theorem migrations_fail_on_huge_number : ¬ ∀ (env : MigrationEnv) (db : Legacy.Db), db.Valid →
    MigrationsPreserve env db := by
  intro h
  have hpreserve := h sampleMigrationEnv (sampleLegacy hugePayload) (sampleLegacy_valid _)
  have hreadable : ¬ (sampleLegacy hugePayload).Readable sampleMigrationEnv := by
    intro hreadable
    refine hreadable.finite _ Table.mem_insert_self ⟨10 ^ 401 + 5, -1, rfl, ?_⟩
    decide +kernel
  obtain ⟨err, herr⟩ := migrate_eq_error_of_unreadable (sampleLegacy_valid hugePayload)
    (sampleLegacy_matched _) hreadable
  obtain ⟨db', hok⟩ := hpreserve.succeeds.mpr (sampleLegacy_matched _)
  cases herr.symm.trans hok

end Chargeflow
