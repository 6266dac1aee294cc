import Chargeflow.Database

/-!
# Saving rows

`clean` and `save` of the models.  A model's `clean` compares its organization with the one of its
parent row and fills it in when the instance has none; a payment attempt's `clean` also refuses a
changed request snapshot.  `save` then writes the row, and the database checks its constraints.  An
instance that has not been saved yet has the key zero, which no row has.  A save checks the lengths
of the texts.  The database refuses a NUL character as well, in a text or anywhere in a document:
`Db.Storable` says that no row has one.  An invoice takes its total from the price of a plan, a
column of the same type.
-/

namespace Chargeflow

open Foundation

/-- The organization of an instance, when it has one, agrees with the parent row. -/
def checkOrganization (organization : Option ℕ) (parent : ℕ) : Except Err Unit :=
  ensure (organization.all (· == parent))
    (.validationError "Organization must match the parent record.")

/-- A text fits a column of the database. -/
def FitsColumn (value : String) (maxLength : ℕ) : Prop :=
  value.length ≤ maxLength ∧ StorableText value

/-- Whether a value fits its column can be computed. -/
instance (value : String) (maxLength : ℕ) : Decidable (FitsColumn value maxLength) :=
  inferInstanceAs (Decidable (_ ∧ _))

/-- A text is not longer than its column. -/
def checkLength (column value : String) (maxLength : ℕ) : Except Err Unit :=
  ensure (decide (value.length ≤ maxLength)) (.dataError column)

/-- An amount of hundredths fits its column, which has ten digits. -/
def checkAmount (column : String) (amount : ℤ) : Except Err Unit :=
  ensure (decide (amount.natAbs < 10 ^ 10)) (.dataError column)

/-! ## Plans and customers -/

/-- `Plan.save`: a plan with subscriptions stays in its organization. -/
def Plan.save (db : Db) (p : Plan) : Except Err Db := do
  ensure (!(db.plans.any (fun q => q.id == p.id && q.organizationId != p.organizationId) &&
      db.subscriptions.any (fun s => s.planId == p.id)))
    (.validationError "Cannot move a billing parent to another organization.")
  checkLength "name" p.name 255
  checkAmount "price" p.price
  checkLength "currency" p.currency 3
  return match db.plans.get? p.id with
    | some _ => { db with plans := db.plans.update p }
    | none => { db with plans := db.plans.insert p }

/-- `Customer.save`: a customer with subscriptions stays in its organization. -/
def Customer.save (db : Db) (c : Customer) : Except Err Db := do
  ensure (!(db.customers.any (fun q => q.id == c.id && q.organizationId != c.organizationId) &&
      db.subscriptions.any (fun s => s.customerId == c.id)))
    (.validationError "Cannot move a billing parent to another organization.")
  checkLength "provider_customer_id" c.providerCustomerId 255
  checkLength "provider_payment_method_id" c.providerPaymentMethodId 255
  return match db.customers.get? c.id with
    | some _ => { db with customers := db.customers.update c }
    | none => { db with customers := db.customers.insert c }

/-! ## Subscriptions -/

/-- `Subscription.lock_parents`: the customer and the plan, read under a shared lock. -/
def Subscription.lockParents (db : Db) (customerId planId : ℕ) :
    Except Err (Customer × Plan) := do
  let customer ← fetch db.customers "Customer" customerId
  let plan ← fetch db.plans "Plan" planId
  return (customer, plan)

/-- `Subscription.clean`, on an instance whose own organization may still be unset. -/
def Subscription.clean (db : Db) (organization : Option ℕ) (s : Subscription) :
    Except Err Subscription := do
  let customer ← fetch db.customers "Customer" s.customerId
  let plan ← fetch db.plans "Plan" s.planId
  ensure (plan.organizationId == customer.organizationId)
    (.validationError "Customer and plan must belong to the same organization.")
  checkOrganization organization customer.organizationId
  ensure (!db.subscriptions.any fun q =>
      q.id == s.id && q.organizationId != customer.organizationId)
    (.validationError "Cannot move a billing record to another organization.")
  return { s with organizationId := customer.organizationId }

/-- `Subscription.objects.create`, without an organization. -/
def Subscription.create (db : Db) (s : Subscription) : Except Err (Db × Subscription) := do
  let _ ← Subscription.lockParents db s.customerId s.planId
  let s ← Subscription.clean db none s
  return ({ db with subscriptions := db.subscriptions.insert s },
    withKey db.subscriptions.next s)

/-- The columns a `save` of a subscription is limited to in the services. -/
inductive SubscriptionField where
  | currentPeriodStart
  | currentPeriodEnd
  | canceledReason
  deriving DecidableEq

/-- The stored row after a save limited to `fields`. -/
def Subscription.merge (fields : List SubscriptionField) (stored inst : Subscription) :
    Subscription :=
  { stored with
    currentPeriodStart :=
      if .currentPeriodStart ∈ fields then inst.currentPeriodStart else stored.currentPeriodStart
    currentPeriodEnd :=
      if .currentPeriodEnd ∈ fields then inst.currentPeriodEnd else stored.currentPeriodEnd
    canceledReason :=
      if .canceledReason ∈ fields then inst.canceledReason else stored.canceledReason }

/-- `Subscription.save(update_fields=...)` of a stored subscription. -/
def Subscription.save (db : Db) (fields : List SubscriptionField) (s : Subscription) :
    Except Err Db := do
  let stored ← fetch db.subscriptions "Subscription" s.id
  if stored.customerId ≠ s.customerId ∨ stored.planId ≠ s.planId then
    let _ ← Subscription.lockParents db s.customerId s.planId
  let s ← Subscription.clean db (some s.organizationId) s
  return { db with subscriptions := db.subscriptions.update (stored.merge fields s) }

/-! ## Invoices -/

/-- `Invoice.clean`, on an instance whose own organization may still be unset. -/
def Invoice.clean (db : Db) (organization : Option ℕ) (i : Invoice) : Except Err Invoice := do
  let subscription ← fetch db.subscriptions "Subscription" i.subscriptionId
  checkOrganization organization subscription.organizationId
  ensure (!db.invoices.any fun q =>
      q.id == i.id && q.organizationId != subscription.organizationId)
    (.validationError "Cannot move a billing record to another organization.")
  return { i with organizationId := subscription.organizationId }

/-- `Invoice.objects.create`, without an organization, under
`unique_invoice_per_subscription_period`. -/
def Invoice.create (db : Db) (i : Invoice) : Except Err (Db × Invoice) := do
  let i ← Invoice.clean db none i
  ensure (!db.invoices.any fun q => q.subscriptionId == i.subscriptionId &&
      q.periodStart == i.periodStart && q.periodEnd == i.periodEnd)
    (.integrityError "unique_invoice_per_subscription_period")
  return ({ db with invoices := db.invoices.insert i }, withKey db.invoices.next i)

/-- `InvoiceLine.objects.create`, without an organization: `clean` takes it from the invoice. -/
def InvoiceLine.create (db : Db) (l : InvoiceLine) : Except Err Db := do
  let invoice ← fetch db.invoices "Invoice" l.invoiceId
  checkLength "description" l.description 255
  return { db with
    invoiceLines := db.invoiceLines.insert { l with organizationId := invoice.organizationId } }

/-! ## Payment attempts -/

/-- The columns `PaymentAttempt.clean` compares with the stored row. -/
def PaymentAttempt.snapshot (p : PaymentAttempt) :
    (ℕ × ℕ × ℤ × String) × (String × String × String × String × Option String) :=
  ((p.organizationId, p.invoiceId, p.amount, p.currency),
    (p.provider, p.providerIdempotencyKey, p.providerCustomerId, p.providerPaymentMethodId,
      p.idempotencyKey))

/-- `PaymentAttempt.clean`, on an instance whose own organization may still be unset. -/
def PaymentAttempt.clean (db : Db) (organization : Option ℕ) (p : PaymentAttempt) :
    Except Err PaymentAttempt := do
  let invoice ← fetch db.invoices "Invoice" p.invoiceId
  checkOrganization organization invoice.organizationId
  ensure ((db.attempts.get? p.id).all fun original => original.snapshot == p.snapshot)
    (.validationError "Payment request snapshots are immutable.")
  return { p with organizationId := invoice.organizationId }

/-- The unique constraints of the payment attempt table, for a row about to be written. -/
def PaymentAttempt.checkConstraints (db : Db) (p : PaymentAttempt) : Except Err Unit := do
  let others := db.attempts.filter fun q => q.id != p.id
  ensure (!others.any fun q => p.idempotencyKey.isSome &&
      q.organizationId == p.organizationId && q.idempotencyKey == p.idempotencyKey)
    (.integrityError "unique_project_payment_key")
  ensure (!others.any fun q => p.status == .success &&
      q.invoiceId == p.invoiceId && q.status == .success)
    (.integrityError "one_success_per_invoice")
  ensure (!others.any fun q => q.provider == p.provider &&
      q.providerIdempotencyKey == p.providerIdempotencyKey)
    (.integrityError "unique_provider_payment_key")
  ensure (!others.any fun q => p.providerChargeId != "" &&
      q.provider == p.provider && q.providerChargeId == p.providerChargeId)
    (.integrityError "unique_provider_charge")

/-- The lengths of the text columns of a payment attempt, and the digits of its amount. -/
def PaymentAttempt.checkLengths (p : PaymentAttempt) : Except Err Unit := do
  checkAmount "amount" p.amount
  checkLength "currency" p.currency 3
  checkLength "provider" p.provider 50
  checkLength "provider_idempotency_key" p.providerIdempotencyKey 255
  checkLength "provider_customer_id" p.providerCustomerId 255
  checkLength "provider_payment_method_id" p.providerPaymentMethodId 255
  checkLength "provider_charge_id" p.providerChargeId 255
  checkLength "idempotency_key" (p.idempotencyKey.getD "") 255

/-- An empty client key is stored as null. -/
def normalizeKey (idempotencyKey : Option String) : Option String :=
  idempotencyKey.filter (· != "")

/-- `PaymentAttempt.objects.create`, without an organization. -/
def PaymentAttempt.create (db : Db) (p : PaymentAttempt) : Except Err (Db × PaymentAttempt) := do
  let p := { p with idempotencyKey := normalizeKey p.idempotencyKey }
  let p ← PaymentAttempt.clean db none p
  p.checkLengths
  PaymentAttempt.checkConstraints db p
  return ({ db with attempts := db.attempts.insert p }, withKey db.attempts.next p)

/-- `PaymentAttempt.save(update_fields=...)` of a stored attempt. -/
def PaymentAttempt.save (db : Db) (fields : List PaymentField) (p : PaymentAttempt) :
    Except Err Db := do
  let p := { p with idempotencyKey := normalizeKey p.idempotencyKey }
  let p ← PaymentAttempt.clean db (some p.organizationId) p
  let stored ← fetch db.attempts "PaymentAttempt" p.id
  let row := stored.merge fields p
  row.checkLengths
  PaymentAttempt.checkConstraints db row
  return { db with attempts := db.attempts.update row }

/-! ## Webhook events -/

/-- The attempt the payload of a webhook names.  The validation of a webhook leaves no other kind of
identifier than a positive integer. -/
def namedAttempt (db : Db) (payload : List (String × Json)) : Option PaymentAttempt :=
  match Json.get payload "payment_attempt_id" .null with
  | .int n => db.attempts.get? n.toNat
  | _ => none

/-- `WebhookEvent.objects.create`, under `unique_provider_event`.  `clean` sets the organization to
the one of the attempt the payload names. -/
def WebhookEvent.create (db : Db) (eventType provider providerEventId : String)
    (payload : List (String × Json)) : Except Err (Db × WebhookEvent) := do
  let event : WebhookEvent :=
    { id := 0
      organizationId := (namedAttempt db payload).map PaymentAttempt.organizationId
      eventType := eventType
      provider := provider
      providerEventId := providerEventId
      payload := .obj payload
      processed := false }
  ensure (!db.webhookEvents.any fun e =>
      e.provider == provider && e.providerEventId == providerEventId)
    (.integrityError "unique_provider_event")
  return ({ db with webhookEvents := db.webhookEvents.insert event },
    withKey db.webhookEvents.next event)

/-! ## What the database can store -/

/-- The texts and the document of a payment attempt can be stored. -/
structure PaymentAttempt.Storable (p : PaymentAttempt) : Prop where
  currency : StorableText p.currency
  provider : StorableText p.provider
  providerIdempotencyKey : StorableText p.providerIdempotencyKey
  providerCustomerId : StorableText p.providerCustomerId
  providerPaymentMethodId : StorableText p.providerPaymentMethodId
  providerChargeId : StorableText p.providerChargeId
  providerResponse : p.providerResponse.Storable
  idempotencyKey : ∀ k ∈ p.idempotencyKey, StorableText k

/-- The rows have no NUL character, as PostgreSQL has it. -/
structure Db.Storable (db : Db) : Prop where
  plans : ∀ p ∈ db.plans, StorableText p.name ∧ StorableText p.currency
  customers : ∀ c ∈ db.customers,
    StorableText c.providerCustomerId ∧ StorableText c.providerPaymentMethodId
  invoices : ∀ i ∈ db.invoices, StorableText i.currency
  invoiceLines : ∀ l ∈ db.invoiceLines, StorableText l.description
  attempts : ∀ p ∈ db.attempts, p.Storable
  webhookEvents : ∀ e ∈ db.webhookEvents, StorableText e.eventType ∧ StorableText e.provider ∧
    StorableText e.providerEventId ∧ e.payload.Storable
  receipts : ∀ r ∈ db.receipts, StorableText r.providerIdempotencyKey ∧
    StorableText r.requestFingerprint ∧ StorableText r.providerChargeId ∧
      (Json.obj r.providerResponse).Storable

end Chargeflow
