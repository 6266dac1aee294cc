import Chargeflow.Domain.Legacy

/-!
# The organization and gateway migrations

Four migrations give the billing rows their organizations and the columns of the gateway.  Each runs
in a transaction of its own: an error leaves the tables as they were.  The rows of a loop come with
their related rows, by an inner join; saving a row checks its foreign key and the sizes of its
texts.
-/

namespace Chargeflow

open Foundation

/-- The exceptions that a migration meets. -/
inductive MigrationErr where
  | valueError (message : String)
  | typeError
  | overflowError
  | doesNotExist
  /-- `json.loads` refuses a stored document. -/
  | decodeError
  | integrityError (constraint : String)
  | dataError (column : String)
  deriving DecidableEq

/-- What the migrations take from Python. -/
structure MigrationEnv where
  /-- Whether `json.loads` reads a document: it limits the digits of an integer, and the depth. -/
  decodes : Json → Bool
  /-- `int` of a text. -/
  int : String → Option ℤ

/-! ## Columns and constraints -/

/-- The column `organization` is added, without a value. -/
def addOrganization {α : Type} [Keyed α] (t : Table α) : Table (Owned α) :=
  t.mapRows (fun a => ⟨a, none⟩) fun _ => rfl

/-- The column becomes NOT NULL. -/
def setNotNull {α β : Type} [Keyed α] (column : String) (f : α → Option β) (t : Table α) :
    Except MigrationErr Unit :=
  if t.any fun a => (f a).isNone then .error (.integrityError column) else .ok ()

/-- A unique constraint on what `f` makes of the rows; it does not concern a row without a value. -/
def addUnique {α β : Type} [Keyed α] [DecidableEq β] (constraint : String) (f : α → Option β)
    (t : Table α) : Except MigrationErr Unit :=
  if t.any fun a => t.any fun b => key a != key b && (f a).isSome && decide (f a = f b) then
    .error (.integrityError constraint)
  else .ok ()

/-- The value of a foreign key to the organizations. -/
def saveOrganization (organizations : Table Organization) (organizationId : Option ℕ) :
    Except MigrationErr (Option ℕ) :=
  match organizationId with
  | none => .ok none
  | some o =>
    match organizations.get? o with
    | some _ => .ok (some o)
    | none => .error (.integrityError "organization")

/-- A text that fits its column. -/
def saveText (column value : String) (maxLength : ℕ) : Except MigrationErr String :=
  if value.length ≤ maxLength then .ok value else .error (.dataError column)

/-- A stored document is read. -/
def decode (env : MigrationEnv) (document : Json) : Except MigrationErr Json :=
  if env.decodes document then .ok document else .error .decodeError

/-! ## Subscriptions -/

/-- The body of the loop of `subscriptions.0003`. -/
def backfillSubscription (organizations : Table Organization) (customers : Table Customer)
    (plans : Table Plan) (s : Owned Legacy.Subscription) :
    Except MigrationErr (Option (Owned Legacy.Subscription)) :=
  match customers.get? s.row.customerId, plans.get? s.row.planId with
  | some customer, some plan =>
    if customer.organizationId ≠ plan.organizationId then
      .error (.valueError
        "Cannot assign organization to a subscription with mismatched customer and plan.")
    else do
      let organizationId ← saveOrganization organizations (some customer.organizationId)
      return some { s with organizationId := organizationId }
  | _, _ => .ok none

/-- `subscriptions.0003_subscription_organization`. -/
def subscriptions0003 (db : Legacy.Db) : Except MigrationErr (Table (Owned Legacy.Subscription)) := do
  let subscriptions ← (addOrganization db.subscriptions).backfill
    (backfillSubscription db.organizations db.customers db.plans)
  setNotNull "organization" Owned.organizationId subscriptions
  return subscriptions

/-! ## Invoices -/

/-- The body of a loop of `invoices.0003`: the organization of the parent row. -/
def backfillChild {α β : Type} [Keyed β] (organizations : Table Organization)
    (parents : Table (Owned β)) (parentId : α → ℕ) (a : Owned α) :
    Except MigrationErr (Option (Owned α)) :=
  match parents.get? (parentId a.row) with
  | some parent => do
    let organizationId ← saveOrganization organizations parent.organizationId
    return some { a with organizationId := organizationId }
  | none => .ok none

/-- `invoices.0003_invoice_organization`. -/
def invoices0003 (db : Legacy.Db) (subscriptions : Table (Owned Legacy.Subscription)) :
    Except MigrationErr (Table (Owned Legacy.Invoice) × Table (Owned Legacy.InvoiceLine)) := do
  let invoices ← (addOrganization db.invoices).backfill
    (backfillChild db.organizations subscriptions Legacy.Invoice.subscriptionId)
  let lines ← (addOrganization db.invoiceLines).backfill
    (backfillChild db.organizations invoices Legacy.InvoiceLine.invoiceId)
  setNotNull "organization" Owned.organizationId invoices
  setNotNull "organization" Owned.organizationId lines
  return (invoices, lines)

/-! ## Payments: organizations -/

/-- `int` of a value. -/
def intOf (env : MigrationEnv) : Json → Except MigrationErr ℤ
  | .null => .error .typeError
  | .bool b => .ok (if b then 1 else 0)
  | .int n => .ok n
  | .float m e =>
    match truncFloat m e with
    | some n => .ok n
    | none => .error .overflowError
  | .str s =>
    match env.int s with
    | some n => .ok n
    | none => .error (.valueError "Field 'id' expected a number")
  | .arr _ => .error .typeError
  | .obj _ => .error .typeError

/-- `Payment.objects.get(pk=payment_id)`: no row has the key `None`. -/
def getPayment (env : MigrationEnv) (attempts : Table (Owned Legacy.PaymentAttempt)) :
    Json → Except MigrationErr (Owned Legacy.PaymentAttempt)
  | .null => .error .doesNotExist
  | paymentId => do
    let n ← intOf env paymentId
    match attempts.rows.find? fun p => (p.row.id : ℤ) == n with
    | some p => .ok p
    | none => .error .doesNotExist

/-- The value that a payload gives as the key of an attempt. -/
def paymentIdOf : Json → Json
  | .obj fields => Json.get fields "payment_attempt_id" .null
  | _ => .null

/-- The body of the first loop of `payments.0004`. -/
def backfillPayment (env : MigrationEnv) (organizations : Table Organization)
    (invoices : Table (Owned Legacy.Invoice)) (p : Owned Legacy.PaymentAttempt) :
    Except MigrationErr (Option (Owned Legacy.PaymentAttempt)) := do
  let _ ← decode env p.row.providerResponse
  match invoices.get? p.row.invoiceId with
  | some invoice => do
    let organizationId ← saveOrganization organizations invoice.organizationId
    return some ⟨{ p.row with idempotencyKey := p.row.idempotencyKey.filter (· ≠ "") },
      organizationId⟩
  | none => .ok none

/-- The body of the second loop of `payments.0004`.  An event whose payload names no attempt is
skipped. -/
def backfillWebhook (env : MigrationEnv) (organizations : Table Organization)
    (attempts : Table (Owned Legacy.PaymentAttempt)) (e : Owned Legacy.WebhookEvent) :
    Except MigrationErr (Option (Owned Legacy.WebhookEvent)) := do
  let payload ← decode env e.row.payload
  match getPayment env attempts (paymentIdOf payload) with
  | .ok p => do
    let organizationId ← saveOrganization organizations p.organizationId
    return some { e with organizationId := organizationId }
  | .error .doesNotExist => .ok none
  | .error (.valueError _) => .ok none
  | .error .typeError => .ok none
  | .error err => .error err

/-- `payments.0004_payment_organization`. -/
def payments0004 (env : MigrationEnv) (db : Legacy.Db) (invoices : Table (Owned Legacy.Invoice)) :
    Except MigrationErr
      (Table (Owned Legacy.PaymentAttempt) × Table (Owned Legacy.WebhookEvent)) := do
  let attempts ← (addOrganization db.attempts).backfill
    (backfillPayment env db.organizations invoices)
  let events ← (addOrganization db.webhookEvents).backfill
    (backfillWebhook env db.organizations attempts)
  setNotNull "organization" Owned.organizationId attempts
  addUnique "unique_project_payment_key"
    (fun p => p.row.idempotencyKey.map fun k => (p.organizationId, k)) attempts
  return (attempts, events)

/-! ## Payments: the gateway -/

/-- The columns of the gateway are added. -/
def addGatewayColumns (attempts : Table (Owned Legacy.PaymentAttempt)) : Table GatewayAttempt :=
  attempts.mapRows (fun p => ⟨p, none, none, "", "", none, ""⟩) fun _ => rfl

/-- The columns of the gateway are added. -/
def addGatewayEventColumns (events : Table (Owned Legacy.WebhookEvent)) : Table GatewayEvent :=
  events.mapRows (fun e => ⟨e, none, none⟩) fun _ => rfl

/-- The body of the first loop of `payments.0005`. -/
def backfillGatewayPayment (env : MigrationEnv) (customers : Table Customer)
    (subscriptions : Table (Owned Legacy.Subscription)) (invoices : Table (Owned Legacy.Invoice))
    (payment : GatewayAttempt) : Except MigrationErr (Option GatewayAttempt) := do
  let _ ← decode env payment.row.row.providerResponse
  let customer? : Option (Owned Legacy.Invoice × Customer) := do
    let invoice ← invoices.get? payment.row.row.invoiceId
    let subscription ← subscriptions.get? invoice.row.subscriptionId
    let customer ← customers.get? subscription.row.customerId
    return (invoice, customer)
  match customer? with
  | some (invoice, customer) => do
    let currency ← saveText "currency" invoice.row.currency 3
    let provider ← saveText "provider" "mock" 50
    let providerCustomerId ← saveText "provider_customer_id" customer.providerCustomerId 255
    let providerIdempotencyKey ← saveText "provider_idempotency_key"
      ("legacy-payment-" ++ toString payment.row.row.id) 255
    let providerPaymentMethodId ←
      saveText "provider_payment_method_id" customer.providerPaymentMethodId 255
    return some { payment with
      currency := some currency
      provider := some provider
      providerCustomerId := providerCustomerId
      providerIdempotencyKey := some providerIdempotencyKey
      providerPaymentMethodId := providerPaymentMethodId }
  | none => .ok none

/-- The body of the second loop of `payments.0005`. -/
def backfillGatewayWebhook (env : MigrationEnv) (webhook : GatewayEvent) :
    Except MigrationErr (Option GatewayEvent) := do
  let _ ← decode env webhook.row.row.payload
  let provider ← saveText "provider" "mock" 50
  let providerEventId ← saveText "provider_event_id"
    ("legacy-webhook-" ++ toString webhook.row.row.id) 255
  return some { webhook with
    provider := some provider
    providerEventId := some providerEventId }

/-- `payments.0005_payment_gateway`. -/
def payments0005 (env : MigrationEnv) (customers : Table Customer)
    (subscriptions : Table (Owned Legacy.Subscription)) (invoices : Table (Owned Legacy.Invoice))
    (attempts : Table (Owned Legacy.PaymentAttempt)) (events : Table (Owned Legacy.WebhookEvent)) :
    Except MigrationErr (Table GatewayAttempt × Table GatewayEvent) := do
  let payments ← (addGatewayColumns attempts).backfill
    (backfillGatewayPayment env customers subscriptions invoices)
  let webhooks ← (addGatewayEventColumns events).backfill (backfillGatewayWebhook env)
  setNotNull "currency" GatewayAttempt.currency payments
  setNotNull "provider" GatewayAttempt.provider payments
  setNotNull "provider_idempotency_key" GatewayAttempt.providerIdempotencyKey payments
  setNotNull "provider" GatewayEvent.provider webhooks
  setNotNull "provider_event_id" GatewayEvent.providerEventId webhooks
  addUnique "unique_provider_payment_key"
    (fun p => some (p.provider, p.providerIdempotencyKey)) payments
  addUnique "unique_provider_charge"
    (fun p => if p.providerChargeId = "" then none else some (p.provider, p.providerChargeId))
    payments
  addUnique "unique_provider_event" (fun e => some (e.provider, e.providerEventId)) webhooks
  return (payments, webhooks)

/-! ## All of them -/

/-- The migrations in the order of their dependencies.  The table of receipts starts empty. -/
def migrate (env : MigrationEnv) (db : Legacy.Db) : Except MigrationErr MigratedDb := do
  let subscriptions ← subscriptions0003 db
  let (invoices, lines) ← invoices0003 db subscriptions
  let (attempts, events) ← payments0004 env db invoices
  let (payments, webhooks) ← payments0005 env db.customers subscriptions invoices attempts events
  return ⟨subscriptions, invoices, lines, payments, webhooks, Table.empty⟩

end Chargeflow
