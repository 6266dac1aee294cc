import Chargeflow.Domain.Accounts
import Chargeflow.Domain.Subscriptions
import Chargeflow.Domain.Invoices
import Chargeflow.Domain.Payments
import Chargeflow.Foundation.Backfill

/-!
# The tables before the billing rows had organizations

The rows of the billing tables as the migrations find them, with all their columns, and the
constraints of that schema.  Organizations, customers and plans are not changed by these migrations,
and the columns of the provider are there already.
-/

namespace Chargeflow

open Foundation

namespace Legacy

/-- A subscription before the migrations. -/
structure Subscription where
  id : ℕ
  customerId : ℕ
  planId : ℕ
  status : SubscriptionStatus
  currentPeriodStart : DateTime
  currentPeriodEnd : DateTime
  canceledAt : Option DateTime
  canceledReason : Option CancellationReason
  createdAt : DateTime
  updatedAt : DateTime

/-- An invoice before the migrations. -/
structure Invoice where
  id : ℕ
  subscriptionId : ℕ
  status : InvoiceStatus
  total : ℤ
  currency : String
  periodStart : DateTime
  periodEnd : DateTime
  issuedAt : Option DateTime
  paidAt : Option DateTime
  createdAt : DateTime
  updatedAt : DateTime

/-- An invoice line before the migrations. -/
structure InvoiceLine where
  id : ℕ
  invoiceId : ℕ
  description : String
  amount : ℤ

/-- A payment attempt before the migrations. -/
structure PaymentAttempt where
  id : ℕ
  invoiceId : ℕ
  status : PaymentStatus
  amount : ℤ
  providerResponse : Json
  attemptedAt : DateTime
  idempotencyKey : Option String
  needsReconciliation : Bool

/-- A webhook event before the migrations. -/
structure WebhookEvent where
  id : ℕ
  eventType : String
  payload : Json
  processed : Bool
  receivedAt : DateTime

/-- The primary key of a subscription. -/
instance : Keyed Subscription := ⟨Subscription.id, fun n s => { s with id := n }, fun _ _ => rfl⟩

/-- The primary key of an invoice. -/
instance : Keyed Invoice := ⟨Invoice.id, fun n i => { i with id := n }, fun _ _ => rfl⟩

/-- The primary key of an invoice line. -/
instance : Keyed InvoiceLine := ⟨InvoiceLine.id, fun n l => { l with id := n }, fun _ _ => rfl⟩

/-- The primary key of a payment attempt. -/
instance : Keyed PaymentAttempt :=
  ⟨PaymentAttempt.id, fun n p => { p with id := n }, fun _ _ => rfl⟩

/-- The primary key of a webhook event. -/
instance : Keyed WebhookEvent := ⟨WebhookEvent.id, fun n e => { e with id := n }, fun _ _ => rfl⟩

/-- The tables before the migrations. -/
structure Db where
  organizations : Table Organization
  customers : Table Customer
  plans : Table Plan
  subscriptions : Table Subscription
  invoices : Table Invoice
  invoiceLines : Table InvoiceLine
  attempts : Table PaymentAttempt
  webhookEvents : Table WebhookEvent

/-- The constraints of the old schema that the new columns depend on: foreign keys, the unique
idempotency key, and the sizes of texts and keys. -/
structure Db.Valid (db : Db) : Prop where
  customerOrganization : ∀ c ∈ db.customers, ∃ o ∈ db.organizations, o.id = c.organizationId
  customer : ∀ s ∈ db.subscriptions, ∃ c ∈ db.customers, c.id = s.customerId
  plan : ∀ s ∈ db.subscriptions, ∃ p ∈ db.plans, p.id = s.planId
  subscription : ∀ i ∈ db.invoices, ∃ s ∈ db.subscriptions, s.id = i.subscriptionId
  line : ∀ l ∈ db.invoiceLines, ∃ i ∈ db.invoices, i.id = l.invoiceId
  attempt : ∀ p ∈ db.attempts, ∃ i ∈ db.invoices, i.id = p.invoiceId
  idempotencyKey : ∀ p ∈ db.attempts, ∀ q ∈ db.attempts, p.idempotencyKey ≠ none →
    p.idempotencyKey = q.idempotencyKey → p = q
  currency : ∀ i ∈ db.invoices, i.currency.length ≤ 3
  providerCustomerId : ∀ c ∈ db.customers, c.providerCustomerId.length ≤ 255
  providerPaymentMethodId : ∀ c ∈ db.customers, c.providerPaymentMethodId.length ≤ 255
  attemptId : ∀ p ∈ db.attempts, p.id < 2 ^ 63
  webhookEventId : ∀ e ∈ db.webhookEvents, e.id < 2 ^ 63

end Legacy

/-! ## New columns -/

/-- A row with the column `organization`. -/
structure Owned (α : Type) where
  row : α
  organizationId : Option ℕ

/-- A row keeps its primary key when it gets the column of the organization. -/
instance {α : Type} [Keyed α] : Keyed (Owned α) :=
  ⟨fun a => key a.row, fun n a => { a with row := withKey n a.row }, fun n a => key_withKey n a.row⟩

/-- A payment attempt with the columns of the gateway. -/
structure GatewayAttempt where
  row : Owned Legacy.PaymentAttempt
  currency : Option String
  provider : Option String
  providerChargeId : String
  providerCustomerId : String
  providerIdempotencyKey : Option String
  providerPaymentMethodId : String

/-- A webhook event with the columns of the gateway. -/
structure GatewayEvent where
  row : Owned Legacy.WebhookEvent
  provider : Option String
  providerEventId : Option String

/-- An attempt keeps its primary key when it gets the columns of the gateway. -/
instance : Keyed GatewayAttempt :=
  ⟨fun a => key a.row, fun n a => { a with row := withKey n a.row }, fun n a => key_withKey n a.row⟩

/-- An event keeps its primary key when it gets the columns of the gateway. -/
instance : Keyed GatewayEvent :=
  ⟨fun a => key a.row, fun n a => { a with row := withKey n a.row }, fun n a => key_withKey n a.row⟩

/-- The billing tables after the migrations. -/
structure MigratedDb where
  subscriptions : Table (Owned Legacy.Subscription)
  invoices : Table (Owned Legacy.Invoice)
  invoiceLines : Table (Owned Legacy.InvoiceLine)
  attempts : Table GatewayAttempt
  webhookEvents : Table GatewayEvent
  receipts : Table MockChargeReceipt

end Chargeflow
