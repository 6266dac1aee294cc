import Chargeflow.Persistence

/-!
# Instances in memory

`save` of the models on an instance in memory.  Such an instance may lack its key, its organization
and its parents, it may hold any edits of them, and a save may be limited to some columns.  `clean`
runs on the instance as it is in memory, whatever columns are written after it, and `write` is what
the `save` of a plain model does: it completes the foreign keys from the related objects and writes
the columns.

An instance with a key was read or saved before, and rows are not deleted, so its row is there.  The
constraints on other columns than the keys are those of `Persistence`.
-/

namespace Chargeflow

open Foundation

/-! ## Foreign keys -/

/-- A foreign key of an instance: its column, and the key of the related object it was assigned, if
any.  An object that was not saved when it was assigned leaves the column empty, and may have a key
by now. -/
structure ForeignKey where
  column : Option ℕ
  related : Option (Option ℕ)
  deriving DecidableEq

namespace ForeignKey

/-- A foreign key with the key of a row. -/
def of (n : ℕ) : ForeignKey := ⟨some n, none⟩

/-- The key a save writes: the one in the column, or the one of the related object. -/
def value (k : ForeignKey) : Option ℕ := k.column.or k.related.join

/-- Another key in the column drops the related object. -/
def assign (k : ForeignKey) (n : ℕ) : ForeignKey := if k.column = some n then k else of n

/-- The check of a related object before a row is written. -/
def prepare (name : String) (k : ForeignKey) : Except Err (Option ℕ) := do
  ensure (k.related != some none) (.valueError
    ("save() prohibited to prevent data loss due to unsaved related object '" ++ name ++ "'."))
  return k.value

end ForeignKey

/-! ## What a save writes -/

/-- What a save writes: nothing, a new row, or some columns of a stored row. -/
inductive SaveTarget (γ : Type) where
  | nothing
  | newRow
  | storedRow (n : ℕ) (written : γ → Bool)

/-- `save(update_fields=...)` of an instance with the key `pk`.  Without `update_fields` all columns
are written, and an empty list of them skips the save. -/
def saveTarget {γ : Type} [DecidableEq γ] (pk : Option ℕ) (updateFields : Option (List γ)) :
    Except Err (SaveTarget γ) :=
  match updateFields, pk with
  | some [], _ => .ok .nothing
  | some _, none => .error (.valueError "Cannot force an update in save() with no primary key.")
  | some fields, some n => .ok (.storedRow n fun column => decide (column ∈ fields))
  | none, some n => .ok (.storedRow n fun _ => true)
  | none, none => .ok .newRow

/-- The key in a column that may not be null. -/
def notNull (column : String) : Option ℕ → Except Err ℕ
  | some n => .ok n
  | none => .error (.integrityError column)

/-- The key in a column after a save: the one of the instance when the column is written. -/
def savedKey (column : String) (written : Bool) (value : Option ℕ) (stored : ℕ) : Except Err ℕ :=
  if written then notNull column value else .ok stored

/-- The table after a save.  `newRow` and `merge` give the row that is inserted, or the one that
replaces the stored row, and `check` stands for the constraints of the database. -/
def saveRow {α γ : Type} [Keyed α] (t : Table α) (model : String) (target : SaveTarget γ)
    (newRow : Except Err α) (merge : (γ → Bool) → α → Except Err α)
    (check : α → Except Err Unit) : Except Err (Table α) :=
  match target with
  | .nothing => .ok t
  | .newRow => do
    let row ← newRow
    check row
    return t.insert row
  | .storedRow n written => do
    let stored ← fetch t model n
    let row ← merge written stored
    check row
    return t.update row

/-- A foreign key refers to a row. -/
def checkReference {α : Type} [Keyed α] (t : Table α) (column : String) (n : ℕ) :
    Except Err Unit :=
  ensure (t.get? n).isSome (.integrityError column)

/-! ## Checks shared by the models -/

/-- `clean` of a plan or a customer: with subscriptions it stays in its organization. -/
def cleanParent {α : Type} [Keyed α] (t : Table α) (owner : α → ℕ)
    (subscriptions : Table Subscription) (parent : Subscription → ℕ) (pk : Option ℕ)
    (organization : ForeignKey) : Except Err Unit :=
  ensure (!(t.any (fun q => pk == some (key q) && organization.column != some (owner q)) &&
      subscriptions.any (fun s => pk == some (parent s))))
    (.validationError "Cannot move a billing parent to another organization.")

/-- The end of `clean` of a record, with the organization of its parent: the organization of the
instance after it.  A stored row stays in its organization. -/
def cleanRecord {α : Type} [Keyed α] (t : Table α) (owner : α → ℕ) (pk : Option ℕ)
    (organization : ForeignKey) (parentOrganization : ℕ) : Except Err ForeignKey := do
  checkOrganization organization.column parentOrganization
  ensure (!t.any fun q => pk == some (key q) && owner q != parentOrganization)
    (.validationError "Cannot move a billing record to another organization.")
  return organization.assign parentOrganization

/-! ## Plans -/

/-- A `Plan` in memory. -/
structure PlanInstance where
  pk : Option ℕ
  organization : ForeignKey
  name : String
  price : ℤ
  currency : String
  status : PlanStatus
  interval : PlanInterval
  trialPeriodDays : ℤ

/-- The columns of a plan; `other` stands for those that the rows leave out. -/
inductive PlanColumn where
  | organization
  | name
  | price
  | currency
  | status
  | interval
  | trialPeriodDays
  | other
  deriving DecidableEq

namespace PlanInstance

/-- `Plan.clean`. -/
def clean (db : Db) (p : PlanInstance) : Except Err Unit :=
  cleanParent db.plans Plan.organizationId db.subscriptions Subscription.planId p.pk p.organization

/-- The row that a save of the plan inserts. -/
def newRow (p : PlanInstance) (organization : Option ℕ) : Except Err Plan := do
  let organizationId ← notNull "organization_id" organization
  return ⟨0, organizationId, p.name, p.price, p.currency, p.status, p.interval, p.trialPeriodDays⟩

/-- The stored plan with the columns that are written. -/
def merge (p : PlanInstance) (organization : Option ℕ) (written : PlanColumn → Bool)
    (stored : Plan) : Except Err Plan := do
  let organizationId ←
    savedKey "organization_id" (written .organization) organization stored.organizationId
  return { stored with
    organizationId := organizationId
    name := if written .name then p.name else stored.name
    price := if written .price then p.price else stored.price
    currency := if written .currency then p.currency else stored.currency
    status := if written .status then p.status else stored.status
    interval := if written .interval then p.interval else stored.interval
    trialPeriodDays :=
      if written .trialPeriodDays then p.trialPeriodDays else stored.trialPeriodDays }

/-- What `Plan.save` writes after its check. -/
def write (db : Db) (updateFields : Option (List PlanColumn)) (p : PlanInstance) :
    Except Err Db := do
  let organization ← p.organization.prepare "organization"
  let target ← saveTarget p.pk updateFields
  let plans ← saveRow db.plans "Plan" target (p.newRow organization) (p.merge organization)
    fun row => do
      checkLength "name" row.name 255
      checkAmount "price" row.price
      checkLength "currency" row.currency 3
  return { db with plans := plans }

/-- `Plan.save`. -/
def save (db : Db) (updateFields : Option (List PlanColumn)) (p : PlanInstance) :
    Except Err Db := do
  p.clean db
  p.write db updateFields

end PlanInstance

/-! ## Customers -/

/-- A `Customer` in memory. -/
structure CustomerInstance where
  pk : Option ℕ
  organization : ForeignKey
  providerCustomerId : String
  providerPaymentMethodId : String

/-- The columns of a customer; `other` stands for those that the rows leave out. -/
inductive CustomerColumn where
  | organization
  | providerCustomerId
  | providerPaymentMethodId
  | other
  deriving DecidableEq

namespace CustomerInstance

/-- `Customer.clean`. -/
def clean (db : Db) (c : CustomerInstance) : Except Err Unit :=
  cleanParent db.customers Customer.organizationId db.subscriptions Subscription.customerId c.pk
    c.organization

/-- The row that a save of the customer inserts. -/
def newRow (c : CustomerInstance) (organization : Option ℕ) : Except Err Customer := do
  let organizationId ← notNull "organization_id" organization
  return ⟨0, organizationId, c.providerCustomerId, c.providerPaymentMethodId⟩

/-- The stored customer with the columns that are written. -/
def merge (c : CustomerInstance) (organization : Option ℕ) (written : CustomerColumn → Bool)
    (stored : Customer) : Except Err Customer := do
  let organizationId ←
    savedKey "organization_id" (written .organization) organization stored.organizationId
  return { stored with
    organizationId := organizationId
    providerCustomerId :=
      if written .providerCustomerId then c.providerCustomerId else stored.providerCustomerId
    providerPaymentMethodId :=
      if written .providerPaymentMethodId then c.providerPaymentMethodId
      else stored.providerPaymentMethodId }

/-- What `Customer.save` writes after its check. -/
def write (db : Db) (updateFields : Option (List CustomerColumn)) (c : CustomerInstance) :
    Except Err Db := do
  let organization ← c.organization.prepare "organization"
  let target ← saveTarget c.pk updateFields
  let customers ← saveRow db.customers "Customer" target (c.newRow organization)
    (c.merge organization) fun row => do
      checkLength "provider_customer_id" row.providerCustomerId 255
      checkLength "provider_payment_method_id" row.providerPaymentMethodId 255
  return { db with customers := customers }

/-- `Customer.save`. -/
def save (db : Db) (updateFields : Option (List CustomerColumn)) (c : CustomerInstance) :
    Except Err Db := do
  c.clean db
  c.write db updateFields

end CustomerInstance

/-! ## Subscriptions -/

/-- A `Subscription` in memory. -/
structure SubscriptionInstance where
  pk : Option ℕ
  organization : ForeignKey
  customer : ForeignKey
  plan : ForeignKey
  status : SubscriptionStatus
  currentPeriodStart : DateTime
  currentPeriodEnd : DateTime
  canceledAt : Option DateTime
  canceledReason : Option CancellationReason

/-- The columns of a subscription; `other` stands for those that the rows leave out. -/
inductive SubscriptionColumn where
  | organization
  | customer
  | plan
  | status
  | currentPeriodStart
  | currentPeriodEnd
  | canceledAt
  | canceledReason
  | other
  deriving DecidableEq

namespace SubscriptionInstance

/-- `Subscription.clean`. -/
def clean (db : Db) (s : SubscriptionInstance) : Except Err SubscriptionInstance :=
  match s.customer.column, s.plan.column with
  | some customerId, some planId => do
    let customer ← fetch db.customers "Customer" customerId
    let plan ← fetch db.plans "Plan" planId
    ensure (plan.organizationId == customer.organizationId)
      (.validationError "Customer and plan must belong to the same organization.")
    let organization ← cleanRecord db.subscriptions Subscription.organizationId s.pk
      s.organization customer.organizationId
    return { s with organization := organization }
  | _, _ => .ok s

/-- The parents of the stored row, read under its lock. -/
def persistedParents (db : Db) (s : SubscriptionInstance) : Option (ℕ × ℕ) :=
  (s.pk.bind db.subscriptions.get?).map fun row => (row.customerId, row.planId)

/-- The parents of the instance are those of its stored row. -/
def KeepsParents (db : Db) (s : SubscriptionInstance) : Prop :=
  (s.persistedParents db).map (fun q => (some q.1, some q.2)) =
    some (s.customer.column, s.plan.column)

/-- Whether a subscription keeps its parents can be computed. -/
instance (db : Db) (s : SubscriptionInstance) : Decidable (s.KeepsParents db) := by
  unfold KeepsParents; infer_instance

/-- `Subscription.lock_parents`; a missing key finds no row. -/
def lockParents (db : Db) (customerId planId : Option ℕ) : Except Err Unit := do
  match customerId with
  | some n => let _ ← fetch db.customers "Customer" n
  | none => .error (.doesNotExist "Customer")
  match planId with
  | some n => let _ ← fetch db.plans "Plan" n
  | none => .error (.doesNotExist "Plan")

/-- The row that a save of the subscription inserts. -/
def newRow (s : SubscriptionInstance) (organization customer plan : Option ℕ) :
    Except Err Subscription := do
  let organizationId ← notNull "organization_id" organization
  let customerId ← notNull "customer_id" customer
  let planId ← notNull "plan_id" plan
  return ⟨0, organizationId, customerId, planId, s.status, s.currentPeriodStart, s.currentPeriodEnd,
    s.canceledAt, s.canceledReason⟩

/-- The stored subscription with the columns that are written. -/
def merge (s : SubscriptionInstance) (organization customer plan : Option ℕ)
    (written : SubscriptionColumn → Bool) (stored : Subscription) : Except Err Subscription := do
  let organizationId ←
    savedKey "organization_id" (written .organization) organization stored.organizationId
  let customerId ← savedKey "customer_id" (written .customer) customer stored.customerId
  let planId ← savedKey "plan_id" (written .plan) plan stored.planId
  return { stored with
    organizationId := organizationId
    customerId := customerId
    planId := planId
    status := if written .status then s.status else stored.status
    currentPeriodStart :=
      if written .currentPeriodStart then s.currentPeriodStart else stored.currentPeriodStart
    currentPeriodEnd :=
      if written .currentPeriodEnd then s.currentPeriodEnd else stored.currentPeriodEnd
    canceledAt := if written .canceledAt then s.canceledAt else stored.canceledAt
    canceledReason := if written .canceledReason then s.canceledReason else stored.canceledReason }

/-- What `Subscription.save` writes after its check. -/
def write (db : Db) (updateFields : Option (List SubscriptionColumn)) (s : SubscriptionInstance) :
    Except Err Db := do
  let organization ← s.organization.prepare "organization"
  let customer ← s.customer.prepare "customer"
  let plan ← s.plan.prepare "plan"
  let target ← saveTarget s.pk updateFields
  let subscriptions ← saveRow db.subscriptions "Subscription" target
    (s.newRow organization customer plan) (s.merge organization customer plan) fun row => do
      checkReference db.customers "customer_id" row.customerId
      checkReference db.plans "plan_id" row.planId
  return { db with subscriptions := subscriptions }

/-- `Subscription.save`: the parents are locked unless they are those of the stored row. -/
def save (db : Db) (updateFields : Option (List SubscriptionColumn)) (s : SubscriptionInstance) :
    Except Err Db := do
  if ¬ s.KeepsParents db then
    lockParents db s.customer.column s.plan.column
  let s ← s.clean db
  s.write db updateFields

end SubscriptionInstance

/-! ## Invoices -/

/-- An `Invoice` in memory. -/
structure InvoiceInstance where
  pk : Option ℕ
  organization : ForeignKey
  subscription : ForeignKey
  status : InvoiceStatus
  total : ℤ
  currency : String
  periodStart : DateTime
  periodEnd : DateTime
  issuedAt : Option DateTime
  paidAt : Option DateTime

/-- The columns of an invoice; `other` stands for those that the rows leave out. -/
inductive InvoiceColumn where
  | organization
  | subscription
  | status
  | total
  | currency
  | periodStart
  | periodEnd
  | issuedAt
  | paidAt
  | other
  deriving DecidableEq

namespace InvoiceInstance

/-- `Invoice.clean`. -/
def clean (db : Db) (i : InvoiceInstance) : Except Err InvoiceInstance :=
  match i.subscription.column with
  | some subscriptionId => do
    let subscription ← fetch db.subscriptions "Subscription" subscriptionId
    let organization ← cleanRecord db.invoices Invoice.organizationId i.pk i.organization
      subscription.organizationId
    return { i with organization := organization }
  | none => .ok i

/-- The row that a save of the invoice inserts. -/
def newRow (i : InvoiceInstance) (organization subscription : Option ℕ) : Except Err Invoice := do
  let organizationId ← notNull "organization_id" organization
  let subscriptionId ← notNull "subscription_id" subscription
  return ⟨0, organizationId, subscriptionId, i.status, i.total, i.currency, i.periodStart,
    i.periodEnd, i.issuedAt, i.paidAt⟩

/-- The stored invoice with the columns that are written. -/
def merge (i : InvoiceInstance) (organization subscription : Option ℕ)
    (written : InvoiceColumn → Bool) (stored : Invoice) : Except Err Invoice := do
  let organizationId ←
    savedKey "organization_id" (written .organization) organization stored.organizationId
  let subscriptionId ←
    savedKey "subscription_id" (written .subscription) subscription stored.subscriptionId
  return { stored with
    organizationId := organizationId
    subscriptionId := subscriptionId
    status := if written .status then i.status else stored.status
    total := if written .total then i.total else stored.total
    currency := if written .currency then i.currency else stored.currency
    periodStart := if written .periodStart then i.periodStart else stored.periodStart
    periodEnd := if written .periodEnd then i.periodEnd else stored.periodEnd
    issuedAt := if written .issuedAt then i.issuedAt else stored.issuedAt
    paidAt := if written .paidAt then i.paidAt else stored.paidAt }

/-- The constraints of the invoice table, for a row about to be written. -/
def checkRow (db : Db) (row : Invoice) : Except Err Unit := do
  checkAmount "total" row.total
  checkLength "currency" row.currency 3
  checkReference db.subscriptions "subscription_id" row.subscriptionId
  ensure (!db.invoices.any fun q => q.id != row.id && q.subscriptionId == row.subscriptionId &&
      q.periodStart == row.periodStart && q.periodEnd == row.periodEnd)
    (.integrityError "unique_invoice_per_subscription_period")

/-- What `Invoice.save` writes after its check. -/
def write (db : Db) (updateFields : Option (List InvoiceColumn)) (i : InvoiceInstance) :
    Except Err Db := do
  let organization ← i.organization.prepare "organization"
  let subscription ← i.subscription.prepare "subscription"
  let target ← saveTarget i.pk updateFields
  let invoices ← saveRow db.invoices "Invoice" target (i.newRow organization subscription)
    (i.merge organization subscription) (checkRow db)
  return { db with invoices := invoices }

/-- `Invoice.save`. -/
def save (db : Db) (updateFields : Option (List InvoiceColumn)) (i : InvoiceInstance) :
    Except Err Db := do
  let i ← i.clean db
  i.write db updateFields

end InvoiceInstance

/-! ## Invoice lines -/

/-- An `InvoiceLine` in memory. -/
structure LineInstance where
  pk : Option ℕ
  organization : ForeignKey
  invoice : ForeignKey
  description : String
  amount : ℤ

/-- The columns of an invoice line that `update_fields` may name. -/
inductive LineColumn where
  | organization
  | invoice
  | description
  | amount
  deriving DecidableEq

namespace LineInstance

/-- `InvoiceLine.clean`. -/
def clean (db : Db) (l : LineInstance) : Except Err LineInstance :=
  match l.invoice.column with
  | some invoiceId => do
    let invoice ← fetch db.invoices "Invoice" invoiceId
    let organization ← cleanRecord db.invoiceLines InvoiceLine.organizationId l.pk l.organization
      invoice.organizationId
    return { l with organization := organization }
  | none => .ok l

/-- The row that a save of the line inserts. -/
def newRow (l : LineInstance) (organization invoice : Option ℕ) : Except Err InvoiceLine := do
  let organizationId ← notNull "organization_id" organization
  let invoiceId ← notNull "invoice_id" invoice
  return ⟨0, organizationId, invoiceId, l.description, l.amount⟩

/-- The stored line with the columns that are written. -/
def merge (l : LineInstance) (organization invoice : Option ℕ) (written : LineColumn → Bool)
    (stored : InvoiceLine) : Except Err InvoiceLine := do
  let organizationId ←
    savedKey "organization_id" (written .organization) organization stored.organizationId
  let invoiceId ← savedKey "invoice_id" (written .invoice) invoice stored.invoiceId
  return { stored with
    organizationId := organizationId
    invoiceId := invoiceId
    description := if written .description then l.description else stored.description
    amount := if written .amount then l.amount else stored.amount }

/-- The constraints of the table of invoice lines, for a row about to be written. -/
def checkRow (db : Db) (row : InvoiceLine) : Except Err Unit := do
  checkLength "description" row.description 255
  checkAmount "amount" row.amount
  checkReference db.invoices "invoice_id" row.invoiceId

/-- What `InvoiceLine.save` writes after its check. -/
def write (db : Db) (updateFields : Option (List LineColumn)) (l : LineInstance) :
    Except Err Db := do
  let organization ← l.organization.prepare "organization"
  let invoice ← l.invoice.prepare "invoice"
  let target ← saveTarget l.pk updateFields
  let invoiceLines ← saveRow db.invoiceLines "InvoiceLine" target (l.newRow organization invoice)
    (l.merge organization invoice) (checkRow db)
  return { db with invoiceLines := invoiceLines }

/-- `InvoiceLine.save`. -/
def save (db : Db) (updateFields : Option (List LineColumn)) (l : LineInstance) :
    Except Err Db := do
  let l ← l.clean db
  l.write db updateFields

end LineInstance

/-! ## Payment attempts -/

/-- A `PaymentAttempt` in memory. -/
structure AttemptInstance where
  pk : Option ℕ
  organization : ForeignKey
  invoice : ForeignKey
  status : PaymentStatus
  amount : ℤ
  currency : String
  provider : String
  providerIdempotencyKey : String
  providerCustomerId : String
  providerPaymentMethodId : String
  providerChargeId : String
  providerResponse : Json
  idempotencyKey : Option String
  attemptedAt : DateTime
  needsReconciliation : Bool

/-- The columns of an attempt that `update_fields` may name. -/
inductive AttemptColumn where
  | organization
  | invoice
  | status
  | amount
  | currency
  | provider
  | providerIdempotencyKey
  | providerCustomerId
  | providerPaymentMethodId
  | providerChargeId
  | providerResponse
  | idempotencyKey
  | attemptedAt
  | needsReconciliation
  deriving DecidableEq

namespace AttemptInstance

/-- The instance has the request snapshot of a stored row.  Its organization is compared as it is in
memory, before it is set. -/
def sameSnapshot (p : AttemptInstance) (original : PaymentAttempt) : Bool :=
  p.organization.column == some original.organizationId &&
    p.invoice.column == some original.invoiceId && p.amount == original.amount &&
    p.currency == original.currency && p.provider == original.provider &&
    p.providerIdempotencyKey == original.providerIdempotencyKey &&
    p.providerCustomerId == original.providerCustomerId &&
    p.providerPaymentMethodId == original.providerPaymentMethodId &&
    p.idempotencyKey == original.idempotencyKey

/-- `PaymentAttempt.clean`. -/
def clean (db : Db) (p : AttemptInstance) : Except Err AttemptInstance :=
  match p.invoice.column with
  | some invoiceId => do
    let invoice ← fetch db.invoices "Invoice" invoiceId
    checkOrganization p.organization.column invoice.organizationId
    ensure ((p.pk.bind db.attempts.get?).all p.sameSnapshot)
      (.validationError "Payment request snapshots are immutable.")
    return { p with organization := p.organization.assign invoice.organizationId }
  | none => .ok p

/-- The row that a save of the attempt inserts. -/
def newRow (p : AttemptInstance) (organization invoice : Option ℕ) :
    Except Err PaymentAttempt := do
  let organizationId ← notNull "organization_id" organization
  let invoiceId ← notNull "invoice_id" invoice
  return ⟨0, organizationId, invoiceId, p.status, p.amount, p.currency, p.provider,
    p.providerIdempotencyKey, p.providerCustomerId, p.providerPaymentMethodId, p.providerChargeId,
    p.providerResponse, p.idempotencyKey, p.attemptedAt, p.needsReconciliation⟩

/-- The stored attempt with the columns that are written. -/
def merge (p : AttemptInstance) (organization invoice : Option ℕ) (written : AttemptColumn → Bool)
    (stored : PaymentAttempt) : Except Err PaymentAttempt := do
  let organizationId ←
    savedKey "organization_id" (written .organization) organization stored.organizationId
  let invoiceId ← savedKey "invoice_id" (written .invoice) invoice stored.invoiceId
  return { stored with
    organizationId := organizationId
    invoiceId := invoiceId
    status := if written .status then p.status else stored.status
    amount := if written .amount then p.amount else stored.amount
    currency := if written .currency then p.currency else stored.currency
    provider := if written .provider then p.provider else stored.provider
    providerIdempotencyKey :=
      if written .providerIdempotencyKey then p.providerIdempotencyKey
      else stored.providerIdempotencyKey
    providerCustomerId :=
      if written .providerCustomerId then p.providerCustomerId else stored.providerCustomerId
    providerPaymentMethodId :=
      if written .providerPaymentMethodId then p.providerPaymentMethodId
      else stored.providerPaymentMethodId
    providerChargeId :=
      if written .providerChargeId then p.providerChargeId else stored.providerChargeId
    providerResponse :=
      if written .providerResponse then p.providerResponse else stored.providerResponse
    idempotencyKey := if written .idempotencyKey then p.idempotencyKey else stored.idempotencyKey
    attemptedAt := if written .attemptedAt then p.attemptedAt else stored.attemptedAt
    needsReconciliation :=
      if written .needsReconciliation then p.needsReconciliation
      else stored.needsReconciliation }

/-- The constraints of the payment attempt table, for a row about to be written. -/
def checkRow (db : Db) (row : PaymentAttempt) : Except Err Unit := do
  row.checkLengths
  PaymentAttempt.checkConstraints db row
  checkReference db.invoices "invoice_id" row.invoiceId

/-- What `PaymentAttempt.save` writes after its check. -/
def write (db : Db) (updateFields : Option (List AttemptColumn)) (p : AttemptInstance) :
    Except Err Db := do
  let organization ← p.organization.prepare "organization"
  let invoice ← p.invoice.prepare "invoice"
  let target ← saveTarget p.pk updateFields
  let attempts ← saveRow db.attempts "PaymentAttempt" target (p.newRow organization invoice)
    (p.merge organization invoice) (checkRow db)
  return { db with attempts := attempts }

/-- `PaymentAttempt.save`. -/
def save (db : Db) (updateFields : Option (List AttemptColumn)) (p : AttemptInstance) :
    Except Err Db := do
  let p := { p with idempotencyKey := normalizeKey p.idempotencyKey }
  let p ← p.clean db
  p.write db updateFields

end AttemptInstance

end Chargeflow
