import Chargeflow.Persistence

/-!
# Invoice service

The operations of `InvoiceService`.  Every method reads its row again under the lock; the argument
is the key of the row.  The clock readings of a method are its last arguments.
-/

namespace Chargeflow

open Foundation

namespace InvoiceService

/-- The text of the one line of a generated invoice. -/
def lineDescription (plan : Plan) (subscription : Subscription) : String :=
  plan.name ++ " (" ++ subscription.currentPeriodStart.date.isoFormat ++ " - " ++
    subscription.currentPeriodEnd.date.isoFormat ++ ")"

/-- The invoice `generate_for_subscription` creates, before it is saved. -/
def draftInvoice (plan : Plan) (subscription : Subscription) : Invoice where
  id := 0
  organizationId := 0
  subscriptionId := subscription.id
  status := .draft
  total := plan.price
  currency := plan.currency
  periodStart := subscription.currentPeriodStart
  periodEnd := subscription.currentPeriodEnd
  issuedAt := none
  paidAt := none

/-- The hand-off of a charge to the worker, made when the transaction commits. -/
def handOff (db : Db) (invoiceId : ℕ) : Db :=
  { db with chargeTasks := db.chargeTasks ++ [invoiceId] }

/-- `generate_for_subscription`: only ACTIVE subscriptions are billed, and each of their periods
once. -/
def generateForSubscription (db : Db) (subscriptionId : ℕ) (now : DateTime) :
    Except Err (Db × Option Invoice) := do
  let subscription ← fetch db.subscriptions "Subscription" subscriptionId
  let plan ← fetch db.plans "Plan" subscription.planId
  if subscription.status ≠ .active then
    return (db, none)
  match db.invoices.filter (fun i => i.subscriptionId == subscription.id &&
      i.periodStart == subscription.currentPeriodStart &&
      i.periodEnd == subscription.currentPeriodEnd) with
  | invoice :: _ => return (db, some invoice)
  | [] =>
    let (db, invoice) ← Invoice.create db (draftInvoice plan subscription)
    let db ← InvoiceLine.create db
      { id := 0
        organizationId := 0
        invoiceId := invoice.id
        description := lineDescription plan subscription
        amount := plan.price }
    let (db, invoice) ← invoice.transitionTo db .issued now
    return (handOff db invoice.id, some invoice)

/-- `mark_paid`. -/
def markPaid (db : Db) (invoiceId : ℕ) (now : DateTime) : Except Err Db := do
  let invoice ← fetch db.invoices "Invoice" invoiceId
  if invoice.status = .paid then
    return db
  let (db, _) ← invoice.transitionTo db .paid now
  return db

/-- `mark_failed`: dunning has already given up on an OVERDUE invoice, which stays OVERDUE. -/
def markFailed (db : Db) (invoiceId : ℕ) (now : DateTime) : Except Err Db := do
  let invoice ← fetch db.invoices "Invoice" invoiceId
  if invoice.status ≠ .issued then
    return db
  let (db, _) ← invoice.transitionTo db .failed now
  return db

/-- The statuses in which an invoice is still pursued. -/
def openInvoiceStatuses : List InvoiceStatus := [.draft, .issued, .failed]

/-- `cancel_open_for_subscription`: the open invoices of a subscription, one after the other. -/
def cancelOpenForSubscription (db : Db) (subscriptionId : ℕ) (now : DateTime) : Except Err Db :=
  (db.invoices.filter fun i =>
    i.subscriptionId == subscriptionId && decide (i.status ∈ openInvoiceStatuses)).foldlM
    (fun db invoice => do
      let (db, _) ← invoice.transitionTo db .canceled now
      return db) db

/-- `mark_overdue`. -/
def markOverdue (db : Db) (invoiceId : ℕ) (now : DateTime) : Except Err Db := do
  let invoice ← fetch db.invoices "Invoice" invoiceId
  if invoice.status ≠ .failed then
    return db
  let (db, _) ← invoice.transitionTo db .overdue now
  return db

/-- `reissue_for_retry`: only FAILED invoices are reissued. -/
def reissueForRetry (db : Db) (invoiceId : ℕ) (now : DateTime) : Except Err Db := do
  let invoice ← fetch db.invoices "Invoice" invoiceId
  if invoice.status ≠ .failed then
    return db
  let (db, _) ← invoice.transitionTo db .issued now
  return handOff db invoiceId

end InvoiceService

end Chargeflow
