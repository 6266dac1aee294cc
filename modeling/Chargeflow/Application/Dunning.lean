import Chargeflow.Application.PaymentService

/-!
# Dunning and reconciliation

The scheduled tasks on invoices: `dunInvoice` reissues a failed invoice or gives it up, and the two
queries of `reconcile_stuck` look for charges that nobody finishes.
-/

namespace Chargeflow

open Foundation

/-- `MAX_DUNNING_ATTEMPTS`. -/
def maxDunningAttempts : ℕ := 3

/-- `STUCK_CHARGE_AFTER`, ten minutes, in microseconds. -/
def stuckChargeAfter : ℕ := 600000000

/-- `_dun_invoice`, one turn of a dunning cycle. -/
def dunInvoice (db : Db) (invoiceId : ℕ) (now : DateTime) : Except Err Db := do
  let invoice ← fetch db.invoices "Invoice" invoiceId
  let subscription ← fetch db.subscriptions "Subscription" invoice.subscriptionId
  if invoice.status ≠ .failed then
    return db
  let failedCharges := (db.attempts.filter fun p =>
    p.invoiceId == invoice.id && p.status == .failed).length
  if maxDunningAttempts ≤ failedCharges then
    let db ← InvoiceService.markOverdue db invoice.id now
    if subscription.status ≠ .canceled then
      SubscriptionService.cancel db subscription.id .nonPayment now
    else
      return db
  else
    InvoiceService.reissueForRetry db invoice.id now

/-- The query of `run_dunning`: the FAILED invoices. -/
def failedIds (db : Db) : List ℕ :=
  (db.invoices.filter fun i => i.status == .failed).map Invoice.id

/-- A point in time lies at least `stuckChargeAfter` before `now`. -/
def StuckSince (t now : DateTime) : Prop := t.instant + stuckChargeAfter ≤ now.instant

/-- Whether ten minutes have passed can be computed. -/
instance (t now : DateTime) : Decidable (StuckSince t now) := by
  unfold StuckSince; infer_instance

/-- The first query of `reconcile_stuck`: the PENDING attempts to recover. -/
def pendingIds (db : Db) (now : DateTime) : List ℕ :=
  (db.attempts.filter fun p =>
    p.status == .pending && !p.needsReconciliation && decide (StuckSince p.attemptedAt now)).map
    PaymentAttempt.id

/-- The second query of `reconcile_stuck`: the ISSUED invoices nobody charges. -/
def stuckIds (db : Db) (now : DateTime) : List ℕ :=
  (db.invoices.filter fun i =>
    i.status == .issued && i.issuedAt.any (fun t => decide (StuckSince t now)) &&
      !db.attempts.any fun p =>
        p.invoiceId == i.id && PaymentService.sinceIssue i p).map Invoice.id

/-- The hand-offs of `reconcile_stuck`. -/
def handOffStuck (db : Db) (now : DateTime) : Db :=
  { db with chargeTasks := db.chargeTasks ++ stuckIds db now }

end Chargeflow
