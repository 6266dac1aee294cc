import Chargeflow.Application.InvoiceService

/-!
# Subscription service

The operations of `SubscriptionService`, and the handlers the renewal and activation cycles run for
one subscription.  Where a method reads the clock more than once, each reading is an argument of its
own, in the order of the readings.
-/

namespace Chargeflow

open Foundation

namespace SubscriptionService

/-- `_add_months`: the same day and time some months later, moved back to the end of a shorter
month. -/
def addMonths (dt : DateTime) (months : ℕ) : Except Err DateTime :=
  let total := dt.date.month - 1 + months
  let year := dt.date.year + total / 12
  let month := total % 12 + 1
  let day := min dt.date.day (daysInMonth year month)
  match Date.ofYmd? year month day with
  | some date => .ok (dt.onDate date)
  | none => .error (.valueError ("year " ++ toString year ++ " is out of range"))

/-- The addition of `timedelta(days=n)`, which holds at most 999999999 days. -/
def addDays (dt : DateTime) (n : ℕ) : Except Err DateTime :=
  if 999999999 < n then
    .error (.overflowError ("days=" ++ toString n ++ "; must have magnitude <= 999999999"))
  else
    match dt.addDays n with
    | some t => .ok t
    | none => .error (.overflowError "date value out of range")

/-- `_compute_period_end`. -/
def computePeriodEnd (start : DateTime) (plan : Plan) : Except Err DateTime :=
  match plan.interval with
  | .day => addDays start 1
  | .week => addDays start 7
  | .month => addMonths start 1
  | .year => addMonths start 12
  | .other _ => addDays start 30

/-- `create`: a subscription starts with a trial if the plan has one, and is billed at once
otherwise. -/
def create (db : Db) (customerId planId : ℕ) (now issuedAt : DateTime) :
    Except Err (Db × Subscription) := do
  let (customer, plan) ← Subscription.lockParents db customerId planId
  ensure (customer.organizationId == plan.organizationId)
    (.valueError "Customer and plan must belong to the same organization.")
  ensure (plan.status == .active)
    (.valueError ("Cannot subscribe to a plan with status '" ++ plan.status.value ++ "'"))
  let hasTrial : Bool := decide (0 < plan.trialPeriodDays)
  let periodEnd ←
    if hasTrial then addDays now plan.trialPeriodDays.toNat else computePeriodEnd now plan
  let (db, subscription) ← Subscription.create db
    { id := 0
      organizationId := 0
      customerId := customerId
      planId := planId
      status := if hasTrial then .trial else .active
      currentPeriodStart := now
      currentPeriodEnd := periodEnd
      canceledAt := none
      canceledReason := none }
  let (db, _) ← InvoiceService.generateForSubscription db subscription.id issuedAt
  return (db, subscription)

/-- `is_due_for_renewal`. -/
def isDueForRenewal (subscription : Subscription) (now : DateTime) : Bool :=
  subscription.status == .active && decide (subscription.currentPeriodEnd ≤ now)

/-- `is_trial_to_activate`. -/
def isTrialToActivate (subscription : Subscription) : Bool := subscription.status == .trial

/-- The new billing period, starting now, and the invoice for it. -/
def startPeriod (db : Db) (subscription : Subscription) (plan : Plan) (now issuedAt : DateTime) :
    Except Err Db := do
  let periodEnd ← computePeriodEnd now plan
  let db ← Subscription.save db [.currentPeriodStart, .currentPeriodEnd]
    { subscription with currentPeriodStart := now, currentPeriodEnd := periodEnd }
  let (db, _) ← InvoiceService.generateForSubscription db subscription.id issuedAt
  return db

/-- `activate`: it ends a trial, and only a trial. -/
def activate (db : Db) (subscriptionId : ℕ) (now issuedAt : DateTime) : Except Err Db := do
  let subscription ← fetch db.subscriptions "Subscription" subscriptionId
  let plan ← fetch db.plans "Plan" subscription.planId
  ensure (isTrialToActivate subscription)
    (.valueError ("Cannot activate subscription with status '" ++ subscription.status.value ++ "'"))
  let (db, subscription) ← subscription.transitionTo db .active now
  startPeriod db subscription plan now issuedAt

/-- `mark_overdue`. -/
def markOverdue (db : Db) (subscriptionId : ℕ) (now : DateTime) : Except Err Db := do
  let subscription ← fetch db.subscriptions "Subscription" subscriptionId
  if subscription.status ≠ .active then
    return db
  let (db, _) ← subscription.transitionTo db .overdue now
  return db

/-- `reactivate`: only OVERDUE to ACTIVE, and only once no failed invoices are left. -/
def reactivate (db : Db) (subscriptionId : ℕ) (now : DateTime) : Except Err Db := do
  let subscription ← fetch db.subscriptions "Subscription" subscriptionId
  if subscription.status ≠ .overdue then
    return db
  if db.invoices.any (fun i => i.subscriptionId == subscription.id &&
      (i.status == .failed || i.status == .overdue)) then
    return db
  match subscription.transitionTo db .active now with
  | .ok (db, _) => return db
  | .error (.invalidStatusTransition _) => return db
  | .error e => .error e

/-- `cancel`: the subscription, and then its open invoices. -/
def cancel (db : Db) (subscriptionId : ℕ) (reason : CancellationReason) (now : DateTime) :
    Except Err Db := do
  let subscription ← fetch db.subscriptions "Subscription" subscriptionId
  let (db, subscription) ← subscription.transitionTo db .canceled now
  let db ← Subscription.save db [.canceledReason]
    { subscription with canceledReason := some reason }
  InvoiceService.cancelOpenForSubscription db subscription.id now

/-- `renew`: locked and rechecked, since a second renewal would bill another period. -/
def renew (db : Db) (subscriptionId : ℕ) (checkedAt now issuedAt : DateTime) : Except Err Db := do
  let subscription ← fetch db.subscriptions "Subscription" subscriptionId
  let plan ← fetch db.plans "Plan" subscription.planId
  ensure (subscription.status == .active)
    (.valueError ("Cannot renew subscription with status '" ++ subscription.status.value ++ "'"))
  ensure (isDueForRenewal subscription checkedAt)
    (.valueError "Cannot renew a subscription before its period has ended")
  startPeriod db subscription plan now issuedAt

/-- `_renew_if_still_due`, the handler of the renewal cycle. -/
def renewIfStillDue (db : Db) (subscriptionId : ℕ)
    (listedAt checkedAt now issuedAt : DateTime) : Except Err Db := do
  let subscription ← fetch db.subscriptions "Subscription" subscriptionId
  if isDueForRenewal subscription listedAt then
    renew db subscriptionId checkedAt now issuedAt
  else
    return db

/-- `_activate_if_still_expired`, the handler of the activation cycle. -/
def activateIfStillExpired (db : Db) (subscriptionId : ℕ) (checkedAt now issuedAt : DateTime) :
    Except Err Db := do
  let subscription ← fetch db.subscriptions "Subscription" subscriptionId
  if !isTrialToActivate subscription then
    return db
  else if checkedAt < subscription.currentPeriodEnd then
    return db
  else
    activate db subscriptionId now issuedAt

end SubscriptionService

end Chargeflow
