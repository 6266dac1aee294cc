import Chargeflow.Application.Dunning
import Chargeflow.Instances
import Chargeflow.Foundation.LockPrograms

/-!
# The row locks of the services

The services statement by statement: their queries and writes, the locks these take, the rows and
the unique keys they insert, and the foreign keys that are checked at the commit.  What a statement
finds and writes is what the same step of the services does in one piece.  An UPDATE locks its row
`FOR NO KEY UPDATE`.

Primary keys come from a sequence, and no two insertions draw the same.  An instance may have a key
without a row when the insertion that drew the key was rolled back; no other transaction inserts it.
-/

namespace Chargeflow

open Foundation

/-- The rows and the unique keys that transactions lock. -/
inductive Resource where
  /-- `unique_provider_event`. -/
  | webhookKey (provider providerEventId : String)
  | webhookEvent (id : ℕ)
  | subscription (id : ℕ)
  | customer (id : ℕ)
  | plan (id : ℕ)
  /-- `unique_invoice_per_subscription_period`. -/
  | invoiceKey (subscriptionId : ℕ) (periodStart periodEnd : DateTime)
  | invoice (id : ℕ)
  | organization (id : ℕ)
  /-- `unique_project_payment_key`. -/
  | paymentKey (organizationId : ℕ) (idempotencyKey : String)
  /-- `unique_provider_payment_key`. -/
  | providerKey (provider providerIdempotencyKey : String)
  | attempt (id : ℕ)
  /-- `unique_provider_charge`. -/
  | chargeKey (provider providerChargeId : String)
  /-- `one_success_per_invoice`. -/
  | successKey (invoiceId : ℕ)
  deriving DecidableEq

/-- A transaction of the billing services. -/
abbrev Transaction (α : Type) := Program Resource Db Err α

namespace Locking

open Program

/-! ## Subscriptions -/

/-- `Subscription.transition_to`. -/
def Subscription.transitionTo (s : Chargeflow.Subscription) (newStatus : SubscriptionStatus)
    (now : DateTime) : Transaction Chargeflow.Subscription := do
  if newStatus ∈ subscriptionTransitions s.status then
    lockRow (.subscription s.id) .noKeyUpdate
  exec fun db => s.transitionTo db newStatus now

/-- `SELECT ... FOR SHARE`, on a row that may be missing. -/
def shareRow (r : Resource) (stored : Db → Bool) : Transaction Unit := do
  if ← view stored then
    lockRow r .share

/-- The first two statements of `Subscription.lock_parents`. -/
def shareParents (customerId planId : Option ℕ) : Transaction Unit := do
  if let some n := customerId then
    shareRow (.customer n) fun db => (db.customers.get? n).isSome
  if let some n := planId then
    shareRow (.plan n) fun db => (db.plans.get? n).isSome

/-- The stored row of an instance, read under its lock. -/
def persisted (pk : Option ℕ) : Transaction (Option Chargeflow.Subscription) := do
  match pk with
  | none => return none
  | some n =>
    if ← view fun db => (db.subscriptions.get? n).isSome then
      lockRow (.subscription n) .update
      view fun db => db.subscriptions.get? n
    else
      return none

/-- The begin of `Subscription.save`: the stored row is locked first, and then the parents unless
they are those of the row. -/
def lockForSave (pk customerId planId : Option ℕ) :
    Transaction (Option Chargeflow.Subscription) := do
  let stored ← persisted pk
  if stored.map (fun row => (some row.customerId, some row.planId)) ≠
      some (customerId, planId) then
    shareParents customerId planId
    read fun db => SubscriptionInstance.lockParents db customerId planId
  return stored

/-- A foreign key of a row that is written. -/
def checkKey (r : ℕ → Resource) : Option ℕ → Transaction Unit
  | some n => checkAtCommit (r n)
  | none => return ()

/-- `Subscription.objects.create`. -/
def Subscription.create (s : Chargeflow.Subscription) : Transaction Chargeflow.Subscription := do
  let _ ← lockForSave none (some s.customerId) (some s.planId)
  let s ← exec fun db => Chargeflow.Subscription.create db s
  insertRow (.subscription s.id)
  checkAtCommit (.organization s.organizationId)
  checkAtCommit (.customer s.customerId)
  checkAtCommit (.plan s.planId)
  return s

/-- `Subscription.save(update_fields=...)` in the services, which leaves the foreign keys alone. -/
def Subscription.save (fields : List SubscriptionField) (s : Chargeflow.Subscription) :
    Transaction Unit := do
  let _ ← lockForSave (some s.id) (some s.customerId) (some s.planId)
  lockRow (.subscription s.id) .noKeyUpdate
  update fun db => Chargeflow.Subscription.save db fields s

/-- The keys of the parents of an instance, as far as `written` says. -/
def checkParents (s : SubscriptionInstance) (written : SubscriptionColumn → Option ℕ → Bool) :
    Transaction Unit := do
  checkKey .organization (s.organization.value.filter fun n => written .organization n)
  checkKey .customer (s.customer.value.filter fun n => written .customer n)
  checkKey .plan (s.plan.value.filter fun n => written .plan n)

/-- The foreign key of an updated row is checked when it changes. -/
def keyChanges (row : Chargeflow.Subscription) : SubscriptionColumn → Option ℕ → Bool
  | .organization, n => n != some row.organizationId
  | .customer, n => n != some row.customerId
  | .plan, n => n != some row.planId
  | _, _ => false

/-- `Subscription.save`.  An instance with a key but without a row is inserted under its key, unless
only some columns are to be written. -/
def SubscriptionInstance.save (updateFields : Option (List SubscriptionColumn))
    (s : Chargeflow.SubscriptionInstance) : Transaction Unit := do
  let stored ← lockForSave s.pk s.customer.column s.plan.column
  let s ← read fun db => s.clean db
  match saveTarget s.pk updateFields, stored with
  | .ok .newRow, _ =>
    let n ← exec fun db => (s.write db updateFields).map (·, db.subscriptions.next)
    insertRow (.subscription n)
    checkParents s fun _ _ => true
  | .ok (.storedRow n written), some row =>
    lockRow (.subscription n) .noKeyUpdate
    update fun db => s.write db updateFields
    checkParents s fun column key => written column && keyChanges row column key
  | .ok (.storedRow n _), none =>
    -- an UPDATE that finds no row fails, and a save without `update_fields` inserts one
    if updateFields.isSome then
      update fun db => s.write db updateFields
    else
      insertRow (.subscription n)
      checkParents s fun _ _ => true
  | _, _ => update fun db => s.write db updateFields

/-! ## Invoices -/

/-- `Subscription.objects.select_for_update().get(pk=...)`. -/
def getSubscription (n : ℕ) : Transaction Chargeflow.Subscription :=
  readForUpdate (.subscription n) fun db => fetch db.subscriptions "Subscription" n

/-- `Invoice.objects.select_for_update().get(pk=...)`. -/
def getInvoice (n : ℕ) : Transaction Chargeflow.Invoice :=
  readForUpdate (.invoice n) fun db => fetch db.invoices "Invoice" n

/-- `Invoice.transition_to`. -/
def Invoice.transitionTo (i : Chargeflow.Invoice) (newStatus : InvoiceStatus) (now : DateTime) :
    Transaction Chargeflow.Invoice := do
  if newStatus ∈ invoiceTransitions i.status then
    lockRow (.invoice i.id) .noKeyUpdate
  exec fun db => i.transitionTo db newStatus now

/-- `Invoice.objects.create` and `InvoiceLine.objects.create` of a generated invoice. -/
def insertInvoice (subscription : Chargeflow.Subscription) (plan : Plan) :
    Transaction Chargeflow.Invoice := do
  let invoice ← exec fun db => Chargeflow.Invoice.create db
    (InvoiceService.draftInvoice plan subscription)
  insertRow (.invoice invoice.id)
  checkAtCommit (.organization invoice.organizationId)
  checkAtCommit (.subscription invoice.subscriptionId)
  update fun db => InvoiceLine.create db
    { id := 0
      organizationId := 0
      invoiceId := invoice.id
      description := InvoiceService.lineDescription plan subscription
      amount := plan.price }
  checkAtCommit (.organization invoice.organizationId)
  checkAtCommit (.invoice invoice.id)
  return invoice

/-- The invoices of the current period of a subscription. -/
def periodInvoices (subscription : Chargeflow.Subscription) (db : Db) : List Chargeflow.Invoice :=
  db.invoices.filter fun i => i.subscriptionId == subscription.id &&
    i.periodStart == subscription.currentPeriodStart &&
    i.periodEnd == subscription.currentPeriodEnd

/-- `InvoiceService.generate_for_subscription`; when `get_or_create` finds the key of the period
taken, it reads the invoice again. -/
def InvoiceService.generateForSubscription (subscriptionId : ℕ) (now : DateTime) :
    Transaction (Option Chargeflow.Invoice) := do
  let subscription ← getSubscription subscriptionId
  let plan ← read fun db => fetch db.plans "Plan" subscription.planId
  if subscription.status ≠ .active then
    return none
  match ← view (periodInvoices subscription) with
  | invoice :: _ => return some invoice
  | [] =>
    if ← insertKey (.invoiceKey subscription.id subscription.currentPeriodStart
        subscription.currentPeriodEnd) then
      let invoice ← insertInvoice subscription plan
      let invoice ← Invoice.transitionTo invoice .issued now
      update fun db => .ok (InvoiceService.handOff db invoice.id)
      return some invoice
    else
      match ← view (periodInvoices subscription) with
      | invoice :: _ => return some invoice
      | [] => fail (.integrityError "unique_invoice_per_subscription_period")

/-- `InvoiceService.mark_paid`. -/
def InvoiceService.markPaid (invoiceId : ℕ) (now : DateTime) : Transaction Unit := do
  let invoice ← getInvoice invoiceId
  if invoice.status = .paid then
    return
  let _ ← Invoice.transitionTo invoice .paid now

/-- `InvoiceService.mark_failed`. -/
def InvoiceService.markFailed (invoiceId : ℕ) (now : DateTime) : Transaction Unit := do
  let invoice ← getInvoice invoiceId
  if invoice.status ≠ .issued then
    return
  let _ ← Invoice.transitionTo invoice .failed now

/-- `InvoiceService.mark_overdue`. -/
def InvoiceService.markOverdue (invoiceId : ℕ) (now : DateTime) : Transaction Unit := do
  let invoice ← getInvoice invoiceId
  if invoice.status ≠ .failed then
    return
  let _ ← Invoice.transitionTo invoice .overdue now

/-- `InvoiceService.reissue_for_retry`. -/
def InvoiceService.reissueForRetry (invoiceId : ℕ) (now : DateTime) : Transaction Unit := do
  let invoice ← getInvoice invoiceId
  if invoice.status ≠ .failed then
    return
  let _ ← Invoice.transitionTo invoice .issued now
  update fun db => .ok (InvoiceService.handOff db invoiceId)

/-- The open invoices of a subscription. -/
def openInvoices (subscriptionId : ℕ) (db : Db) : List Chargeflow.Invoice :=
  db.invoices.filter fun i =>
    i.subscriptionId == subscriptionId && decide (i.status ∈ InvoiceService.openInvoiceStatuses)

/-- `InvoiceService.cancel_open_for_subscription`: the rows that the query finds are locked one
after the other, and those that are no longer open are dropped. -/
def InvoiceService.cancelOpenForSubscription (subscriptionId : ℕ) (now : DateTime) :
    Transaction Unit := do
  let seen ← view fun db => (openInvoices subscriptionId db).map Invoice.id
  seen.forM fun n => lockRow (.invoice n) .update
  let locked ← view fun db => (openInvoices subscriptionId db).filter fun i => decide (i.id ∈ seen)
  locked.forM fun i => do
    let _ ← Invoice.transitionTo i .canceled now

/-! ## The subscription service -/

/-- `select_for_update().select_related("plan").get(pk=...)`: the subscription and the plan that the
query found are locked, and the row is returned if it still has this plan. -/
def getSubscriptionWithPlan (n : ℕ) : Transaction (Chargeflow.Subscription × Plan) := do
  let seen ← read fun db => fetch db.subscriptions "Subscription" n
  let _ ← read fun db => fetch db.plans "Plan" seen.planId
  lockRow (.subscription n) .update
  lockRow (.plan seen.planId) .update
  let subscription ← read fun db => fetch db.subscriptions "Subscription" n
  raising (ensure (subscription.planId == seen.planId) (.doesNotExist "Subscription"))
  let plan ← read fun db => fetch db.plans "Plan" subscription.planId
  return (subscription, plan)

/-- `SubscriptionService.create`. -/
def SubscriptionService.create (customerId planId : ℕ) (now issuedAt : DateTime) :
    Transaction Chargeflow.Subscription := do
  shareParents (some customerId) (some planId)
  let (customer, plan) ← read fun db => Subscription.lockParents db customerId planId
  raising (ensure (customer.organizationId == plan.organizationId)
    (.valueError "Customer and plan must belong to the same organization."))
  raising (ensure (plan.status == .active)
    (.valueError ("Cannot subscribe to a plan with status '" ++ plan.status.value ++ "'")))
  let hasTrial : Bool := decide (0 < plan.trialPeriodDays)
  let periodEnd ← raising
    (if hasTrial then SubscriptionService.addDays now plan.trialPeriodDays.toNat
      else SubscriptionService.computePeriodEnd now plan)
  let subscription ← Subscription.create
    { id := 0
      organizationId := 0
      customerId := customerId
      planId := planId
      status := if hasTrial then .trial else .active
      currentPeriodStart := now
      currentPeriodEnd := periodEnd
      canceledAt := none
      canceledReason := none }
  let _ ← InvoiceService.generateForSubscription subscription.id issuedAt
  return subscription

/-- The new billing period, and the invoice for it. -/
def SubscriptionService.startPeriod (subscription : Chargeflow.Subscription) (plan : Plan)
    (now issuedAt : DateTime) : Transaction Unit := do
  let periodEnd ← raising (SubscriptionService.computePeriodEnd now plan)
  Subscription.save [.currentPeriodStart, .currentPeriodEnd]
    { subscription with currentPeriodStart := now, currentPeriodEnd := periodEnd }
  let _ ← InvoiceService.generateForSubscription subscription.id issuedAt

/-- `SubscriptionService.activate`. -/
def SubscriptionService.activate (subscriptionId : ℕ) (now issuedAt : DateTime) :
    Transaction Unit := do
  let (subscription, plan) ← getSubscriptionWithPlan subscriptionId
  raising (ensure (SubscriptionService.isTrialToActivate subscription) (.valueError
    ("Cannot activate subscription with status '" ++ subscription.status.value ++ "'")))
  let subscription ← Subscription.transitionTo subscription .active now
  SubscriptionService.startPeriod subscription plan now issuedAt

/-- `SubscriptionService.renew`. -/
def SubscriptionService.renew (subscriptionId : ℕ) (checkedAt now issuedAt : DateTime) :
    Transaction Unit := do
  let (subscription, plan) ← getSubscriptionWithPlan subscriptionId
  raising (ensure (subscription.status == .active)
    (.valueError ("Cannot renew subscription with status '" ++ subscription.status.value ++ "'")))
  raising (ensure (SubscriptionService.isDueForRenewal subscription checkedAt)
    (.valueError "Cannot renew a subscription before its period has ended"))
  SubscriptionService.startPeriod subscription plan now issuedAt

/-- `SubscriptionService.mark_overdue`. -/
def SubscriptionService.markOverdue (subscriptionId : ℕ) (now : DateTime) : Transaction Unit := do
  let subscription ← getSubscription subscriptionId
  if subscription.status ≠ .active then
    return
  let _ ← Subscription.transitionTo subscription .overdue now

/-- `SubscriptionService.reactivate`; a refused transition is ignored. -/
def SubscriptionService.reactivate (subscriptionId : ℕ) (now : DateTime) : Transaction Unit := do
  let subscription ← getSubscription subscriptionId
  if subscription.status ≠ .overdue then
    return
  if ← view fun db => db.invoices.any fun i => i.subscriptionId == subscription.id &&
      (i.status == .failed || i.status == .overdue) then
    return
  lockRow (.subscription subscription.id) .noKeyUpdate
  update fun db =>
    match subscription.transitionTo db .active now with
    | .ok (db, _) => .ok db
    | .error (.invalidStatusTransition _) => .ok db
    | .error e => .error e

/-- `SubscriptionService.cancel`. -/
def SubscriptionService.cancel (subscriptionId : ℕ) (reason : CancellationReason)
    (now : DateTime) : Transaction Unit := do
  let subscription ← getSubscription subscriptionId
  let subscription ← Subscription.transitionTo subscription .canceled now
  Subscription.save [.canceledReason] { subscription with canceledReason := some reason }
  InvoiceService.cancelOpenForSubscription subscription.id now

/-! ## Payments -/

/-- The insertion of a unique key that must be free. -/
def insertUnique (r : Resource) (constraint : String) : Transaction Unit := do
  if !(← insertKey r) then
    fail (.integrityError constraint)

/-- The unique keys of a PENDING attempt without a charge id. -/
def PaymentAttempt.insertKeys (organizationId : ℕ) (p : Chargeflow.PaymentAttempt) :
    Transaction Unit := do
  if let some idempotencyKey := normalizeKey p.idempotencyKey then
    insertUnique (.paymentKey organizationId idempotencyKey) "unique_project_payment_key"
  insertUnique (.providerKey p.provider p.providerIdempotencyKey) "unique_provider_payment_key"

/-- `PaymentAttempt.objects.create` of a PENDING attempt without a charge id. -/
def PaymentAttempt.create (p : Chargeflow.PaymentAttempt) :
    Transaction Chargeflow.PaymentAttempt := do
  let invoice ← read fun db => fetch db.invoices "Invoice" p.invoiceId
  PaymentAttempt.insertKeys invoice.organizationId p
  let payment ← exec fun db => Chargeflow.PaymentAttempt.create db p
  insertRow (.attempt payment.id)
  checkAtCommit (.organization payment.organizationId)
  checkAtCommit (.invoice payment.invoiceId)
  return payment

/-- `PaymentAttempt.save(update_fields=...)` of a stored attempt.  Its foreign keys stay, and a
charge id that is written is the stored one, except in `bindChargeId`. -/
def PaymentAttempt.save (fields : List PaymentField) (p : Chargeflow.PaymentAttempt) :
    Transaction Unit := do
  lockRow (.attempt p.id) .noKeyUpdate
  if .status ∈ fields ∧ p.status = .success then
    insertUnique (.successKey p.invoiceId) "one_success_per_invoice"
  update fun db => Chargeflow.PaymentAttempt.save db fields p

namespace PaymentService

open Chargeflow.PaymentService

/-- The part of `_prepare` after the replay of a client key. -/
def prepareAttempt (subscription : Chargeflow.Subscription) (invoice : Chargeflow.Invoice)
    (idempotencyKey : Option String) (providerKey : String) (now : DateTime) :
    Transaction (Option Chargeflow.PaymentAttempt × Bool) := do
  if ¬ invoice.Payable then
    match ← view fun db => firstAttempt db invoice fun p => p.status == .pending with
    | some pending => return (some pending, !pending.needsReconciliation)
    | none =>
      fail (.invoiceNotPayable
        ("Cannot attempt payment on invoice in status '" ++ invoice.status.value ++ "'"))
  else
    match ← view fun db =>
        if invoice.status = .issued then firstAttempt db invoice (sinceIssue invoice) else none with
    | some thisIssue =>
      raising (ensure (idempotencyKey.isNone || thisIssue.idempotencyKey == idempotencyKey)
        (.idempotencyConflict "This invoice already has a payment attempt for this issue."))
      return (some thisIssue, chargeable thisIssue)
    | none =>
      match ← view fun db =>
          firstAttempt db invoice fun p => p.status == .pending || p.status == .success with
      | some existing => return (some existing, chargeable existing)
      | none =>
        raising (ensure (subscription.status != .canceled)
          (.invoiceNotPayable "Cannot charge a canceled subscription."))
        let customer ← read fun db => fetch db.customers "Customer" subscription.customerId
        let payment ← PaymentAttempt.create
          (newAttempt invoice customer idempotencyKey providerKey now)
        return (some payment, true)

/-- The part of `_prepare` under the locks: the attempt with the client key, or `prepareAttempt`. -/
def replayOrPrepare (subscription : Chargeflow.Subscription) (invoice : Chargeflow.Invoice)
    (idempotencyKey : Option String) (providerKey : String) (now : DateTime) :
    Transaction (Option Chargeflow.PaymentAttempt × Bool) := do
  match ← view fun db => idempotencyKey.bind (findReplay db invoice.organizationId) with
  | some replay =>
    raising (ensure (replay.invoiceId == invoice.id)
      (.idempotencyConflict "Idempotency key is already bound to a different invoice."))
    return (some replay, chargeable replay)
  | none => prepareAttempt subscription invoice idempotencyKey providerKey now

/-- `_prepare`. -/
def prepare (invoiceId : ℕ) (idempotencyKey : Option String) (issuedOnly : Bool)
    (providerKey : String) (now : DateTime) :
    Transaction (Option Chargeflow.PaymentAttempt × Bool) := do
  let seen ← read fun db => fetch db.invoices "Invoice" invoiceId
  let subscription ← getSubscription seen.subscriptionId
  let invoice ← getInvoice invoiceId
  if issuedOnly && invoice.status != .issued then
    return (none, false)
  if (normalizeKey idempotencyKey).isSome then
    lockRow (.organization invoice.organizationId) .noKeyUpdate
  replayOrPrepare subscription invoice (normalizeKey idempotencyKey) providerKey now

/-- A save of a charge id inside a savepoint, and whether it succeeds. -/
def saveChargeId (bound : Chargeflow.PaymentAttempt) (free : Bool) (db : Db) :
    Except Err (Db × Bool) :=
  match if free then
      Chargeflow.PaymentAttempt.save db [.providerResponse, .providerChargeId] bound
    else .error (.integrityError "unique_provider_charge") with
  | .ok db => .ok (db, true)
  | .error (.integrityError "unique_provider_charge") => .ok (db, false)
  | .error e => .error e

/-- The charge id of a provider result, saved inside a savepoint: the attempt with it, or `none`
when the id belongs to another payment and the attempt is flagged. -/
def bindChargeId (env : Env) (payment : Chargeflow.PaymentAttempt)
    (providerResponse : List (String × Json)) (incoming : Json) :
    Transaction (Option Chargeflow.PaymentAttempt) := do
  let payment := { payment with providerResponse := .obj providerResponse }
  if incoming.truthy && payment.providerChargeId == "" then
    let bound := { payment with providerChargeId := env.columnText incoming }
    lockRow (.attempt payment.id) .noKeyUpdate
    let free ← insertKey (.chargeKey bound.provider bound.providerChargeId)
    let saved ← exec (saveChargeId bound free)
    if saved then
      return some bound
    else
      PaymentAttempt.save [.providerResponse, .needsReconciliation]
        { payment with
          providerChargeId := ""
          providerResponse := collisionResponse providerResponse incoming
          needsReconciliation := true }
      return none
  else
    return some payment

/-- A provider success. -/
def applySuccess (subscription : Chargeflow.Subscription) (invoice : Chargeflow.Invoice)
    (payment : Chargeflow.PaymentAttempt) (now : DateTime) : Transaction Unit := do
  let anotherSuccess ← view fun db => db.attempts.any fun p =>
    p.invoiceId == invoice.id && p.status == .success && p.id != payment.id
  let applicable : Bool :=
    subscription.status != .canceled && decide invoice.Payable && !anotherSuccess
  if !applicable then
    PaymentAttempt.save [.providerResponse, .providerChargeId, .needsReconciliation]
      { payment with needsReconciliation := true }
  else
    PaymentAttempt.save [.status, .providerResponse, .providerChargeId]
      { payment with status := .success }
    InvoiceService.markPaid invoice.id now
    SubscriptionService.reactivate subscription.id now

/-- A provider failure. -/
def applyFailure (subscription : Chargeflow.Subscription) (invoice : Chargeflow.Invoice)
    (payment : Chargeflow.PaymentAttempt) (now : DateTime) : Transaction Unit := do
  PaymentAttempt.save [.status, .providerResponse, .providerChargeId]
    { payment with status := .failed }
  let paid ← view fun db => db.attempts.any fun p =>
    p.invoiceId == invoice.id && p.status == .success
  if decide invoice.Payable && subscription.status != .canceled && !paid then
    InvoiceService.markFailed invoice.id now
    SubscriptionService.markOverdue subscription.id now

/-- The part of `settle` under the locks. -/
def settleLocked (env : Env) (subscription : Chargeflow.Subscription)
    (invoice : Chargeflow.Invoice) (payment : Chargeflow.PaymentAttempt) (success : Bool)
    (providerResponse : List (String × Json)) (providerChargeId : String) (now : DateTime) :
    Transaction Unit := do
  let incoming := incomingChargeId providerResponse providerChargeId
  if !success && (payment.status == .success || payment.needsReconciliation) then
    return
  if conflictingCharge payment incoming then
    PaymentAttempt.save [.providerResponse, .needsReconciliation]
      { payment with
        needsReconciliation := true
        providerResponse := mismatchResponse payment.providerResponse providerResponse incoming }
  else if payment.status == .success || payment.needsReconciliation then
    return
  else
    match ← bindChargeId env payment providerResponse incoming with
    | none => return
    | some payment =>
      if !success && payment.status == .failed then
        return
      if success then
        applySuccess subscription invoice payment now
      else
        applyFailure subscription invoice payment now

/-- `settle`. -/
def settle (env : Env) (paymentId : ℕ) (success : Bool) (providerResponse : List (String × Json))
    (providerChargeId : String) (now : DateTime) : Transaction Unit := do
  let subscriptionId ← read fun db => do
    let payment ← fetch db.attempts "PaymentAttempt" paymentId
    let invoice ← fetch db.invoices "Invoice" payment.invoiceId
    return invoice.subscriptionId
  let subscription ← getSubscription subscriptionId
  let invoiceId ← read fun db =>
    (fetch db.attempts "PaymentAttempt" paymentId).map PaymentAttempt.invoiceId
  let invoice ← getInvoice invoiceId
  let payment ← readForUpdate (.attempt paymentId) fun db =>
    fetch db.attempts "PaymentAttempt" paymentId
  settleLocked env subscription invoice payment success providerResponse providerChargeId now

/-- A save of the webhook event that the transaction has inserted. -/
def saveWebhook (webhook : WebhookEvent) : Transaction Unit := do
  lockRow (.webhookEvent webhook.id) .noKeyUpdate
  update fun db => .ok { db with webhookEvents := db.webhookEvents.update webhook }

/-- The part of `handle_webhook` after the event is inserted. -/
def processWebhook (env : Env) (webhook : WebhookEvent) (payload : List (String × Json))
    (now : DateTime) : Transaction Unit := do
  match ← view fun db => namedAttempt db payload with
  | none => saveWebhook { webhook with processed := true }
  | some payment =>
    let webhook := { webhook with organizationId := some payment.organizationId }
    saveWebhook webhook
    checkAtCommit (.organization payment.organizationId)
    settle env payment.id (payloadSuccess payload) payload (payloadChargeId payload) now
    saveWebhook { webhook with processed := true }

/-- `WebhookEvent.objects.create` inside its savepoint. -/
def createWebhook (event : ValidWebhook) (provider : String) (db : Db) :
    Except Err (Db × Option WebhookEvent) :=
  match WebhookEvent.create db event.eventType provider event.providerEventId event.payload with
  | .ok (db, webhook) => .ok (db, some webhook)
  | .error (.integrityError _) => .ok (db, none)
  | .error e => .error e

/-- `handle_webhook`. -/
def handleWebhook (env : Env) (eventType payload : Json) (provider : String)
    (providerEventId : Json) (now : DateTime) : Transaction Unit := do
  let event ← raising (validateWebhook eventType payload provider providerEventId)
  if ← view fun db => db.webhookEvents.any fun e =>
      e.provider == provider && e.providerEventId == event.providerEventId then
    return
  if ← insertKey (.webhookKey provider event.providerEventId) then
    let webhook ← exec (createWebhook event provider)
    if let some webhook := webhook then
      insertRow (.webhookEvent webhook.id)
      checkKey .organization webhook.organizationId
      processWebhook env webhook event.payload now

end PaymentService

/-- `_dun_invoice`. -/
def dunInvoice (invoiceId : ℕ) (now : DateTime) : Transaction Unit := do
  let seen ← read fun db => fetch db.invoices "Invoice" invoiceId
  let subscription ← getSubscription seen.subscriptionId
  let invoice ← getInvoice invoiceId
  if invoice.status ≠ .failed then
    return
  let failedCharges ← view fun db => (db.attempts.filter fun p =>
    p.invoiceId == invoice.id && p.status == .failed).length
  if maxDunningAttempts ≤ failedCharges then
    InvoiceService.markOverdue invoice.id now
    if subscription.status ≠ .canceled then
      SubscriptionService.cancel subscription.id .nonPayment now
  else
    InvoiceService.reissueForRetry invoice.id now

/-- A transaction without its result. -/
def discarding {α : Type} (x : Transaction α) : Transaction Unit := do
  let _ ← x

end Locking

/-- The transactions of the billing services. -/
inductive BillingTransaction : Transaction Unit → Prop
  | create (customerId planId : ℕ) (now issuedAt : DateTime) :
      BillingTransaction (Locking.discarding
        (Locking.SubscriptionService.create customerId planId now issuedAt))
  | activate (subscriptionId : ℕ) (now issuedAt : DateTime) :
      BillingTransaction (Locking.SubscriptionService.activate subscriptionId now issuedAt)
  | renew (subscriptionId : ℕ) (checkedAt now issuedAt : DateTime) :
      BillingTransaction (Locking.SubscriptionService.renew subscriptionId checkedAt now issuedAt)
  | cancel (subscriptionId : ℕ) (reason : CancellationReason) (now : DateTime) :
      BillingTransaction (Locking.SubscriptionService.cancel subscriptionId reason now)
  | save (updateFields : Option (List SubscriptionColumn)) (s : SubscriptionInstance) :
      BillingTransaction (Locking.SubscriptionInstance.save updateFields s)
  | prepare (invoiceId : ℕ) (idempotencyKey : Option String) (issuedOnly : Bool)
      (providerKey : String) (now : DateTime) :
      BillingTransaction (Locking.discarding
        (Locking.PaymentService.prepare invoiceId idempotencyKey issuedOnly providerKey now))
  | settle (env : Env) (paymentId : ℕ) (success : Bool) (providerResponse : List (String × Json))
      (providerChargeId : String) (now : DateTime) :
      BillingTransaction (Locking.PaymentService.settle env paymentId success providerResponse
        providerChargeId now)
  | handleWebhook (env : Env) (eventType payload : Json) (provider : String)
      (providerEventId : Json) (now : DateTime) :
      BillingTransaction (Locking.PaymentService.handleWebhook env eventType payload provider
        providerEventId now)
  | dunInvoice (invoiceId : ℕ) (now : DateTime) :
      BillingTransaction (Locking.dunInvoice invoiceId now)

end Chargeflow
