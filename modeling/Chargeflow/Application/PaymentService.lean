import Chargeflow.Application.SubscriptionService
import Chargeflow.Application.Gateway

/-!
# Payment service

A charge has three phases: `prepare` commits or recovers a PENDING attempt, the gateway is called
outside any transaction, and `settle` applies the result to the attempt, its invoice and its
subscription.  `settle` is cut where the source tests a condition: the charge id the provider sent,
the conflicting charge id, the binding of the charge id inside a savepoint, and the two outcomes.
`handleWebhook` settles with a result that a provider event brought.
-/

namespace Chargeflow

open Foundation

/-- `get_payment_gateway`: the mock gateway is the only provider. -/
def getPaymentGateway (provider : String) : Except Err Unit :=
  ensure (provider == "mock") (.valueError ("Unknown payment provider '" ++ provider ++ "'."))

namespace PaymentService

/-! ## Preparing a charge -/

/-- The provider may be asked to charge an attempt. -/
def chargeable (p : PaymentAttempt) : Bool := p.status == .pending && !p.needsReconciliation

/-- The first attempt of an invoice that satisfies a test. -/
def firstAttempt (db : Db) (invoice : Invoice) (test : PaymentAttempt → Bool) :
    Option PaymentAttempt :=
  (db.attempts.filter fun p => p.invoiceId == invoice.id && test p).head?

/-- The attempt of an organization that carries a client key. -/
def findReplay (db : Db) (organizationId : ℕ) (idempotencyKey : String) : Option PaymentAttempt :=
  (db.attempts.filter fun p =>
    p.organizationId == organizationId && p.idempotencyKey == some idempotencyKey).head?

/-- An attempt made since an invoice was last issued. -/
def sinceIssue (invoice : Invoice) (p : PaymentAttempt) : Bool :=
  match invoice.issuedAt with
  | some issuedAt => decide (issuedAt ≤ p.attemptedAt)
  | none => false

/-- The attempt `_prepare` creates, before it is saved. -/
def newAttempt (invoice : Invoice) (customer : Customer) (idempotencyKey : Option String)
    (providerKey : String) (now : DateTime) : PaymentAttempt where
  id := 0
  organizationId := 0
  invoiceId := invoice.id
  status := .pending
  amount := invoice.total
  currency := invoice.currency
  provider := "mock"
  providerIdempotencyKey := providerKey
  providerCustomerId := customer.providerCustomerId
  providerPaymentMethodId := customer.providerPaymentMethodId
  providerChargeId := ""
  providerResponse := .obj []
  idempotencyKey := idempotencyKey
  attemptedAt := now
  needsReconciliation := false

/-- The part of `_prepare` after the replay of a client key: the attempt to charge is found by the
status of the invoice, or created. -/
def prepareAttempt (db : Db) (subscription : Subscription) (invoice : Invoice)
    (idempotencyKey : Option String) (providerKey : String) (now : DateTime) :
    Except Err (Db × Option PaymentAttempt × Bool) := do
  if ¬ invoice.Payable then
    match firstAttempt db invoice (fun p => p.status == .pending) with
    | some pending => return (db, some pending, !pending.needsReconciliation)
    | none =>
      .error (.invoiceNotPayable
        ("Cannot attempt payment on invoice in status '" ++ invoice.status.value ++ "'"))
  else
    let thisIssue :=
      if invoice.status = .issued then firstAttempt db invoice (sinceIssue invoice) else none
    match thisIssue with
    | some thisIssue =>
      ensure (idempotencyKey.isNone || thisIssue.idempotencyKey == idempotencyKey)
        (.idempotencyConflict "This invoice already has a payment attempt for this issue.")
      return (db, some thisIssue, chargeable thisIssue)
    | none =>
      match firstAttempt db invoice (fun p => p.status == .pending || p.status == .success) with
      | some existing => return (db, some existing, chargeable existing)
      | none =>
        ensure (subscription.status != .canceled)
          (.invoiceNotPayable "Cannot charge a canceled subscription.")
        let customer ← fetch db.customers "Customer" subscription.customerId
        let (db, payment) ← PaymentAttempt.create db
          (newAttempt invoice customer idempotencyKey providerKey now)
        return (db, some payment, true)

/-- `_prepare`: the attempt a charge of an invoice goes to, and whether the provider is to be
called.  `providerKey` is the fresh key for the provider. -/
def prepare (db : Db) (invoiceId : ℕ) (idempotencyKey : Option String) (issuedOnly : Bool)
    (providerKey : String) (now : DateTime) : Except Err (Db × Option PaymentAttempt × Bool) := do
  let invoice ← fetch db.invoices "Invoice" invoiceId
  let subscription ← fetch db.subscriptions "Subscription" invoice.subscriptionId
  if issuedOnly && invoice.status != .issued then
    return (db, none, false)
  let idempotencyKey := normalizeKey idempotencyKey
  match idempotencyKey.bind (findReplay db invoice.organizationId) with
  | some replay =>
    ensure (replay.invoiceId == invoice.id)
      (.idempotencyConflict "Idempotency key is already bound to a different invoice.")
    return (db, some replay, chargeable replay)
  | none => prepareAttempt db subscription invoice idempotencyKey providerKey now

/-! ## Settling a charge -/

/-- The charge id of a provider result: its own, or the one inside the response. -/
def incomingChargeId (providerResponse : List (String × Json)) (providerChargeId : String) :
    Json :=
  if providerChargeId ≠ "" then .str providerChargeId
  else Json.get providerResponse "provider_charge_id" (.str "")

/-- The response stored for a charge id that contradicts the recorded one. -/
def mismatchResponse (previous : Json) (providerResponse : List (String × Json))
    (incoming : Json) : Json :=
  .obj [("previous", previous), ("reconciliation", .obj providerResponse),
    ("reconciliation_provider_charge_id", incoming)]

/-- The response stored for a charge id that belongs to another payment. -/
def collisionResponse (providerResponse : List (String × Json)) (incoming : Json) : Json :=
  .obj [("reconciliation", .obj providerResponse),
    ("reconciliation_provider_charge_id", incoming)]

/-- Whether a provider result brings another charge id than the recorded one. -/
def conflictingCharge (payment : PaymentAttempt) (incoming : Json) : Bool :=
  payment.providerChargeId != "" && incoming.truthy && !incoming.isText payment.providerChargeId

/-- What became of the charge id of a provider result. -/
inductive ChargeBinding where
  /-- The id is recorded, or there was none to record. -/
  | bound (db : Db) (payment : PaymentAttempt)
  /-- The id belongs to another payment. -/
  | collided (db : Db)

/-- The response and, if none is recorded yet, the charge id of a provider result.  The charge id is
saved inside a savepoint: when it is bound to another payment the attempt is flagged instead. -/
def bindChargeId (env : Env) (db : Db) (payment : PaymentAttempt)
    (providerResponse : List (String × Json)) (incoming : Json) : Except Err ChargeBinding :=
  let payment := { payment with providerResponse := .obj providerResponse }
  if incoming.truthy && payment.providerChargeId == "" then
    let bound := { payment with providerChargeId := env.columnText incoming }
    match PaymentAttempt.save db [.providerResponse, .providerChargeId] bound with
    | .ok db => .ok (.bound db bound)
    | .error (.integrityError "unique_provider_charge") => do
      let db ← PaymentAttempt.save db [.providerResponse, .needsReconciliation]
        { payment with
          providerChargeId := ""
          providerResponse := collisionResponse providerResponse incoming
          needsReconciliation := true }
      return .collided db
    | .error e => .error e
  else
    .ok (.bound db payment)

/-- A provider success: it pays the invoice and may bring the subscription back, or it is flagged
when it cannot be applied. -/
def applySuccess (db : Db) (subscription : Subscription) (invoice : Invoice)
    (payment : PaymentAttempt) (now : DateTime) : Except Err Db := do
  let anotherSuccess := db.attempts.any fun p =>
    p.invoiceId == invoice.id && p.status == .success && p.id != payment.id
  let applicable : Bool :=
    subscription.status != .canceled && decide invoice.Payable && !anotherSuccess
  if !applicable then
    PaymentAttempt.save db [.providerResponse, .providerChargeId, .needsReconciliation]
      { payment with needsReconciliation := true }
  else
    let db ← PaymentAttempt.save db [.status, .providerResponse, .providerChargeId]
      { payment with status := .success }
    let db ← InvoiceService.markPaid db invoice.id now
    SubscriptionService.reactivate db subscription.id now

/-- A provider failure: it fails the invoice and puts the subscription in arrears, unless the
invoice is closed or paid by another attempt. -/
def applyFailure (db : Db) (subscription : Subscription) (invoice : Invoice)
    (payment : PaymentAttempt) (now : DateTime) : Except Err Db := do
  let db ← PaymentAttempt.save db [.status, .providerResponse, .providerChargeId]
    { payment with status := .failed }
  if decide invoice.Payable && subscription.status != .canceled &&
      !(db.attempts.any fun p => p.invoiceId == invoice.id && p.status == .success) then
    let db ← InvoiceService.markFailed db invoice.id now
    SubscriptionService.markOverdue db subscription.id now
  else
    return db

/-- `settle`: the result of a charge, from the gateway or from a webhook. -/
def settle (env : Env) (db : Db) (paymentId : ℕ) (success : Bool)
    (providerResponse : List (String × Json)) (providerChargeId : String) (now : DateTime) :
    Except Err Db := do
  let payment ← fetch db.attempts "PaymentAttempt" paymentId
  let invoice ← fetch db.invoices "Invoice" payment.invoiceId
  let subscription ← fetch db.subscriptions "Subscription" invoice.subscriptionId
  let incoming := incomingChargeId providerResponse providerChargeId
  if !success && (payment.status == .success || payment.needsReconciliation) then
    return db
  if conflictingCharge payment incoming then
    PaymentAttempt.save db [.providerResponse, .needsReconciliation]
      { payment with
        needsReconciliation := true
        providerResponse := mismatchResponse payment.providerResponse providerResponse incoming }
  else if payment.status == .success || payment.needsReconciliation then
    return db
  else
    match ← bindChargeId env db payment providerResponse incoming with
    | .collided db => return db
    | .bound db payment =>
      if !success && payment.status == .failed then
        return db
      if success then
        applySuccess db subscription invoice payment now
      else
        applyFailure db subscription invoice payment now

/-! ## Charging -/

/-- The request `_charge` sends for an attempt. -/
def chargeRequest (payment : PaymentAttempt) : ChargeRequest where
  amount := .ofCents payment.amount
  currency := payment.currency
  providerCustomerId := payment.providerCustomerId
  providerPaymentMethodId := payment.providerPaymentMethodId
  idempotencyKey := payment.providerIdempotencyKey

/-- `_charge`, when nothing else runs between its phases.  `success` and `chargeId` are the draws of
the gateway. -/
def charge (env : Env) (db : Db) (paymentId : ℕ) (success : Bool) (chargeId : String)
    (now : DateTime) : Except Err (Db × PaymentAttempt) := do
  let payment ← fetch db.attempts "PaymentAttempt" paymentId
  if !chargeable payment then
    return (db, payment)
  getPaymentGateway payment.provider
  let (db, result) ← MockPaymentGateway.charge env db (chargeRequest payment) success chargeId
  let db ← settle env db payment.id result.success result.providerResponse
    result.providerChargeId now
  let payment ← fetch db.attempts "PaymentAttempt" paymentId
  return (db, payment)

/-- `attempt`, when nothing else runs between its phases. -/
def attempt (env : Env) (db : Db) (invoiceId : ℕ) (idempotencyKey : Option String)
    (inAtomicBlock : Bool) (providerKey : String) (preparedAt : DateTime) (success : Bool)
    (chargeId : String) (settledAt : DateTime) : Except Err (Db × Option PaymentAttempt) := do
  ensure (!inAtomicBlock)
    (.runtimeError "Payment charging cannot run inside an atomic transaction.")
  let (db, payment, shouldCharge) ←
    prepare db invoiceId idempotencyKey false providerKey preparedAt
  match payment, shouldCharge with
  | some payment, true => do
    let (db, payment) ← charge env db payment.id success chargeId settledAt
    return (db, some payment)
  | payment, _ => return (db, payment)

/-- `charge_issued`, when nothing else runs between its phases. -/
def chargeIssued (env : Env) (db : Db) (invoiceId : ℕ) (inAtomicBlock : Bool)
    (providerKey : String) (preparedAt : DateTime) (success : Bool) (chargeId : String)
    (settledAt : DateTime) : Except Err (Db × Option PaymentAttempt) := do
  ensure (!inAtomicBlock)
    (.runtimeError "Payment charging cannot run inside an atomic transaction.")
  let (db, payment, shouldCharge) ← prepare db invoiceId none true providerKey preparedAt
  match payment, shouldCharge with
  | some payment, true => do
    let (db, payment) ← charge env db payment.id success chargeId settledAt
    return (db, some payment)
  | payment, _ => return (db, payment)

/-- `recover_pending`, when nothing else runs between its phases. -/
def recoverPending (env : Env) (db : Db) (paymentId : ℕ) (inAtomicBlock : Bool) (success : Bool)
    (chargeId : String) (settledAt : DateTime) : Except Err (Db × Option PaymentAttempt) := do
  ensure (!inAtomicBlock)
    (.runtimeError "Payment charging cannot run inside an atomic transaction.")
  match (db.attempts.filter fun p => p.id == paymentId && chargeable p).head? with
  | none => return (db, none)
  | some payment => do
    let (db, payment) ← charge env db payment.id success chargeId settledAt
    return (db, some payment)

/-! ## Webhooks -/

/-- The content of a valid webhook. -/
structure ValidWebhook where
  eventType : String
  providerEventId : String
  payload : List (String × Json)

/-- A text of 1 to 255 characters. -/
def validText (v : Json) (message : String) : Except Err String :=
  match v with
  | .str s => if s ≠ "" ∧ s.length ≤ 255 then .ok s else .error (.valueError message)
  | _ => .error (.valueError message)

/-- The identifier of an attempt in a payload: absent, or a positive integer. -/
def validPaymentId : Json → Bool
  | .null => true
  | .int n => decide (0 < n)
  | _ => false

/-- A payload names an attempt when its identifier is not null. -/
def namesAttempt (payload : List (String × Json)) : Bool :=
  match Json.get payload "payment_attempt_id" .null with
  | .null => false
  | _ => true

/-- The checks `handle_webhook` makes on its arguments before it touches the database. -/
def validateWebhook (eventType payload : Json) (provider : String) (providerEventId : Json) :
    Except Err ValidWebhook := do
  getPaymentGateway provider
  let providerEventId ← validText providerEventId "provider_event_id is required."
  let eventType ← validText eventType "event_type is invalid."
  match payload with
  | .obj fields => do
    ensure (validPaymentId (Json.get fields "payment_attempt_id" .null))
      (.valueError "payment_attempt_id must be a positive integer.")
    if namesAttempt fields then
      let status := Json.get fields "status" .null
      ensure (status.isText "success" || status.isText "failed")
        (.valueError "Unknown payment status.")
      let _ ← validText (Json.get fields "provider_charge_id" .null)
        "provider_charge_id is required."
    return ⟨eventType, providerEventId, fields⟩
  | _ => .error (.valueError "payload must be an object.")

/-- The outcome a payload reports. -/
def payloadSuccess (payload : List (String × Json)) : Bool :=
  (Json.get payload "status" .null).isText "success"

/-- The charge id a payload reports. -/
def payloadChargeId (payload : List (String × Json)) : String :=
  match Json.get payload "provider_charge_id" .null with
  | .str s => s
  | _ => ""

/-- `handle_webhook`: a provider event is recorded once, and its result settled in the same
transaction. -/
def handleWebhook (env : Env) (db : Db) (eventType payload : Json) (provider : String)
    (providerEventId : Json) (now : DateTime) : Except Err Db := do
  let event ← validateWebhook eventType payload provider providerEventId
  if db.webhookEvents.any (fun e =>
      e.provider == provider && e.providerEventId == event.providerEventId) then
    return db
  match WebhookEvent.create db event.eventType provider event.providerEventId event.payload with
  | .error (.integrityError _) => return db
  | .error e => .error e
  | .ok (db, webhook) =>
    match namedAttempt db event.payload with
    | none =>
      return { db with webhookEvents := db.webhookEvents.update { webhook with processed := true } }
    | some payment => do
      let webhook := { webhook with organizationId := some payment.organizationId }
      let db := { db with webhookEvents := db.webhookEvents.update webhook }
      let db ← settle env db payment.id (payloadSuccess event.payload) event.payload
        (payloadChargeId event.payload) now
      return { db with webhookEvents := db.webhookEvents.update { webhook with processed := true } }

end PaymentService

end Chargeflow
