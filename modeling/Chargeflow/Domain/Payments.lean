import Chargeflow.Foundation.Table
import Chargeflow.Foundation.Calendar
import Chargeflow.Foundation.Values

/-!
# Payment attempts, webhook events and gateway receipts

The rows of the payment tables.  `PaymentAttempt.merge` is the effect of a partial `save`: the
columns named in `update_fields` are written from the instance in memory, the others keep the stored
value.
-/

namespace Chargeflow

open Foundation

/-- `PaymentStatus`. -/
inductive PaymentStatus where
  | pending
  | success
  | failed
  deriving DecidableEq

/-- A row of the payment attempt table.  The amount is a number of hundredths. -/
structure PaymentAttempt where
  id : ℕ
  organizationId : ℕ
  invoiceId : ℕ
  status : PaymentStatus
  amount : ℤ
  currency : String
  provider : String
  providerIdempotencyKey : String
  providerCustomerId : String
  providerPaymentMethodId : String
  providerChargeId : String
  providerResponse : Json
  idempotencyKey : Option String
  attemptedAt : DateTime
  /-- A provider success that could not be applied to the invoice: money may need a refund. -/
  needsReconciliation : Bool

/-- A row of the webhook event table.  An event without a known payment has no organization. -/
structure WebhookEvent where
  id : ℕ
  organizationId : Option ℕ
  eventType : String
  provider : String
  providerEventId : String
  payload : Json
  processed : Bool

/-- A row of the mock gateway's receipt table. -/
structure MockChargeReceipt where
  id : ℕ
  providerIdempotencyKey : String
  requestFingerprint : String
  success : Bool
  providerChargeId : String
  providerResponse : List (String × Json)

/-- The primary key of a payment attempt. -/
instance : Keyed PaymentAttempt :=
  ⟨PaymentAttempt.id, fun n p => { p with id := n }, fun _ _ => rfl⟩

/-- The primary key of a webhook event. -/
instance : Keyed WebhookEvent := ⟨WebhookEvent.id, fun n e => { e with id := n }, fun _ _ => rfl⟩

/-- The primary key of a receipt. -/
instance : Keyed MockChargeReceipt :=
  ⟨MockChargeReceipt.id, fun n r => { r with id := n }, fun _ _ => rfl⟩

/-- The key of a payment attempt, as a field. -/
@[simp] theorem key_attempt (p : PaymentAttempt) : key p = p.id := rfl

/-- The columns of a payment attempt that a `save` may be limited to. -/
inductive PaymentField where
  | organization
  | invoice
  | status
  | amount
  | currency
  | provider
  | providerIdempotencyKey
  | providerCustomerId
  | providerPaymentMethodId
  | providerChargeId
  | providerResponse
  | idempotencyKey
  | needsReconciliation
  deriving DecidableEq

/-- The stored row after a save limited to `fields`. -/
def PaymentAttempt.merge (fields : List PaymentField) (stored inst : PaymentAttempt) :
    PaymentAttempt :=
  { stored with
    organizationId :=
      if .organization ∈ fields then inst.organizationId else stored.organizationId
    invoiceId := if .invoice ∈ fields then inst.invoiceId else stored.invoiceId
    status := if .status ∈ fields then inst.status else stored.status
    amount := if .amount ∈ fields then inst.amount else stored.amount
    currency := if .currency ∈ fields then inst.currency else stored.currency
    provider := if .provider ∈ fields then inst.provider else stored.provider
    providerIdempotencyKey :=
      if .providerIdempotencyKey ∈ fields then inst.providerIdempotencyKey
      else stored.providerIdempotencyKey
    providerCustomerId :=
      if .providerCustomerId ∈ fields then inst.providerCustomerId else stored.providerCustomerId
    providerPaymentMethodId :=
      if .providerPaymentMethodId ∈ fields then inst.providerPaymentMethodId
      else stored.providerPaymentMethodId
    providerChargeId :=
      if .providerChargeId ∈ fields then inst.providerChargeId else stored.providerChargeId
    providerResponse :=
      if .providerResponse ∈ fields then inst.providerResponse else stored.providerResponse
    idempotencyKey :=
      if .idempotencyKey ∈ fields then inst.idempotencyKey else stored.idempotencyKey
    needsReconciliation :=
      if .needsReconciliation ∈ fields then inst.needsReconciliation
      else stored.needsReconciliation }

/-- The columns of an attempt that are fixed when it is created. -/
structure PaymentAttempt.SameSnapshot (p q : PaymentAttempt) : Prop where
  id : q.id = p.id
  organizationId : q.organizationId = p.organizationId
  invoiceId : q.invoiceId = p.invoiceId
  amount : q.amount = p.amount
  currency : q.currency = p.currency
  provider : q.provider = p.provider
  providerIdempotencyKey : q.providerIdempotencyKey = p.providerIdempotencyKey
  providerCustomerId : q.providerCustomerId = p.providerCustomerId
  providerPaymentMethodId : q.providerPaymentMethodId = p.providerPaymentMethodId
  idempotencyKey : q.idempotencyKey = p.idempotencyKey
  attemptedAt : q.attemptedAt = p.attemptedAt

end Chargeflow
