import Chargeflow.Persistence

/-!
# The mock payment gateway

`MockPaymentGateway.charge` on its durable ledger of receipts.  The call runs outside any
transaction: it looks for a receipt, and if there is none it draws an outcome and inserts one, or
reads the receipt again when another caller was faster.  The two halves are separate functions,
since other callers may run between them.
-/

namespace Chargeflow

open Foundation

/-- `ChargeRequest`. -/
structure ChargeRequest where
  amount : Decimal
  currency : String
  providerCustomerId : String
  providerPaymentMethodId : String
  idempotencyKey : String

/-- `ChargeResult`. -/
structure ChargeResult where
  success : Bool
  providerChargeId : String
  providerResponse : List (String × Json)

namespace MockPaymentGateway

/-- The canonical JSON text of a request: sorted keys, no blanks, the amount with two places. -/
def canonicalText (request : ChargeRequest) : Except Err String :=
  match request.amount.quantizedText with
  | none => .error .invalidOperation
  | some amount =>
    .ok ("\x7b\"amount\":" ++ jsonString amount ++
      ",\"currency\":" ++ jsonString request.currency ++
      ",\"provider_customer_id\":" ++ jsonString request.providerCustomerId ++
      ",\"provider_payment_method_id\":" ++ jsonString request.providerPaymentMethodId ++ "\x7d")

/-- The fingerprint under which the ledger stores the parameters of a request. -/
def requestFingerprint (env : Env) (request : ChargeRequest) : Except Err String := do
  let text ← canonicalText request
  return env.sha256 text

/-- The receipt the ledger holds for a key. -/
def findReceipt (db : Db) (idempotencyKey : String) : Option MockChargeReceipt :=
  (db.receipts.filter fun r => r.providerIdempotencyKey == idempotencyKey).head?

/-- The response of the provider for an outcome. -/
def outcomeResponse (success : Bool) : List (String × Json) :=
  [("status", .str (if success then "ok" else "declined"))]

/-- The receipt a call inserts when it found none. -/
def newReceipt (request : ChargeRequest) (fingerprint : String) (success : Bool)
    (chargeId : String) : MockChargeReceipt where
  id := 0
  providerIdempotencyKey := request.idempotencyKey
  requestFingerprint := fingerprint
  success := success
  providerChargeId := chargeId
  providerResponse := outcomeResponse success

/-- The insertion of a receipt, unless its key or its charge id is taken. -/
def insertReceipt (db : Db) (receipt : MockChargeReceipt) : Option Db :=
  if db.receipts.any fun r => r.providerIdempotencyKey == receipt.providerIdempotencyKey ||
      r.providerChargeId == receipt.providerChargeId then
    none
  else
    some { db with receipts := db.receipts.insert receipt }

/-- The second half of `charge`, after the ledger answered `seen`: `success` is the outcome drawn,
and `chargeId` the fresh charge id. -/
def finishCharge (env : Env) (db : Db) (request : ChargeRequest) (seen : Option MockChargeReceipt)
    (success : Bool) (chargeId : String) : Except Err (Db × ChargeResult) := do
  let fingerprint ← requestFingerprint env request
  let (db, receipt) ←
    match seen with
    | some receipt => .ok (db, receipt)
    | none =>
      checkLength "provider_idempotency_key" request.idempotencyKey 255
      let receipt := newReceipt request fingerprint success chargeId
      match insertReceipt db receipt with
      | some db' => .ok (db', withKey db.receipts.next receipt)
      | none =>
        -- the losing caller of a race reads the receipt of the winner
        match findReceipt db request.idempotencyKey with
        | some receipt => .ok (db, receipt)
        | none => .error (.doesNotExist "MockChargeReceipt")
  ensure (receipt.requestFingerprint == fingerprint)
    (.valueError "Provider idempotency key was reused with different parameters.")
  return (db, ⟨receipt.success, receipt.providerChargeId, receipt.providerResponse⟩)

/-- `charge`, when no other caller runs between its two halves. -/
def charge (env : Env) (db : Db) (request : ChargeRequest) (success : Bool) (chargeId : String) :
    Except Err (Db × ChargeResult) :=
  finishCharge env db request (findReceipt db request.idempotencyKey) success chargeId

end MockPaymentGateway

end Chargeflow
