import Chargeflow.Effects.Saving

/-!
# What a gateway call does to its ledger

A call answers with a receipt: the one its lookup had seen, the one it inserted, or the one another
caller inserted in between.
-/

namespace Chargeflow

open Foundation

namespace MockPaymentGateway

/-- The answer of the gateway for a receipt. -/
def answer (r : MockChargeReceipt) : ChargeResult :=
  ⟨r.success, r.providerChargeId, r.providerResponse⟩

/-- The receipt `r` the second half of a call answers with, and the database it leaves. -/
inductive Answered (db : Db) (request : ChargeRequest) (fingerprint : String)
    (seen : Option MockChargeReceipt) (success : Bool) (chargeId : String) :
    Db → MockChargeReceipt → Prop
  /-- The lookup had found a receipt. -/
  | replayed {r : MockChargeReceipt} (hseen : seen = some r) :
      Answered db request fingerprint seen success chargeId db r
  /-- Another caller was faster. -/
  | raced (hseen : seen = none) {r : MockChargeReceipt} (hr : r ∈ db.receipts)
      (hkey : r.providerIdempotencyKey = request.idempotencyKey) :
      Answered db request fingerprint seen success chargeId db r
  /-- The outcome drawn is recorded under a key and a charge id that are free. -/
  | drawn (hseen : seen = none)
      (hkey : ∀ r ∈ db.receipts, r.providerIdempotencyKey ≠ request.idempotencyKey)
      (hcharge : ∀ r ∈ db.receipts, r.providerChargeId ≠ chargeId) :
      Answered db request fingerprint seen success chargeId
        { db with receipts :=
          db.receipts.insert (newReceipt request fingerprint success chargeId) }
        (withKey db.receipts.next (newReceipt request fingerprint success chargeId))

namespace Answered

variable {db db' : Db} {request : ChargeRequest} {fingerprint : String}
  {seen : Option MockChargeReceipt} {success : Bool} {chargeId : String} {r : MockChargeReceipt}

/-- Receipts are only added. -/
theorem kept (h : Answered db request fingerprint seen success chargeId db' r) :
    ∀ r' ∈ db.receipts, r' ∈ db'.receipts := by
  intro r' hr'
  cases h with
  | drawn => exact Table.mem_insert_of_mem hr'
  | _ => exact hr'

/-- The receipt of the answer is in the ledger, under the key of the request, if the one the lookup
had seen was. -/
theorem recorded (h : Answered db request fingerprint seen success chargeId db' r)
    (hseen : ∀ r ∈ seen, r ∈ db.receipts ∧ r.providerIdempotencyKey = request.idempotencyKey) :
    r ∈ db'.receipts ∧ r.providerIdempotencyKey = request.idempotencyKey := by
  cases h with
  | replayed hsome => exact hseen r hsome
  | raced _ hr hkey => exact ⟨hr, hkey⟩
  | drawn => exact ⟨Table.mem_insert_self, rfl⟩

end Answered

/-- The receipt found for a key carries it. -/
theorem findReceipt_eq_some {db : Db} {key : String} {r : MockChargeReceipt}
    (h : findReceipt db key = some r) : r ∈ db.receipts ∧ r.providerIdempotencyKey = key := by
  obtain ⟨hr, hkey⟩ := Table.head?_filter_eq_some h
  exact ⟨hr, by simpa using hkey⟩

/-- A call that returns has answered by a receipt of its key. -/
theorem finishCharge_eq_ok {env : Env} {db db' : Db} {request : ChargeRequest}
    {seen : Option MockChargeReceipt} {success : Bool} {chargeId : String} {result : ChargeResult}
    (h : finishCharge env db request seen success chargeId = .ok (db', result)) :
    ∃ fingerprint r, requestFingerprint env request = .ok fingerprint ∧
      Answered db request fingerprint seen success chargeId db' r ∧ result = answer r := by
  obtain ⟨fingerprint, hfingerprint, h⟩ := bind_eq_ok_iff.mp h
  -- what is left of the call once the receipt `r` is there
  have hanswer : ∀ {db₁ : Db} {r : MockChargeReceipt},
      (do
        ensure (r.requestFingerprint == fingerprint)
          (.valueError "Provider idempotency key was reused with different parameters.")
        return (db₁, answer r) : Except Err (Db × ChargeResult)) = .ok (db', result) →
      db₁ = db' ∧ result = answer r := by
    intro db₁ r hr
    simp only [bind_eq_ok_iff, pure_eq_ok_iff, Prod.mk.injEq] at hr
    obtain ⟨-, -, hdb, hresult⟩ := hr
    exact ⟨hdb, hresult.symm⟩
  refine ⟨fingerprint, ?_⟩
  cases seen with
  | some r =>
    obtain ⟨rfl, hresult⟩ := hanswer h
    exact ⟨r, hfingerprint, .replayed rfl, hresult⟩
  | none =>
    obtain ⟨⟨⟩, -, h⟩ := bind_eq_ok_iff.mp h
    dsimp only at h
    cases hinsert : insertReceipt db (newReceipt request fingerprint success chargeId) with
    | some db₁ =>
      rw [hinsert] at h
      obtain ⟨rfl, hresult⟩ := hanswer h
      unfold insertReceipt at hinsert
      split_ifs at hinsert with htaken
      obtain rfl := Option.some.inj hinsert
      simp only [Bool.not_eq_true, Table.any_eq_false, Bool.or_eq_false_iff,
        beq_eq_false_iff_ne] at htaken
      exact ⟨_, hfingerprint,
        .drawn rfl (fun r hr => (htaken r hr).1) (fun r hr => (htaken r hr).2), hresult⟩
    | none =>
      rw [hinsert] at h
      dsimp only at h
      cases hfind : findReceipt db request.idempotencyKey with
      | some r =>
        rw [hfind] at h
        obtain ⟨rfl, hresult⟩ := hanswer h
        obtain ⟨hr, hkey⟩ := findReceipt_eq_some hfind
        exact ⟨r, hfingerprint, .raced rfl hr hkey, hresult⟩
      | none =>
        rw [hfind] at h
        cases h

end MockPaymentGateway

end Chargeflow
