import Chargeflow.System.ChargeState
import Chargeflow.System.Ledger

/-!
# A charge from its first phase to its last

In a consistent database a charge of a PENDING attempt runs through: the gateway answers with the
receipt the ledger holds for the key of the attempt, or with a new one, and the settlement of this
receipt commits.  The statuses it leaves behind are those of the state of the charge.
-/

namespace Chargeflow

open Foundation PaymentService MockPaymentGateway

/-- The error of the gateway for a key that was used with other parameters. -/
def differentParameters : Err :=
  .valueError "Provider idempotency key was reused with different parameters."

/-- The statuses of an attempt, of its invoice and of its subscription. -/
def Db.statuses (db : Db) (paymentId : ℕ) :
    Option (PaymentStatus × InvoiceStatus × SubscriptionStatus) := do
  let p ← db.attempts.get? paymentId
  let i ← db.invoices.get? p.invoiceId
  let s ← db.subscriptions.get? i.subscriptionId
  return (p.status, i.status, s.status)

/-- The statuses of the rows a state of a charge is read off. -/
def ChargeState.statuses (v : ChargeState) : PaymentStatus × InvoiceStatus × SubscriptionStatus :=
  (v.status, v.invoice, v.subscription)

variable {env : Env} {db : Db}

/-! ## The gateway -/

/-- The amount of a stored attempt has no more digits than `quantize` carries. -/
theorem requestFingerprint_of_lengths (env : Env) {p : PaymentAttempt}
    (h : p.checkLengths = .ok ()) : ∃ fp, requestFingerprint env (chargeRequest p) = .ok fp := by
  simp only [PaymentAttempt.checkLengths, check_eq_ok_iff, checkAmount, ensure_eq_ok_iff,
    decide_eq_true_eq] at h
  have hdigits : (chargeRequest p).amount.hundredths = some p.amount.natAbs := by
    simp only [chargeRequest, Decimal.ofCents, Decimal.hundredths]
    simp
    omega
  simp only [requestFingerprint, canonicalText, Decimal.quantizedText, hdigits, Option.map_some]
  exact ⟨_, rfl⟩

/-- The key of a stored attempt fits the ledger. -/
theorem key_of_lengths {p : PaymentAttempt} (h : p.checkLengths = .ok ()) :
    (chargeRequest p).idempotencyKey.length ≤ 255 := by
  simp only [PaymentAttempt.checkLengths, check_eq_ok_iff, checkLength, ensure_eq_ok_iff,
    decide_eq_true_eq] at h
  exact h.2.2.2.1

/-- Every receipt for the key of a request was made for the same parameters. -/
def Honoured (db : Db) (request : ChargeRequest) (fp : String) : Prop :=
  ∀ r ∈ db.receipts, r.providerIdempotencyKey = request.idempotencyKey → r.requestFingerprint = fp

variable {request : ChargeRequest} {fp chargeId : String} {success : Bool}

/-- A receipt that the lookup has seen is the answer. -/
theorem finishCharge_of_seen {r : MockChargeReceipt}
    (hfp : requestFingerprint env request = .ok fp) (hr : r.requestFingerprint = fp) :
    finishCharge env db request (some r) success chargeId = .ok (db, answer r) := by
  simp only [finishCharge, hfp, ok_bind, hr, ensure, BEq.rfl, if_true]
  rfl

/-- A free key gets a receipt with the outcome drawn. -/
theorem finishCharge_of_free (hfp : requestFingerprint env request = .ok fp)
    (hlength : request.idempotencyKey.length ≤ 255)
    (hkey : ∀ r ∈ db.receipts, r.providerIdempotencyKey ≠ request.idempotencyKey)
    (hfresh : ∀ r ∈ db.receipts, r.providerChargeId ≠ chargeId) :
    finishCharge env db request none success chargeId =
      .ok ({ db with receipts := db.receipts.insert (newReceipt request fp success chargeId) },
        answer (newReceipt request fp success chargeId)) := by
  have hfree : insertReceipt db (newReceipt request fp success chargeId) = some { db with
      receipts := db.receipts.insert (newReceipt request fp success chargeId) } := by
    unfold insertReceipt
    rw [if_neg]
    simp only [Bool.not_eq_true, Table.any_eq_false, Bool.or_eq_false_iff, beq_eq_false_iff_ne]
    exact fun r hr => ⟨hkey r hr, hfresh r hr⟩
  have hfingerprint : (newReceipt request fp success chargeId).requestFingerprint = fp := rfl
  simp only [finishCharge, hfp, ok_bind, checkLength, hlength, decide_true, hfree, ensure, if_true]
  rw [if_pos (by exact beq_iff_eq.mpr hfingerprint)]
  rfl

/-- A key that another caller has taken in the meantime, with the same parameters, is answered with
the receipt of this caller. -/
theorem finishCharge_of_taken (hfp : requestFingerprint env request = .ok fp)
    (hlength : request.idempotencyKey.length ≤ 255) {r : MockChargeReceipt} (hr : r ∈ db.receipts)
    (hkey : r.providerIdempotencyKey = request.idempotencyKey)
    (hhonoured : Honoured db request fp) :
    ∃ r' ∈ db.receipts, finishCharge env db request none success chargeId =
      .ok (db, answer r') := by
  have htaken : insertReceipt db (newReceipt request fp success chargeId) = none := by
    unfold insertReceipt
    rw [if_pos]
    exact Table.any_eq_true.mpr ⟨r, hr, by simp [newReceipt, hkey]⟩
  obtain ⟨r', hfind⟩ : ∃ r', findReceipt db request.idempotencyKey = some r' := by
    cases hfind : findReceipt db request.idempotencyKey with
    | some r' => exact ⟨r', rfl⟩
    | none =>
      have htest := Table.head?_filter_eq_none.mp hfind r hr
      simp [hkey] at htest
  obtain ⟨hr', hkey'⟩ := findReceipt_eq_some hfind
  refine ⟨r', hr', ?_⟩
  simp only [finishCharge, hfp, ok_bind, checkLength, hlength, decide_true, htaken, hfind, ensure,
    if_true, hhonoured r' hr' hkey', BEq.rfl]
  rfl

/-- A key whose receipts were made for the same parameters is not refused. -/
theorem finishCharge_accepts (hfp : requestFingerprint env request = .ok fp)
    (hhonoured : Honoured db request fp) {seen : Option MockChargeReceipt}
    (hseen : ∀ r ∈ seen, r ∈ db.receipts ∧ r.providerIdempotencyKey = request.idempotencyKey) :
    finishCharge env db request seen success chargeId ≠ .error differentParameters := by
  have haccepted : ∀ {db₁ : Db} {r : MockChargeReceipt}, r.requestFingerprint = fp →
      (do
        ensure (r.requestFingerprint == fp)
          (.valueError "Provider idempotency key was reused with different parameters.")
        return (db₁, answer r) : Except Err (Db × ChargeResult)) ≠ .error differentParameters := by
    intro db₁ r hr
    simp [hr, ensure, bind, Except.bind, pure, Except.pure]
  simp only [finishCharge, hfp, ok_bind]
  cases seen with
  | some r =>
    obtain ⟨hr, hkey⟩ := hseen r rfl
    exact haccepted (hhonoured r hr hkey)
  | none =>
    dsimp only
    by_cases hlength : request.idempotencyKey.length ≤ 255
    case neg =>
      simp [checkLength, ensure, hlength, differentParameters, bind, Except.bind]
    simp only [checkLength, ensure, hlength, decide_true, if_true, ok_bind]
    cases insertReceipt db (newReceipt request fp success chargeId) with
    | some db₁ => exact haccepted rfl
    | none =>
      dsimp only
      cases hfind : findReceipt db request.idempotencyKey with
      | some r =>
        obtain ⟨hr, hkey⟩ := findReceipt_eq_some hfind
        exact haccepted (hhonoured r hr hkey)
      | none => simp [differentParameters, bind, Except.bind]

/-! ## The whole charge -/

variable {p : PaymentAttempt} {i : Invoice} {s : Subscription} {r : MockChargeReceipt}

/-- The rows after a settlement are found under their keys. -/
theorem SettledTo.statuses {db' : Db} {c : String} {v : ChargeState}
    (h : SettledTo db.books db'.books p i s c v) (hp : p ∈ db.attempts) (hi : i ∈ db.invoices)
    (hpi : i.id = p.invoiceId) (hs : s ∈ db.subscriptions) (hsi : s.id = i.subscriptionId) :
    db'.statuses p.id = some v.statuses := by
  obtain ⟨p', i', s', hversions, hrows, rfl⟩ := h
  have hattempt : db'.attempts.get? p.id = some p' := by
    have hattempts : db'.attempts = db.attempts.update p' := congrArg Books.attempts hrows
    rw [hattempts]
    exact Table.get?_eq_some_iff.mpr
      ⟨Table.mem_update_self hp hversions.attempt.id, hversions.attempt.id⟩
  have hinvoice : db'.invoices.get? p'.invoiceId = some i' := by
    have hinvoices : db'.invoices = db.invoices.update i' := congrArg Books.invoices hrows
    rw [hinvoices]
    exact Table.get?_eq_some_iff.mpr ⟨Table.mem_update_self hi hversions.invoiceId,
      hversions.invoiceId.trans (hpi.trans hversions.attempt.invoiceId.symm)⟩
  have hsubscription : db'.subscriptions.get? i'.subscriptionId = some s' := by
    have hsubs : db'.subscriptions = db.subscriptions.update s' :=
      congrArg Books.subscriptions hrows
    rw [hsubs]
    exact Table.get?_eq_some_iff.mpr ⟨Table.mem_update_self hs hversions.subscriptionId,
      hversions.subscriptionId.trans (hsi.trans hversions.invoiceSubscription.symm)⟩
  simp only [Db.statuses, hattempt, hinvoice, hsubscription, Option.bind_eq_bind, Option.bind_some]
  rfl

/-- A charge of a PENDING attempt runs through once the gateway has answered, and leaves behind the
statuses the outcome of the receipt leads to. -/
theorem charge_commits (h : db.Consistent) (hp : p ∈ db.attempts) (hopen : chargeable p = true)
    (hi : i ∈ db.invoices) (hpi : i.id = p.invoiceId) (hs : s ∈ db.subscriptions)
    (hsi : s.id = i.subscriptionId) {receipts : Table MockChargeReceipt}
    (hgateway : MockPaymentGateway.charge env db (chargeRequest p) success chargeId =
      .ok ({ db with receipts := receipts }, answer r))
    (hplain : r.providerResponse = outcomeResponse r.success)
    (hlength : r.providerChargeId.length ≤ 255) (now : DateTime) :
    ∃ db' p', PaymentService.charge env db p.id success chargeId now = .ok (db', p') ∧
      db'.receipts = receipts ∧ (∀ q' ∈ db'.attempts, ∃ q ∈ db.attempts, q.id = q'.id) ∧
      db'.statuses p.id = some ((db.books.chargeState p i s r.providerChargeId).settle
        r.providerChargeId r.success).statuses := by
  have hfetch : fetch db.attempts "PaymentAttempt" p.id = .ok p := fetch_eq_ok_iff.mpr ⟨hp, rfl⟩
  have hprovider : getPaymentGateway p.provider = .ok () := by
    rw [h.sound.keysUnique.mock p hp]
    rfl
  have hincoming : incomingChargeId (answer r).providerResponse (answer r).providerChargeId =
      .str r.providerChargeId := by
    simp only [answer, hplain, incomingChargeId_outcomeResponse]
  have hfits : ¬ tooLong env p (.str r.providerChargeId) :=
    fun hlong => absurd hlong.2.2 (not_lt.mpr hlength)
  obtain ⟨b', hsettle, hsettled⟩ := settle_commits (h.withReceipts receipts) hp hi hpi hs hsi
    (answer r).success hincoming hfits now
  -- the attempt is read again after its settlement
  obtain ⟨p', hp', hp'id, hrows⟩ : ∃ p' ∈ b'.attempts, p'.id = p.id ∧
      ∀ q' ∈ b'.attempts, ∃ q ∈ db.attempts, q.id = q'.id := by
    obtain ⟨p', i', s', hversions, rfl, -⟩ := hsettled
    refine ⟨p', Table.mem_update_self hp hversions.attempt.id, hversions.attempt.id, ?_⟩
    intro q' hq'
    rcases (Table.mem_update_of_mem hp hversions.attempt.id).mp hq' with rfl | ⟨hold, -⟩
    · exact ⟨p, hp, hversions.attempt.id.symm⟩
    · exact ⟨q', hold, rfl⟩
  have hagain : fetch (({ db with receipts := receipts } : Db).withBooks b').attempts
      "PaymentAttempt" p.id = .ok p' := fetch_eq_ok_iff.mpr ⟨hp', hp'id⟩
  refine ⟨({ db with receipts := receipts } : Db).withBooks b', p', ?_, rfl, hrows, ?_⟩
  · simp only [PaymentService.charge, hfetch, ok_bind, hopen, Bool.not_true, hprovider, hgateway,
      hsettle, hagain]
    rfl
  · exact SettledTo.statuses hsettled hp hi hpi hs hsi

end Chargeflow
