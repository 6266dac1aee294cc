import Chargeflow.System.Provider

/-!
# Charges of a consistent provider

With a consistent provider an invoice is charged successfully at most once, whatever the callers and
the workers do in between.  Dunning gives an invoice up by its FAILED attempts; it does not wait for
an attempt that is still PENDING, so the charge of that one may have succeeded already.  The success
of any other attempt would be known.
-/

namespace Chargeflow

open Foundation MockPaymentGateway

variable {env : Env}

/-! ## One success -/

/-- The receipts of successful charges of the invoice `n`. -/
def successReceipts (db : Db) (n : ℕ) : List MockChargeReceipt :=
  db.receipts.filter fun r => r.success && db.attempts.any fun p =>
    p.invoiceId == n && p.providerIdempotencyKey == r.providerIdempotencyKey

/-- At most one charge of an invoice succeeds. -/
theorem one_success_per_invoice {sys : Sys} (h : Reaches (SysStep env) Sys.empty sys) (n : ℕ) :
    (successReceipts sys.db n).length ≤ 1 := by
  have htruthful := (Reaches.inOrder h).truthful
  refine Table.length_filter_le_one ?_
  intro r hr r' hr' htest htest'
  simp only [Bool.and_eq_true, Table.any_eq_true, beq_iff_eq] at htest htest'
  obtain ⟨hsuccess, p, hp, hpn, hpkey⟩ := htest
  obtain ⟨hsuccess', q, hq, hqn, hqkey⟩ := htest'
  exact htruthful.charged_unique hp hq (hpn.trans hqn.symm) hr hr' hpkey.symm hqkey.symm hsuccess
    hsuccess'

/-- The charge of an issued invoice, made by the worker. -/
def workerCharge (providerKey chargeId : String) (success : Bool) (now : DateTime) : List Event :=
  [.call 1 none true providerKey now, .advance 0 success chargeId now,
    .advance 0 success chargeId now, .advance 0 success chargeId now,
    .advance 0 success chargeId now]

/-- The first charge succeeds, and the task is run again. -/
def paidEvents : List Event :=
  subscribed.map .transact ++ workerCharge "key_1" "mock_1" true (sampleTime 0 2) ++
    workerCharge "key_2" "mock_2" true (sampleTime 0 3)

/-- After a paid run the first invoice has one receipt of a success, so the bound is met. -/
theorem one_success_per_invoice_paid :
    0 < (successReceipts (Sys.empty.after sampleEnv paidEvents).db 1).length ∧
      (successReceipts (Sys.empty.after sampleEnv paidEvents).db 1).length ≤ 1 :=
  ⟨by decide, one_success_per_invoice (sys_reaches_after sampleEnv Sys.empty _) 1⟩

/-! ## Giving up -/

/-- A transaction gives the invoice `n` up, and cancels its subscription for it. -/
def GivenUp (db db' : Db) (n : ℕ) : Prop :=
  (∃ i ∈ db.invoices, i.id = n ∧ i.status = .failed) ∧
    ∃ i ∈ db'.invoices, i.id = n ∧ i.status = .overdue ∧
      (∃ s ∈ db.subscriptions, s.id = i.subscriptionId ∧ s.status ≠ .canceled) ∧
      ∃ s ∈ db'.subscriptions, s.id = i.subscriptionId ∧ s.status = .canceled ∧
        s.canceledReason = some .nonPayment

/-- Whether an invoice was given up can be computed. -/
instance (db db' : Db) (n : ℕ) : Decidable (GivenUp db db' n) := by
  unfold GivenUp; infer_instance

/-- Whether an attempt has a receipt can be computed. -/
instance (receipts : Table MockChargeReceipt) (p : PaymentAttempt) (success : Bool) :
    Decidable (HasReceipt receipts p success) := by
  unfold HasReceipt; infer_instance

/-- When dunning gives an invoice up, an attempt of it that was charged successfully is still
PENDING. -/
theorem charged_attempt_pending_of_givenUp {sys : Sys} (h : Reaches (SysStep env) Sys.empty sys)
    {n : ℕ} {now : DateTime} {db' : Db} (hdun : dunInvoice sys.db n now = .ok db')
    (hgiven : GivenUp sys.db db' n) :
    ∀ p ∈ db'.attempts, p.invoiceId = n → HasReceipt db'.receipts p true → p.status = .pending := by
  intro p hp hinvoice hcharged
  have hstep : SysStep env sys { sys with db := db' } := by
    have hop : (Operation.dun n now).apply env sys.db = .ok db' := hdun
    exact ⟨.transact (.dun n now), by simp [Sys.step, permitted, hop]⟩
  have hreach' : Reaches (SysStep env) Sys.empty { sys with db := db' } := h.tail hstep
  have hfailed : p.status ≠ .failed := (Reaches.inOrder hreach').truthful.not_failed hp hcharged
  have hsuccess : p.status ≠ .success := by
    intro hstatus
    obtain ⟨-, i, hi, hid, hoverdue, -⟩ := hgiven
    have hpaid := ((Reaches.db hreach').sound.coupled.paid i hi).mpr
      ⟨p, hp, hinvoice.trans hid.symm, hstatus⟩
    simp [hpaid] at hoverdue
  cases hstatus : p.status with
  | pending => rfl
  | failed => exact absurd hstatus hfailed
  | success => exact absurd hstatus hsuccess

/-- Three charges fail, and dunning reissues the invoice after each of the first two. -/
def declinedEvents : List Event :=
  subscribed.map .transact ++ workerCharge "key_1" "mock_1" false (sampleTime 0 2) ++
    [.transact (.dun 1 (sampleTime 0 3))] ++
    workerCharge "key_2" "mock_2" false (sampleTime 0 4) ++
    [.transact (.dun 1 (sampleTime 0 5))] ++
    workerCharge "key_3" "mock_3" false (sampleTime 0 6)

/-- Then the invoice is charged by hand, and the result of the charge is not settled yet. -/
def outstanding : Db :=
  (Sys.empty.after sampleEnv (declinedEvents ++
    [.call 1 (some "K") false "key_4" (sampleTime 0 7),
      .advance 0 true "mock_4" (sampleTime 0 7), .advance 0 true "mock_4" (sampleTime 0 7),
      .advance 0 true "mock_4" (sampleTime 0 7)])).db

/-- Dunning gives the invoice up. -/
def exhausted : Db := outstanding.after sampleEnv [.dun 1 (sampleTime 0 8)]

/-- Dunning gives up the invoice with the PENDING attempt. -/
theorem dun_outstanding : dunInvoice outstanding 1 (sampleTime 0 8) = .ok exhausted :=
  @apply_eq_after sampleEnv outstanding (.dun 1 (sampleTime 0 8)) (by decide +kernel)

/-- The charged attempt is still PENDING after the invoice was given up. -/
theorem charged_attempt_pending_of_givenUp_outstanding :
    ∃ p ∈ exhausted.attempts, p.idempotencyKey = some "K" ∧ p.status = .pending := by
  obtain ⟨p, hp, hinvoice, hkey, hcharged⟩ : ∃ p ∈ exhausted.attempts, p.invoiceId = 1 ∧
      p.idempotencyKey = some "K" ∧ HasReceipt exhausted.receipts p true := by decide +kernel
  exact ⟨p, hp, hkey, charged_attempt_pending_of_givenUp (sys_reaches_after sampleEnv Sys.empty _)
    dun_outstanding (by decide +kernel) p hp hinvoice hcharged⟩

/-- The invoice is given up for non-payment although its last charge has succeeded. -/
theorem charged_although_givenUp :
    ¬ ∀ (env : Env) (sys : Sys) (n : ℕ) (now : DateTime) (db' : Db),
      Reaches (SysStep env) Sys.empty sys → dunInvoice sys.db n now = .ok db' →
      GivenUp sys.db db' n → ∀ p ∈ db'.attempts, p.invoiceId = n →
        ¬ HasReceipt db'.receipts p true := by
  intro hclaim
  have hcharged : ∃ p ∈ exhausted.attempts, p.invoiceId = 1 ∧
      HasReceipt exhausted.receipts p true := by decide +kernel
  obtain ⟨p, hp, hinvoice, hreceipt⟩ := hcharged
  exact hclaim sampleEnv _ 1 (sampleTime 0 8) exhausted (sys_reaches_after sampleEnv Sys.empty _)
    dun_outstanding (by decide +kernel) p hp hinvoice hreceipt

end Chargeflow
