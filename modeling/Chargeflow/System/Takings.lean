import Chargeflow.Foundation.Totals
import Chargeflow.System.Ledger
import Chargeflow.System.Prices

/-!
# Money taken and money earned

The provider has taken what its receipts of successful charges say; the books have earned what the
PAID invoices say.  The amounts are those of one organization in one currency.
-/

namespace Chargeflow

open Foundation MockPaymentGateway

/-! ## Amounts -/

/-- The attempt is one of the organization, in the currency. -/
def PaymentAttempt.isOf (organizationId : ℕ) (currency : String) (p : PaymentAttempt) : Bool :=
  p.organizationId == organizationId && p.currency == currency

/-- The invoice is one of the organization in the currency. -/
def Invoice.isOf (organizationId : ℕ) (currency : String) (i : Invoice) : Bool :=
  i.organizationId == organizationId && i.currency == currency

/-- The ledger holds a receipt of a successful charge for the attempt. -/
def Db.charged (db : Db) (p : PaymentAttempt) : Bool :=
  db.receipts.any fun r => r.success && r.providerIdempotencyKey == p.providerIdempotencyKey

/-- What the provider has taken: each receipt of a successful charge counts the amount of its
attempt. -/
def Db.taken (db : Db) (organizationId : ℕ) (currency : String) : ℤ :=
  ((db.receipts.filter MockChargeReceipt.success).map fun r => db.attempts.total (fun p =>
    p.isOf organizationId currency && r.providerIdempotencyKey == p.providerIdempotencyKey)
    PaymentAttempt.amount).sum

/-- What the PAID invoices come to. -/
def Db.earned (db : Db) (organizationId : ℕ) (currency : String) : ℤ :=
  db.invoices.total (fun i => i.isOf organizationId currency && i.status == .paid) Invoice.total

/-- What was taken for attempts that are not settled yet. -/
def Db.awaiting (db : Db) (organizationId : ℕ) (currency : String) : ℤ :=
  db.attempts.total (fun p => p.isOf organizationId currency && db.charged p &&
    PaymentService.chargeable p) PaymentAttempt.amount

/-- What was taken for attempts that are flagged for reconciliation and did not become SUCCESS. -/
def Db.late (db : Db) (organizationId : ℕ) (currency : String) : ℤ :=
  db.attempts.total (fun p => p.isOf organizationId currency && db.charged p &&
    (p.status != .success && p.needsReconciliation)) PaymentAttempt.amount

/-! ## Successes -/

/-- An attempt that is a SUCCESS was charged. -/
def Honest (attempts : Table PaymentAttempt) (receipts : Table MockChargeReceipt) : Prop :=
  ∀ p ∈ attempts, p.status = .success → HasReceipt receipts p true

/-- An attempt was charged if the ledger has a success for it. -/
theorem Db.charged_iff {db : Db} {p : PaymentAttempt} :
    db.charged p = true ↔ HasReceipt db.receipts p true := by
  simp only [Db.charged, Table.any_eq_true, Bool.and_eq_true, beq_iff_eq, HasReceipt]
  constructor
  · rintro ⟨r, hr, hsuccess, hkey⟩
    exact ⟨r, hr, hkey, hsuccess⟩
  · rintro ⟨r, hr, hkey, hsuccess⟩
    exact ⟨r, hr, hsuccess, hkey⟩

/-- A settlement makes an attempt a SUCCESS only if it brings one. -/
theorem ChargeState.settle_success {v : ChargeState} {c : String} {success : Bool}
    (h : (v.settle c success).status = .success) : v.status = .success ∨ success = true := by
  cases success with
  | true => exact Or.inr rfl
  | false =>
    refine Or.inl ?_
    unfold settle at h
    rw [if_neg Bool.false_ne_true] at h
    split_ifs at h with hdone hconflict hended hlong htaken
    · exact h
    · exact h
    · exact h
    · exact h
    · exact h
    · unfold decline at h
      split_ifs at h with hfailed hopen
      · exact h
      · cases h

/-- A transaction that settles no charge makes no attempt a SUCCESS. -/
theorem Lifecycle.success_origin {readings : List DateTime} {b b' : Books}
    (h : Lifecycle readings b b') {p : PaymentAttempt} (hp : p ∈ b'.attempts)
    (hsuccess : p.status = .success) : p ∈ b.attempts := by
  cases h with
  | prepared =>
    rcases Table.mem_insert.mp hp with hold | rfl
    · exact hold
    · exact PaymentStatus.noConfusion hsuccess
  | _ => exact hp

variable {env : Env} {db db' : Db}

/-- A step of the provider keeps the ledger honest. -/
theorem ProviderStep.honest (h : ProviderStep db db') (hdb : Honest db.attempts db.receipts) :
    Honest db'.attempts db'.receipts := by
  have hmono : ∀ {p p' : PaymentAttempt}, (∀ r ∈ db.receipts, r ∈ db'.receipts) →
      p'.providerIdempotencyKey = p.providerIdempotencyKey → HasReceipt db.receipts p true →
      HasReceipt db'.receipts p' true := by
    rintro p p' hreceipts hkey ⟨r, hr, hrkey, hsuccess⟩
    exact ⟨r, hreceipts r hr, hrkey.trans hkey.symm, hsuccess⟩
  cases h with
  | followed h =>
    intro p' hp' hsuccess
    have hold : p' ∈ db.attempts := h.books.success_origin hp' hsuccess
    exact hmono (fun r hr => h.receipts ▸ hr) rfl (hdb p' hold hsuccess)
  | drawn hfresh hsame hreceipts =>
    intro p' hp' hsuccess
    have hattempts : db'.attempts = db.attempts := congrArg Books.attempts hsame
    exact hmono (fun r hr => hreceipts ▸ Table.mem_insert_of_mem hr) rfl
      (hdb p' (hattempts ▸ hp') hsuccess)
  | @settled p r h hreceipts =>
    obtain ⟨hp, hr, i, hi, s, hs, hpi, hsi, p', i', s', hversions, hrows, hstate⟩ := h
    have hattempts : db'.attempts = db.attempts.update p' := congrArg Books.attempts hrows
    intro q hq hsuccess
    rw [hattempts] at hq
    rcases (Table.mem_update_of_mem hp hversions.attempt.id).mp hq with rfl | ⟨hold, -⟩
    · refine hmono (fun r hr => hreceipts ▸ hr) hversions.attempt.providerIdempotencyKey ?_
      have hsettled : ((db.books.chargeState p i s r.providerChargeId).settle r.providerChargeId
          r.success).status = .success := hstate ▸ hsuccess
      rcases ChargeState.settle_success hsettled with hbefore | hcharged
      · exact hdb p hp hbefore
      · exact hcharged ▸ hr.hasReceipt
    · exact hmono (fun r hr => hreceipts ▸ hr) rfl (hdb q hold hsuccess)

end Chargeflow
