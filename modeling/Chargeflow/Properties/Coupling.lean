import Chargeflow.System.Operations

/-!
# What the statuses say about each other

In every reachable database the status of an invoice can be read off its attempts, and the status of
a subscription bounds the statuses of its invoices.  The provider is unconstrained: the results that
are settled may contradict the gateway and each other.
-/

namespace Chargeflow

open Foundation

/-- The attempts of an invoice that have a status. -/
def Db.attemptsOf (db : Db) (i : Invoice) (status : PaymentStatus) : List PaymentAttempt :=
  db.attempts.filter fun p => p.invoiceId == i.id && p.status == status

/-- The attempts of an invoice with a status. -/
theorem mem_attemptsOf {db : Db} {i : Invoice} {status : PaymentStatus} {p : PaymentAttempt} :
    p ∈ db.attemptsOf i status ↔ p ∈ db.attempts ∧ p.invoiceId = i.id ∧ p.status = status := by
  simp [Db.attemptsOf]

/-- An invoice has an attempt with a status if the list is not empty. -/
theorem hasAttempt_iff {db : Db} {i : Invoice} {status : PaymentStatus} :
    HasAttempt db.attempts i status ↔ db.attemptsOf i status ≠ [] := by
  constructor
  · rintro ⟨p, hp, hstatus⟩
    exact List.ne_nil_of_mem (mem_attemptsOf.mpr ⟨hp, hstatus⟩)
  · intro hsome
    obtain ⟨p, hp⟩ := List.exists_mem_of_ne_nil _ hsome
    exact ⟨p, mem_attemptsOf.mp hp⟩

/-- At most one attempt means a list of at most one. -/
theorem attemptsOf_length_le_one {db : Db} {status : PaymentStatus}
    (h : AtMostOne db.attempts status) (i : Invoice) : (db.attemptsOf i status).length ≤ 1 := by
  refine Table.length_filter_le_one ?_
  intro p hp q hq hpt hqt
  simp only [Bool.and_eq_true, beq_iff_eq] at hpt hqt
  exact h p hp q hq (hpt.1.trans hqt.1.symm) hpt.2 hqt.2

/-- An invoice is PAID when exactly one of its attempts is SUCCESS, and otherwise none is; at most
one of them is PENDING; and a FAILED invoice has a FAILED attempt. -/
theorem invoice_agrees_with_attempts {env : Env} {db : Db} (h : Reachable env db) {i : Invoice}
    (hi : i ∈ db.invoices) :
    (i.status = .paid ↔ (db.attemptsOf i .success).length = 1) ∧
      (i.status ≠ .paid → db.attemptsOf i .success = []) ∧
      (db.attemptsOf i .pending).length ≤ 1 ∧
      (i.status = .failed → db.attemptsOf i .failed ≠ []) := by
  have hcoupled := h.sound.coupled
  have hone := attemptsOf_length_le_one hcoupled.success i
  have hpaid : i.status = .paid ↔ db.attemptsOf i .success ≠ [] :=
    (hcoupled.paid i hi).trans hasAttempt_iff
  refine ⟨?_, ?_, attemptsOf_length_le_one hcoupled.pending i,
    fun hfailed => hasAttempt_iff.mp (hcoupled.failed i hi hfailed)⟩
  · rw [hpaid, ← List.length_pos_iff_ne_nil]
    omega
  · intro hunpaid
    by_contra hsome
    exact hunpaid (hpaid.mpr hsome)

/-- A run in which the first invoice is paid. -/
def paidRun : Db :=
  Db.empty.after sampleEnv (subscribed ++
    [.prepare 1 none true "key_1" (sampleTime 0 2), .settle 1 true [] "ch_1" (sampleTime 0 3)])

/-- A paid invoice with its one SUCCESS attempt. -/
theorem invoice_agrees_with_attempts_paidRun :
    ∃ i ∈ paidRun.invoices, i.status = .paid ∧ (paidRun.attemptsOf i .success).length = 1 := by
  obtain ⟨i, hi, hstatus⟩ : ∃ i ∈ paidRun.invoices, i.status = .paid := by decide
  exact ⟨i, hi, hstatus,
    (invoice_agrees_with_attempts (reaches_after sampleEnv Db.empty _) hi).1.mp hstatus⟩

/-! ## Subscriptions and invoices -/

/-- A subscription in its trial has no invoices; one with a FAILED invoice is OVERDUE; an OVERDUE
one has an invoice that is still ISSUED or FAILED; a CANCELED one has no open invoices; one with an
OVERDUE invoice was canceled for it.  No invoice is left a DRAFT. -/
theorem subscription_agrees_with_invoices {env : Env} {db : Db} (h : Reachable env db)
    {s : Subscription} (hs : s ∈ db.subscriptions) :
    (s.status = .trial → ∀ i ∈ db.invoices, i.subscriptionId ≠ s.id) ∧
      (∀ i ∈ db.invoices, i.subscriptionId = s.id → i.status = .failed → s.status = .overdue) ∧
      (s.status = .overdue → ∃ i ∈ db.invoices, i.subscriptionId = s.id ∧
        (i.status = .issued ∨ i.status = .failed)) ∧
      (s.status = .canceled → ∀ i ∈ db.invoices, i.subscriptionId = s.id →
        i.status = .paid ∨ i.status = .canceled ∨ i.status = .overdue) ∧
      (∀ i ∈ db.invoices, i.subscriptionId = s.id → i.status = .overdue →
        s.status = .canceled ∧ s.canceledReason = some .nonPayment) ∧
      (∀ i ∈ db.invoices, i.status ≠ .draft) := by
  have hsound := h.sound
  have hagrees := hsound.inStanding.agrees s hs
  refine ⟨fun htrial i hi his => (hagrees i hi his).billed htrial,
    fun i hi his => (hagrees i hi his).failed, hsound.inStanding.pursued s hs,
    fun hcanceled i hi his => (hagrees i hi his).closed hcanceled,
    fun i hi his => (hagrees i hi his).unpaid, ?_⟩
  intro i hi
  obtain ⟨t, ht, hti, -⟩ := hsound.linked.subscription i hi
  exact (hsound.inStanding.agrees t ht i hi hti.symm).issued

/-- A run in which the first charge fails and the subscription falls into arrears. -/
def overdueRun : Db :=
  Db.empty.after sampleEnv (subscribed ++
    [.prepare 1 none true "key_1" (sampleTime 0 2), .settle 1 false [] "ch_1" (sampleTime 0 3)])

/-- An OVERDUE subscription with an invoice that is not paid. -/
theorem subscription_agrees_with_invoices_overdueRun :
    ∃ s ∈ overdueRun.subscriptions, s.status = .overdue ∧ ∃ i ∈ overdueRun.invoices,
      i.subscriptionId = s.id ∧ (i.status = .issued ∨ i.status = .failed) := by
  obtain ⟨s, hs, hstatus⟩ : ∃ s ∈ overdueRun.subscriptions, s.status = .overdue := by decide
  exact ⟨s, hs, hstatus, (subscription_agrees_with_invoices
    (reaches_after sampleEnv Db.empty _) hs).2.2.1 hstatus⟩

end Chargeflow
