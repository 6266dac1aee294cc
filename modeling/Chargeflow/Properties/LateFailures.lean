import Chargeflow.System.Handoffs
import Chargeflow.Properties.Issues

/-!
# Late failures

A failure may arrive long after its attempt: in the meantime dunning may have reissued the invoice
and handed it to the worker again.  A failure of an attempt that the provider is not asked about any
more leaves the invoice ISSUED, and the worker goes on as if it had not come.  The other attempts
are PENDING ones: the worker does not make a further attempt beside such an attempt but resumes it,
so its failure is the outcome of the charge that was handed off.
-/

namespace Chargeflow

open Foundation PaymentService

variable {env : Env}

/-- What the charge task of an invoice decides: the attempt, by its key, and whether the provider is
called. -/
def chargeTaskOutcome (db : Db) (invoiceId : ℕ) (providerKey : String) (now : DateTime) :
    Except Err (Option ℕ × Bool) :=
  preparedFor (prepare db invoiceId none true providerKey now)

/-- A failure of an attempt that is not to be charged changes no more than that attempt, in columns
that no charge task goes by. -/
theorem settle_failure_of_not_chargeable {db db' : Db} (h : db.Consistent) {p : PaymentAttempt}
    (hp : p ∈ db.attempts) (hdone : chargeable p = false) {response : List (String × Json)}
    {chargeId : String} {now : DateTime}
    (hrun : settle env db p.id false response chargeId now = .ok db') :
    ∃ row : PaymentAttempt, row.ActsAs p ∧
      db' = { db with attempts := db.attempts.update row } := by
  obtain ⟨i, hi, s, hs, hpi, hsi⟩ := h.rows hp
  have hkept : ∃ row : PaymentAttempt, row.ActsAs p ∧
      db = { db with attempts := db.attempts.update row } :=
    ⟨p, ⟨.refl p, rfl, rfl⟩, by rw [Table.update_self hp]⟩
  rw [h.settle_eq hp hi hpi hs hsi] at hrun
  split_ifs at hrun with hlong
  obtain rfl := Except.ok.inj hrun
  unfold settledBooks
  by_cases hopen : p.Unsettled
  · -- an attempt that may still be settled, but not be charged, has FAILED
    have hfailed : p.status = .failed := by
      cases hstatus : p.status with
      | pending => simp [chargeable, hstatus, hopen.2] at hdone
      | success => exact absurd hstatus hopen.1
      | failed => rfl
    have hwritten : ∀ row : PaymentAttempt, p.SameSnapshot row → row.status = p.status →
        ∃ v : PaymentAttempt, v.ActsAs p ∧
          db.withBooks { db.books with attempts := db.books.attempts.update row } =
            { db with attempts := db.attempts.update v } := by
      intro row hsnapshot hstatus
      refine ⟨row, ⟨hsnapshot, hstatus, ?_⟩, rfl⟩
      rw [chargeable, chargeable, hstatus, hfailed]
      rfl
    rw [if_neg (fun h => h.2 hopen), if_neg (not_not.mpr hopen), if_neg Bool.false_ne_true,
      if_pos hfailed]
    split_ifs
    · exact hwritten _ ⟨rfl, rfl, rfl, rfl, rfl, rfl, rfl, rfl, rfl, rfl, rfl⟩ rfl
    · exact hwritten _ ⟨rfl, rfl, rfl, rfl, rfl, rfl, rfl, rfl, rfl, rfl, rfl⟩ rfl
    · exact hwritten _ ⟨rfl, rfl, rfl, rfl, rfl, rfl, rfl, rfl, rfl, rfl, rfl⟩ rfl
    · exact hwritten p (.refl p) rfl
  · rw [if_pos ⟨rfl, hopen⟩]
    exact hkept

/-- A PENDING attempt that is not flagged is the one the charge task goes to, as long as no attempt
has been made since the invoice was issued. -/
theorem chargeTaskOutcome_of_chargeable {db : Db} (h : db.Consistent) {i : Invoice}
    (hi : i ∈ db.invoices) (hissued : i.status = .issued) {p : PaymentAttempt}
    (hp : p ∈ db.attempts) (hpi : p.invoiceId = i.id) (hopen : chargeable p = true)
    (hnone : ∀ q ∈ db.attempts, q.invoiceId = i.id → sinceIssue i q = false) (providerKey : String)
    (now : DateTime) : chargeTaskOutcome db i.id providerKey now = .ok (some p.id, true) := by
  obtain ⟨s, hs, hsi, -⟩ := h.sound.linked.subscription i hi
  have hpending : p.status = .pending := by
    simp only [chargeable, Bool.and_eq_true, beq_iff_eq] at hopen
    exact hopen.1
  have hthis : firstAttempt db i (sinceIssue i) = none := by
    refine Table.head?_filter_eq_none.mpr ?_
    intro q hq
    by_cases hqi : q.invoiceId = i.id
    · rw [hnone q hq hqi, Bool.and_false]
    · simp [hqi]
  have hexisting : firstAttempt db i (fun q => q.status == .pending || q.status == .success) =
      some p := by
    refine Table.head?_filter_of_unique hp (by simp [hpi, hpending]) ?_
    intro q hq htest
    simp only [Bool.and_eq_true, Bool.or_eq_true, beq_iff_eq] at htest
    rcases htest with ⟨hqi, hstatus | hstatus⟩
    · exact h.sound.coupled.pending q hq p hp (hqi.trans hpi.symm) hstatus hpending
    · -- an invoice with a successful attempt is PAID
      have hpaid := (h.sound.coupled.paid i hi).mpr ⟨q, hq, hqi, hstatus⟩
      simp [hissued] at hpaid
  have hpayable : i.Payable := Invoice.payable_iff.mpr (Or.inl hissued)
  have hskip : ¬ (true && i.status != .issued) = true := by simp [hissued]
  unfold chargeTaskOutcome prepare
  have hinvoice : fetch db.invoices "Invoice" i.id = .ok i := fetch_eq_ok_iff.mpr ⟨hi, rfl⟩
  have hsubscription : fetch db.subscriptions "Subscription" i.subscriptionId = .ok s :=
    fetch_eq_ok_iff.mpr ⟨hs, hsi⟩
  rw [hinvoice, ok_bind, hsubscription, ok_bind, if_neg hskip]
  -- without a client key there is nothing to replay
  change preparedFor (prepareAttempt db s i none providerKey now) = _
  unfold prepareAttempt
  rw [hthis, hexisting, if_neg (not_not.mpr hpayable), if_pos hissued]
  simp only [hopen]
  rfl

/-- A failure of an attempt of an ISSUED invoice leaves every invoice and every subscription and the
decision of the charge task as they are, unless the attempt is one that this task resumes. -/
theorem late_failure_leaves_issue {db : Db} (h : Reachable env db) {i : Invoice}
    (hi : i ∈ db.invoices) (hissued : i.status = .issued) {p : PaymentAttempt}
    (hp : p ∈ db.attempts) (hpi : p.invoiceId = i.id) :
    (chargeable p = false → ∀ (response : List (String × Json)) (chargeId : String)
      (now : DateTime) (db' : Db), settle env db p.id false response chargeId now = .ok db' →
      db'.invoices = db.invoices ∧ db'.subscriptions = db.subscriptions ∧ ∀ providerKey now',
        chargeTaskOutcome db' i.id providerKey now' = chargeTaskOutcome db i.id providerKey now') ∧
    (chargeable p = true → (∀ q ∈ db.attempts, q.invoiceId = i.id → sinceIssue i q = false) →
      ∀ providerKey now', chargeTaskOutcome db i.id providerKey now' = .ok (some p.id, true)) := by
  refine ⟨?_, ?_⟩
  · intro hdone response chargeId now db' hrun
    obtain ⟨row, hrow, rfl⟩ := settle_failure_of_not_chargeable h.consistent hp hdone hrun
    exact ⟨rfl, rfl, fun providerKey now' =>
      prepare_update hp hrow i.id none true providerKey now'⟩
  · intro hopen hnone providerKey now'
    exact chargeTaskOutcome_of_chargeable h.consistent hi hissued hp hpi hopen hnone providerKey
      now'

/-- An invoice was reissued after its first attempt failed, and the task it was handed to has not
run yet. -/
def queuedRetry : Db := Db.empty.after sampleEnv reissuedOperations

/-- The sample with a queued retry is reached. -/
theorem reachable_queuedRetry : Reachable sampleEnv queuedRetry := reaches_after _ _ _

/-- The late failure of the first attempt leaves the retry to be charged. -/
theorem late_failure_leaves_issue_queuedRetry : ∃ db',
    settle sampleEnv queuedRetry 1 false [] "ch_1" (sampleTime 0 5) = .ok db' ∧
      chargeTaskOutcome db' 1 "key_2" (sampleTime 0 6) = .ok (some 2, true) := by
  obtain ⟨i, hi, hid, hissued⟩ : ∃ i ∈ queuedRetry.invoices, i.id = 1 ∧ i.status = .issued := by
    decide +kernel
  obtain ⟨p, hp, hpid, hpi, hdone⟩ : ∃ p ∈ queuedRetry.attempts, p.id = 1 ∧ p.invoiceId = 1 ∧
      chargeable p = false := by decide +kernel
  have hrun : (Operation.settle 1 false [] "ch_1" (sampleTime 0 5)).apply sampleEnv queuedRetry =
      .ok _ := apply_eq_after _ (by decide +kernel)
  obtain ⟨-, -, hsame⟩ := (late_failure_leaves_issue reachable_queuedRetry hi hissued hp
    (hpi.trans hid.symm)).1 hdone [] "ch_1" (sampleTime 0 5) _ (by rw [hpid]; exact hrun)
  refine ⟨_, hrun, ?_⟩
  rw [hid] at hsame
  rw [hsame]
  decide +kernel

/-- A charge by hand is prepared for the FAILED invoice before dunning reissues it. -/
def overtakenAttempt : Db :=
  Db.empty.after sampleEnv (subscribed ++
    [.prepare 1 none true "key_1" (sampleTime 0 2), .settle 1 false [] "ch_1" (sampleTime 0 3),
      .prepare 1 none false "key_2" (sampleTime 0 4), .dun 1 (sampleTime 0 5)])

/-- The failure of a PENDING attempt that was made before the invoice was reissued fails the invoice
again, and the charge task does nothing. -/
theorem late_failure_fails_issue :
    ¬ ∀ (env : Env) (db : Db), Reachable env db → ∀ i ∈ db.invoices, i.status = .issued →
      ∀ p ∈ db.attempts, p.invoiceId = i.id → (∃ t, i.issuedAt = some t ∧ p.attemptedAt < t) →
      ∀ (response : List (String × Json)) (chargeId : String) (now : DateTime) (db' : Db),
        settle env db p.id false response chargeId now = .ok db' →
        ∀ i' ∈ db'.invoices, i'.id = i.id → i'.status = i.status := by
  intro hclaim
  have hrun : (Operation.settle 2 false [] "ch_2" (sampleTime 0 6)).apply sampleEnv
      overtakenAttempt = .ok _ := apply_eq_after _ (by decide +kernel)
  obtain ⟨i, hi, hid, hissued, hold⟩ : ∃ i ∈ overtakenAttempt.invoices, i.id = 1 ∧
      i.status = .issued ∧ i.issuedAt = some (sampleTime 0 5) := by decide +kernel
  obtain ⟨p, hp, hpid, hpi, hbefore⟩ : ∃ p ∈ overtakenAttempt.attempts, p.id = 2 ∧
      p.invoiceId = 1 ∧ p.attemptedAt < sampleTime 0 5 := by decide +kernel
  have hkept := hclaim sampleEnv overtakenAttempt (reaches_after _ _ _) i hi hissued p hp
    (hpi.trans hid.symm) ⟨_, hold, hbefore⟩ [] "ch_2" (sampleTime 0 6) _ (by rw [hpid]; exact hrun)
  obtain ⟨i', hi', hid', hfailed⟩ : ∃ i ∈ (overtakenAttempt.after sampleEnv
      [.settle 2 false [] "ch_2" (sampleTime 0 6)]).invoices, i.id = 1 ∧ i.status = .failed := by
    decide +kernel
  have hstatus := hkept i' hi' (hid'.trans hid.symm)
  simp [hfailed, hissued] at hstatus

end Chargeflow
