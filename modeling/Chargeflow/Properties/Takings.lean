import Chargeflow.System.Ledger
import Chargeflow.System.Takings

/-!
# The books add up

What the provider has taken for an organization is what its PAID invoices come to, what was taken
for attempts that are still to be settled, and what came too late: a consistent provider has an
attempt flagged only when its subscription was CANCELED while the charge was under way.  The sums
are taken over tables whose rows change with every transaction, so they are compared row by row: a
receipt with the attempt of its key, and a SUCCESS attempt with its invoice.
-/

namespace Chargeflow

open Foundation PaymentService

variable {env : Env} {db : Db}

/-! ## Flagged attempts -/

/-- An attempt that needs reconciliation belongs to a CANCELED subscription. -/
theorem flagged_of_canceled {sys : Sys} (h : Reaches (SysStep env) Sys.empty sys) :
    ∀ p ∈ sys.db.attempts, p.needsReconciliation = true →
      ∃ i ∈ sys.db.invoices, i.id = p.invoiceId ∧
        ∃ s ∈ sys.db.subscriptions, s.id = i.subscriptionId ∧ s.status = .canceled :=
  (Reaches.audited h).audited.flagged

/-- The subscription is canceled after the charge has succeeded, and before the result is
settled. -/
def canceledEvents : List Event :=
  subscribed.map .transact ++
    [.call 1 none true "key_1" (sampleTime 0 2), .advance 0 true "mock_1" (sampleTime 0 2),
      .advance 0 true "mock_1" (sampleTime 0 2), .advance 0 true "mock_1" (sampleTime 0 2),
      .transact (.cancel 1 .voluntary (sampleTime 0 3)),
      .advance 0 true "mock_1" (sampleTime 0 4)]

/-- In the race with the cancellation, the attempt of the canceled subscription is flagged. -/
theorem flagged_of_canceled_race :
    ∃ p ∈ (Sys.empty.after sampleEnv canceledEvents).db.attempts, p.needsReconciliation = true ∧
      ∃ i ∈ (Sys.empty.after sampleEnv canceledEvents).db.invoices, i.id = p.invoiceId ∧
        ∃ s ∈ (Sys.empty.after sampleEnv canceledEvents).db.subscriptions,
          s.id = i.subscriptionId ∧ s.status = .canceled := by
  obtain ⟨p, hp, hflag⟩ : ∃ p ∈ (Sys.empty.after sampleEnv canceledEvents).db.attempts,
      p.needsReconciliation = true := by decide +kernel
  exact ⟨p, hp, hflag,
    flagged_of_canceled (sys_reaches_after sampleEnv Sys.empty canceledEvents) p hp hflag⟩

/-! ## Honest receipts -/

/-- With a consistent provider the attempts agree with the receipts of their keys. -/
theorem Reaches.honest {sys : Sys} (h : Reaches (SysStep env) Sys.empty sys) :
    Honest sys.db.attempts sys.db.receipts := by
  refine h.invariant (I := fun sys => Honest sys.db.attempts sys.db.receipts) ?_ ?_
  · intro p hp
    simp [Sys.empty, Db.empty] at hp
  · intro a b hreach ha hstep
    have hconsistent := (Reaches.db hreach).consistent
    obtain ⟨hprovider, -⟩ := hstep.providerStep hconsistent (Reaches.inOrder hreach)
      (Reaches.audited hreach).quoting
    exact hprovider.honest ha

/-! ## The parts -/

/-- Each charged attempt has one receipt, so the provider has taken what the charged attempts come
to. -/
theorem taken_eq (h : Truthful db.attempts db.receipts) (organizationId : ℕ) (currency : String) :
    db.taken organizationId currency = db.attempts.total
      (fun p => p.isOf organizationId currency && db.charged p) PaymentAttempt.amount := by
  refine Table.sum_total_matched db.attempts db.receipts (PaymentAttempt.isOf organizationId currency)
    MockChargeReceipt.success PaymentAttempt.amount PaymentAttempt.providerIdempotencyKey
    MockChargeReceipt.providerIdempotencyKey ?_
  intro r hr r' hr' _ _ hkey
  exact h.unique r hr r' hr' hkey

/-- Each PAID invoice has one SUCCESS attempt, of its amount. -/
theorem earned_eq (hsound : Sound db.books) (hpriced : Priced db) (organizationId : ℕ)
    (currency : String) : db.earned organizationId currency = db.attempts.total
      (fun p => p.isOf organizationId currency && p.status == .success) PaymentAttempt.amount := by
  symm
  have hinvoice : ∀ p ∈ db.attempts, ∃ i ∈ db.invoices, i.id = p.invoiceId ∧
      p.isOf organizationId currency = i.isOf organizationId currency ∧ i.total = p.amount := by
    intro p hp
    obtain ⟨i, hi, hid, horg⟩ := hsound.linked.invoice p hp
    obtain ⟨hamount, hcurrency⟩ := hpriced.attempt p hp i hi hid
    refine ⟨i, hi, hid, ?_, hamount.symm⟩
    rw [PaymentAttempt.isOf, Invoice.isOf, horg, hcurrency]
  refine Table.total_eq_of_matched PaymentAttempt.invoiceId Invoice.id ?_ ?_ ?_ ?_
  · intro p hp q hq htest htest' hpq
    simp only [Bool.and_eq_true, beq_iff_eq] at htest htest'
    exact hsound.coupled.success p hp q hq hpq htest.2 htest'.2
  · intro i hi j hj _ _ hij
    exact Table.eq_of_key_eq hi hj hij
  · intro p hp htest
    simp only [Bool.and_eq_true, beq_iff_eq] at htest
    obtain ⟨i, hi, hid, hof, htotal⟩ := hinvoice p hp
    have hpaid : i.status = .paid :=
      (hsound.coupled.paid i hi).mpr ⟨p, hp, hid.symm, htest.2⟩
    exact ⟨i, hi, by simp [← hof, htest.1, hpaid], hid, htotal⟩
  · intro i hi htest
    simp only [Bool.and_eq_true, beq_iff_eq] at htest
    obtain ⟨p, hp, hpi, hsuccess⟩ := (hsound.coupled.paid i hi).mp htest.2
    obtain ⟨j, hj, hid, hof, -⟩ := hinvoice p hp
    obtain rfl := Table.eq_of_key_eq hj hi (hid.trans hpi)
    exact ⟨p, hp, by simp [hof, htest.1, hsuccess], hpi⟩

/-! ## The sum -/

/-- What the provider has taken is accounted for: it was earned, it waits for its settlement, or it
came too late, for a subscription that is CANCELED. -/
theorem takings_add_up {sys : Sys} (h : Reaches (SysStep env) Sys.empty sys) (organizationId : ℕ)
    (currency : String) :
    sys.db.taken organizationId currency = sys.db.earned organizationId currency +
      (sys.db.awaiting organizationId currency + sys.db.late organizationId currency) ∧
    ∀ p ∈ sys.db.attempts, sys.db.charged p = true →
      p.status = .success ∧ (∃ i ∈ sys.db.invoices, i.id = p.invoiceId ∧ i.status = .paid) ∨
      p.status = .pending ∧ (p.needsReconciliation = true → OnClosed sys.db.books p) := by
  have hsound := (Reaches.db h).sound
  have htruthful := (Reaches.inOrder h).truthful
  have haudited := (Reaches.audited h).audited
  have hcharged : ∀ p ∈ sys.db.attempts, sys.db.charged p = true → p.status ≠ .failed :=
    fun p hp hcharge => htruthful.not_failed hp (Db.charged_iff.mp hcharge)
  refine ⟨?_, ?_⟩
  · rw [taken_eq htruthful, earned_eq hsound (Reachable.priced (Reaches.db h)),
      Table.total_split _ _ fun p => p.status == .success]
    congr 1
    · refine Table.total_congr _ ?_
      intro p hp
      cases hsuccess : p.status == .success with
      | false => simp
      | true =>
        have hreceipt := Db.charged_iff.mpr (Reaches.honest h p hp (beq_iff_eq.mp hsuccess))
        simp [hreceipt]
    · rw [Table.total_split _ _ fun p => !p.needsReconciliation]
      congr 1
      · refine Table.total_congr _ ?_
        intro p hp
        cases hcharge : sys.db.charged p with
        | false => simp
        | true =>
          have hpending : (PaymentStatus.pending == PaymentStatus.success) = false := rfl
          cases hstatus : p.status with
          | failed => exact absurd hstatus (hcharged p hp hcharge)
          | pending => simp [chargeable, hstatus, hpending]
          | success => simp [chargeable, hstatus]
      · refine Table.total_congr _ ?_
        intro p hp
        simp [bne, Bool.and_assoc]
  · intro p hp hcharge
    have hfailed := hcharged p hp hcharge
    cases hstatus : p.status with
    | failed => exact absurd hstatus hfailed
    | pending => exact Or.inr ⟨rfl, haudited.flagged p hp⟩
    | success =>
      obtain ⟨i, hi, hid, -⟩ := hsound.linked.invoice p hp
      exact Or.inl ⟨rfl, i, hi, hid, (hsound.coupled.paid i hi).mpr ⟨p, hp, hid.symm, hstatus⟩⟩

/-- The charge of a subscription that is canceled meanwhile comes too late. -/
theorem takings_add_up_canceled :
    (Sys.empty.after sampleEnv canceledEvents).db.taken 1 "USD" = 1999 ∧
    (Sys.empty.after sampleEnv canceledEvents).db.late 1 "USD" = 1999 ∧
    (Sys.empty.after sampleEnv canceledEvents).db.taken 1 "USD" =
      (Sys.empty.after sampleEnv canceledEvents).db.earned 1 "USD" +
        ((Sys.empty.after sampleEnv canceledEvents).db.awaiting 1 "USD" +
          (Sys.empty.after sampleEnv canceledEvents).db.late 1 "USD") :=
  ⟨by decide +kernel, by decide +kernel,
    (takings_add_up (sys_reaches_after sampleEnv Sys.empty canceledEvents) 1 "USD").1⟩

end Chargeflow
