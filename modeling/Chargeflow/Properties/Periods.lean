import Chargeflow.System.Clock

/-!
# No stretch of time is billed twice

Of a clock that never goes backwards the rule needs only that the readings of one transaction are in
order.  Neither the order of the transactions nor their number matters, and a period may be billed
as often as anybody asks for it.
-/

namespace Chargeflow

open Foundation

variable {env : Env}

/-- The periods of the invoices of a subscription are not empty and do not overlap, and the current
period of an ACTIVE or OVERDUE subscription is billed by exactly one invoice. -/
theorem periods_billed_once {db : Db} (h : Reaches (ClockedStep env) Db.empty db) {s : Subscription}
    (hs : s ∈ db.subscriptions) :
    (∀ i ∈ db.invoices, i.subscriptionId = s.id → i.periodStart < i.periodEnd) ∧
    (∀ i ∈ db.invoices, ∀ j ∈ db.invoices, i.subscriptionId = s.id → j.subscriptionId = s.id →
      i ≠ j → Disjoint (Set.Ico i.periodStart i.periodEnd) (Set.Ico j.periodStart j.periodEnd)) ∧
    (s.status = .active ∨ s.status = .overdue → ∃! i, i ∈ db.invoices ∧ i.Covers s) := by
  have hperiods := Reaches.periods h
  refine ⟨fun i hi _ => hperiods.nonempty i hi, ?_, ?_⟩
  · intro i hi j hj his hjs hne
    exact hperiods.disjoint i hi j hj (his.trans hjs.symm)
      fun hid => hne (Table.eq_of_key_eq hi hj hid)
  · intro hbilled
    obtain ⟨i, hi, hcovers⟩ := hperiods.current s hs hbilled
    refine ⟨i, ⟨hi, hcovers⟩, ?_⟩
    rintro j ⟨hj, hcovers'⟩
    obtain ⟨hjs, hstart, hend⟩ := hcovers'
    obtain ⟨his, hstart', hend'⟩ := hcovers
    by_contra hne
    -- the two would bill the same stretch of time, which is not empty
    have hdisjoint := hperiods.disjoint j hj i hi (hjs.trans his.symm)
      fun hid => hne (Table.eq_of_key_eq hj hi hid)
    have hsame : j.period = i.period := by
      rw [Invoice.period, Invoice.period, hstart, hstart', hend, hend']
    rw [hsame, disjoint_self] at hdisjoint
    exact (Set.nonempty_Ico.mpr (hperiods.nonempty i hi)).ne_empty hdisjoint

/-- A monthly subscription is renewed twice, and its period billed once more. -/
def renewedOperations : List Operation :=
  subscribed ++ [.renew 1 (sampleTime 1 0) (sampleTime 1 1) (sampleTime 1 2),
    .renewIfStillDue 1 (sampleTime 3 0) (sampleTime 3 1) (sampleTime 3 2) (sampleTime 3 3),
    .generate 1 (sampleTime 3 4)]

/-- The renewed subscription has one invoice for its current period. -/
theorem periods_billed_once_renewed :
    ∃ s ∈ (Db.empty.after sampleEnv renewedOperations).subscriptions,
      s.currentPeriodStart = sampleTime 3 2 ∧
      ∃! i, i ∈ (Db.empty.after sampleEnv renewedOperations).invoices ∧ i.Covers s := by
  obtain ⟨s, hs, hactive, hstart⟩ :
      ∃ s ∈ (Db.empty.after sampleEnv renewedOperations).subscriptions,
        s.status = .active ∧ s.currentPeriodStart = sampleTime 3 2 := by decide
  have hclock : ∀ op ∈ renewedOperations, op.readings.Pairwise (· ≤ ·) := by decide
  exact ⟨s, hs, hstart,
    (periods_billed_once (clocked_after sampleEnv Db.empty _ hclock) hs).2.2 (Or.inl hactive)⟩

end Chargeflow
