import Mathlib.Order.Interval.Set.Disjoint
import Mathlib.Order.CompletePartialOrder
import Chargeflow.Books.Standing

/-!
# Billing periods

The invoices of a subscription bill periods of time.  `Periods` says that none of these is empty,
that no two of them overlap, and that an ACTIVE or OVERDUE subscription has an invoice for its
current period.  A new period starts where no older one reaches: `Periods.past` bounds the ends of
the older periods by the start of the current one, and a renewal starts the next period after the
current one has ended.  This needs that the clock does not go backwards between the two readings of
a renewal, the check that the period has ended and the start of the next one.
-/

namespace Chargeflow

open Foundation

/-- The stretch of time an invoice bills. -/
def Invoice.period (i : Invoice) : Set DateTime := Set.Ico i.periodStart i.periodEnd

/-- A subscription that is billed. -/
def Subscription.IsBilled (s : Subscription) : Prop := s.status = .active ∨ s.status = .overdue

/-- The subscription stays in its period, and does not begin to be billed. -/
structure Subscription.SamePeriod (s s' : Subscription) : Prop where
  id : s'.id = s.id
  currentPeriodStart : s'.currentPeriodStart = s.currentPeriodStart
  currentPeriodEnd : s'.currentPeriodEnd = s.currentPeriodEnd
  billed : s'.IsBilled → s.IsBilled

/-- The periods of a subscription's invoices are not empty and do not meet, and the current period
of the subscription is that of its latest invoice. -/
structure Periods (subs : Table Subscription) (invoices : Table Invoice) : Prop where
  nonempty : ∀ i ∈ invoices, i.periodStart < i.periodEnd
  disjoint : ∀ i ∈ invoices, ∀ j ∈ invoices, i.subscriptionId = j.subscriptionId → i.id ≠ j.id →
    Disjoint i.period j.period
  past : ∀ s ∈ subs, ∀ i ∈ invoices, i.subscriptionId = s.id →
    i.Covers s ∨ i.periodEnd ≤ s.currentPeriodStart
  current : ∀ s ∈ subs, s.IsBilled → ∃ i ∈ invoices, i.Covers s

/-- A subscription that is closed keeps its period. -/
theorem Subscription.SamePeriod.close (s : Subscription) (reason : CancellationReason)
    (now : DateTime) : s.SamePeriod (s.close reason now) :=
  ⟨rfl, rfl, rfl, fun h => by simp [Subscription.IsBilled, Subscription.close] at h⟩

/-- A period that ends before another one starts does not overlap it. -/
theorem Invoice.disjoint_of_le {i j : Invoice} (h : i.periodEnd ≤ j.periodStart) :
    Disjoint i.period j.period :=
  Set.Ico_disjoint_Ico.mpr ((min_le_left _ _).trans (h.trans (le_max_right _ _)))

namespace Periods

variable {subs subs' : Table Subscription} {invoices invoices' : Table Invoice}

/-- The rows change, but no period does. -/
theorem of_rows (hb : Periods subs invoices)
    (hsubs : ∀ s' ∈ subs', (∃ s ∈ subs, s.SamePeriod s') ∨
      (¬ s'.IsBilled ∧ ∀ i ∈ invoices, i.subscriptionId ≠ s'.id))
    (hinvoices : invoices.Evolves Invoice.Later invoices')
    (hnext : invoices'.next = invoices.next) : Periods subs' invoices' := by
  have hold : ∀ i' ∈ invoices', ∃ i ∈ invoices, i.id = i'.id ∧ i.Later i' :=
    fun i' hi' => hinvoices.origin_of_lt hi' (hnext ▸ Table.key_lt hi')
  refine ⟨?_, ?_, ?_, ?_⟩
  · intro i' hi'
    obtain ⟨i, hi, -, hl⟩ := hold i' hi'
    rw [hl.periodStart, hl.periodEnd]
    exact hb.nonempty i hi
  · intro i' hi' j' hj' hsub hne
    obtain ⟨i, hi, hid, hl⟩ := hold i' hi'
    obtain ⟨j, hj, hjd, hl'⟩ := hold j' hj'
    have hdisjoint := hb.disjoint i hi j hj
      (by rw [← hl.subscriptionId, ← hl'.subscriptionId, hsub]) (by rw [hid, hjd]; exact hne)
    unfold Invoice.period at hdisjoint ⊢
    rwa [hl.periodStart, hl.periodEnd, hl'.periodStart, hl'.periodEnd]
  · intro s' hs' i' hi' hsub
    obtain ⟨i, hi, -, hl⟩ := hold i' hi'
    rcases hsubs s' hs' with ⟨s, hs, hp⟩ | ⟨-, hnone⟩
    · have hpast := hb.past s hs i hi (by rw [← hl.subscriptionId, hsub, hp.id])
      unfold Invoice.Covers at hpast ⊢
      rwa [hl.subscriptionId, hl.periodStart, hl.periodEnd, hp.id, hp.currentPeriodStart,
        hp.currentPeriodEnd]
    · exact absurd (hl.subscriptionId.symm.trans hsub) (hnone i hi)
  · intro s' hs' hbilled
    rcases hsubs s' hs' with ⟨s, hs, hp⟩ | ⟨hunbilled, -⟩
    · obtain ⟨i, hi, hsub, hstart, hend⟩ := hb.current s hs (hp.billed hbilled)
      obtain ⟨i', hi', -, hl⟩ := hinvoices.kept i hi
      exact ⟨i', hi', by rw [hl.subscriptionId, hsub, hp.id],
        by rw [hl.periodStart, hstart, hp.currentPeriodStart],
        by rw [hl.periodEnd, hend, hp.currentPeriodEnd]⟩
    · exact absurd hbilled hunbilled

/-- A subscription moves to a period that starts when all its older periods have ended, and the
period is billed. -/
theorem insert (hb : Periods subs invoices) {s : Subscription} {i : Invoice}
    (hrows : ∀ t ∈ subs', t = s ∨ (t ∈ subs ∧ t.id ≠ s.id))
    (hperiod : s.currentPeriodStart < s.currentPeriodEnd)
    (hpast : ∀ j ∈ invoices, j.subscriptionId = s.id → j.periodEnd ≤ s.currentPeriodStart)
    (hi : (withKey invoices.next i).Covers s) : Periods subs' (invoices.insert i) := by
  obtain ⟨hsub, hstart, hend⟩ := hi
  have hnew : ∀ j ∈ invoices, j.subscriptionId = (withKey invoices.next i).subscriptionId →
      Disjoint j.period (withKey invoices.next i).period :=
    fun j hj hji => Invoice.disjoint_of_le (hstart ▸ hpast j hj (hji.trans hsub))
  refine ⟨?_, ?_, ?_, ?_⟩
  · intro j hj
    rcases Table.mem_insert.mp hj with hj | rfl
    · exact hb.nonempty j hj
    · rwa [hstart, hend]
  · intro j hj k hk hjk hne
    rcases Table.mem_insert.mp hj with hj | rfl <;> rcases Table.mem_insert.mp hk with hk | rfl
    · exact hb.disjoint j hj k hk hjk hne
    · exact hnew j hj hjk
    · exact (hnew k hk hjk.symm).symm
    · exact absurd rfl hne
  · intro t ht j hj hjt
    rcases hrows t ht with rfl | ⟨ht, hts⟩ <;> rcases Table.mem_insert.mp hj with hj | rfl
    · exact Or.inr (hpast j hj hjt)
    · exact Or.inl ⟨hsub, hstart, hend⟩
    · exact hb.past t ht j hj hjt
    · exact absurd (hjt.symm.trans hsub) hts
  · intro t ht hbilled
    rcases hrows t ht with rfl | ⟨ht, -⟩
    · exact ⟨_, Table.mem_insert_self, hsub, hstart, hend⟩
    · obtain ⟨j, hj, hcovers⟩ := hb.current t ht hbilled
      exact ⟨j, Table.mem_insert_of_mem hj, hcovers⟩

end Periods

/-! ## One transaction -/

variable {env : Env} {readings : List DateTime} {b b' : Books}

/-- A transaction leaves the period of a subscription alone, or all older periods have ended when
the new one starts. -/
theorem PeriodStart.past {subs' : Table Subscription} {s : Subscription}
    (h : PeriodStart readings b.subscriptions subs' s) (hclock : readings.Pairwise (· ≤ ·))
    (hb : Periods b.subscriptions b.invoices) (hlinked : Linked b)
    (hstanding : InStanding b.subscriptions b.invoices) :
    (subs' = b.subscriptions ∧ s ∈ b.subscriptions ∧ s.status = .active) ∨
      (s.currentPeriodStart < s.currentPeriodEnd ∧
        ∀ i ∈ b.invoices, i.subscriptionId = s.id → i.periodEnd ≤ s.currentPeriodStart) := by
  cases h with
  | created _ hperiod =>
    exact Or.inr ⟨hperiod, fun i hi hsub => absurd hsub (hlinked.subscriptionId_ne_next hi)⟩
  | activated hs htrial hperiod =>
    exact Or.inr ⟨hperiod, fun i hi hsub =>
      absurd htrial (hstanding.agrees _ hs i hi hsub).billed⟩
  | @renewed s hs hactive checkedAt now e hreadings hdue hperiod =>
    refine Or.inr ⟨hperiod, ?_⟩
    intro i hi hsub
    have hclock : checkedAt ≤ now := by simpa using hclock.sublist hreadings
    have hended : s.currentPeriodEnd ≤ now := hdue.trans hclock
    rcases hb.past s hs i hi hsub with ⟨-, -, hend⟩ | hpast
    · exact hend.le.trans hended
    · obtain ⟨j, hj, -, hstart, hend⟩ := hb.current s hs (Or.inl hactive)
      have hlt : s.currentPeriodStart < s.currentPeriodEnd := by
        rw [← hstart, ← hend]
        exact hb.nonempty j hj
      exact hpast.trans (hlt.le.trans hended)
  | current hs hactive => exact Or.inl ⟨rfl, hs, hactive⟩

/-- A step whose clock readings are in order keeps the periods. -/
theorem BooksStep.periods (h : BooksStep env readings b b') (hclock : readings.Pairwise (· ≤ ·))
    (hb : Periods b.subscriptions b.invoices) (hlinked : Linked b)
    (hstanding : InStanding b.subscriptions b.invoices) :
    Periods b'.subscriptions b'.invoices := by
  have hinvoices := h.invoices
  have hkept : ∀ t ∈ b.subscriptions, (∃ s ∈ b.subscriptions, s.SamePeriod t) ∨
      (¬ t.IsBilled ∧ ∀ i ∈ b.invoices, i.subscriptionId ≠ t.id) :=
    fun t ht => Or.inl ⟨t, ht, rfl, rfl, rfl, id⟩
  -- a subscription whose row changes, but not its period
  have hupdate : ∀ {s s' : Subscription}, s ∈ b.subscriptions → s.SamePeriod s' →
      ∀ t ∈ b.subscriptions.update s', (∃ s ∈ b.subscriptions, s.SamePeriod t) ∨
        (¬ t.IsBilled ∧ ∀ i ∈ b.invoices, i.subscriptionId ≠ t.id) := by
    intro s s' hs hp t ht
    rcases (Table.mem_update_of_mem hs hp.id).mp ht with rfl | ⟨ht, -⟩
    · exact Or.inl ⟨s, hs, hp⟩
    · exact hkept t ht
  cases h with
  | lifecycle h =>
    cases h with
    | @trialed s htrial =>
      refine hb.of_rows ?_ hinvoices rfl
      intro t ht
      rcases Table.mem_insert.mp ht with ht | rfl
      · exact hkept t ht
      · have htrial' : (withKey b.subscriptions.next s).status = .trial := htrial
        exact Or.inr ⟨by simp [Subscription.IsBilled, htrial'],
          fun i hi => hlinked.subscriptionId_ne_next hi⟩
    | covered hstart hi hcovers =>
      rcases hstart.past hclock hb hlinked hstanding with ⟨rfl, -, -⟩ | ⟨hperiod, hpast⟩
      · exact hb
      · have hle := hpast _ hi hcovers.1
        rw [hcovers.2.2] at hle
        exact absurd hle (not_le.mpr hperiod)
    | billed hstart plan now hnone =>
      rcases hstart.past hclock hb hlinked hstanding with ⟨-, hs, hactive⟩ | ⟨hperiod, hpast⟩
      · obtain ⟨i, hi, hcovers⟩ := hb.current _ hs (Or.inl hactive)
        exact absurd hcovers (hnone i hi)
      · exact hb.insert (fun _ => hstart.rows) hperiod hpast ⟨rfl, rfl, rfl⟩
    | canceled hs _ _ _ hnext =>
      exact hb.of_rows (hupdate hs (.close _ _ _)) hinvoices hnext
    | exhausted _ _ _ hs _ _ _ hnext =>
      exact hb.of_rows (hupdate hs (.close _ _ _)) hinvoices hnext
    | _ => exact hb.of_rows hkept hinvoices rfl
  | settled h =>
    obtain ⟨-, i, -, s, hs, -, -, h⟩ := h
    cases h with
    | applied _ _ _ _ hs' =>
      refine hb.of_rows ?_ hinvoices rfl
      cases hs' with
      | unchanged => exact hupdate hs ⟨rfl, rfl, rfl, id⟩
      | active hoverdue => exact hupdate hs ⟨rfl, rfl, rfl, fun _ => Or.inr hoverdue⟩
    | declined =>
      refine hb.of_rows ?_ hinvoices rfl
      unfold Subscription.declined
      split_ifs with hactive
      · exact hupdate hs ⟨rfl, rfl, rfl, fun _ => Or.inl hactive⟩
      · exact hupdate hs ⟨rfl, rfl, rfl, id⟩
    | _ => exact hb.of_rows hkept hinvoices rfl

end Chargeflow
