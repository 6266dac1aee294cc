import Chargeflow.Properties.Collection
import Chargeflow.System.Renewals

/-!
# Every subscription is billed again

A subscription whose period has ended is billed again or CANCELED, whatever comes in between, as
long as the provider is consistent.  An ACTIVE or TRIAL one is taken up by the next run of its
cycle.  An OVERDUE one is left to dunning: once its invoices are settled it is CANCELED, or all of
them are PAID and it waits for its cycle.
-/

namespace Chargeflow

open Foundation

variable {env : Env}

/-- A CANCELED subscription stays CANCELED. -/
theorem Reaches.closed {db db' : Db} (h : Reaches (Step env) db db') {n : ℕ}
    (hn : Closed db.books n) : Closed db'.books n := by
  obtain ⟨s, hs, hid, hcanceled⟩ := hn
  obtain ⟨s', hs', hkey, hlater⟩ := (Reaches.subscriptions h).kept s hs
  exact ⟨s', hs', Eq.trans hkey hid, by rw [hlater.canceled hcanceled]; exact hcanceled⟩

/-- A run under the clock leads to reachable databases. -/
theorem ClockedStep.reachable {db db' : Db} (h : Reachable env db)
    (hrun : Reaches (ClockedStep env) db db') : Reachable env db' :=
  h.trans (hrun.mono fun _ _ => ClockedStep.step)

/-! ## Waiting for a cycle -/

section

variable {cycle : Cycle} {now : DateTime} {db db' : Db} {s : Subscription}

/-- A subscription that is neither CANCELED nor OVERDUE is one of a cycle. -/
theorem exists_selects (hended : s.currentPeriodEnd ≤ now) (hopen : s.status ≠ .canceled)
    (hoverdue : s.status ≠ .overdue) : ∃ cycle : Cycle, cycle.selects now s = true := by
  cases hstatus : s.status with
  | active => exact ⟨.renewals, Cycle.selects_iff.mpr ⟨hstatus, hended⟩⟩
  | trial => exact ⟨.activations, Cycle.selects_iff.mpr ⟨hstatus, hended⟩⟩
  | canceled => exact absurd hstatus hopen
  | overdue => exact absurd hstatus hoverdue

/-- A subscription whose invoices are PAID is not OVERDUE. -/
theorem InStanding.not_overdue {subs : Table Subscription} {invoices : Table Invoice}
    (h : InStanding subs invoices) (hs : s ∈ subs)
    (hpaid : ∀ i ∈ invoices, i.subscriptionId = s.id → i.status = .paid) :
    s.status ≠ .overdue := by
  intro hoverdue
  obtain ⟨i, hi, hsub, hstatus⟩ := h.pursued s hs hoverdue
  have hpaid' := hpaid i hi hsub
  rcases hstatus with hstatus | hstatus <;> simp [hpaid'] at hstatus

/-- A subscription whose invoices are PAID waits for its cycle until it gets another invoice or is
CANCELED. -/
theorem selects_kept (h : Reaches (ClockedStep env) Db.empty db)
    (hrun : Reaches (ClockedStep env) db db') (hs : s ∈ db.subscriptions)
    (hselects : cycle.selects now s = true)
    (hpaid : ∀ i ∈ db.invoices, i.subscriptionId = s.id → i.status = .paid)
    (hopen : ¬ Closed db'.books s.id)
    (hold : ∀ i' ∈ db'.invoices, i'.subscriptionId = s.id → ∃ i ∈ db.invoices, i.id = i'.id) :
    ∃ s' ∈ db'.subscriptions, s'.id = s.id ∧ cycle.selects now s' = true := by
  have hreach : Reachable env db := h.mono fun _ _ => ClockedStep.step
  have hsteps : Reaches (Step env) db db' := hrun.mono fun _ _ => ClockedStep.step
  obtain ⟨s', hs', hid, hlater⟩ := (Reaches.subscriptions hsteps).kept s hs
  obtain ⟨hstatus, hdue⟩ := Cycle.selects_iff.mp hselects
  have hperiods := Reaches.periods (h.trans hrun)
  have hstanding := (ClockedStep.reachable hreach hrun).sound.inStanding
  -- the invoices are the old ones, in a later version
  have hinvoice : ∀ i' ∈ db'.invoices, i'.subscriptionId = s.id →
      ∃ i ∈ db.invoices, i.subscriptionId = s.id ∧ i.Later i' := by
    intro i' hi' hsub
    obtain ⟨i, hi, hii⟩ := hold i' hi' hsub
    have hversion : i.Later i' := (Reaches.invoices hsteps).rel hi hi' hii.symm
    exact ⟨i, hi, hversion.subscriptionId.symm.trans hsub, hversion⟩
  have hnotOverdue : s'.status ≠ .overdue := by
    refine hstanding.not_overdue hs' ?_
    intro i' hi' hsub
    obtain ⟨i, hi, hisub, hversion⟩ := hinvoice i' hi' (hsub.trans hid)
    have hstatus' := hpaid i hi hisub
    exact (hversion.paid hstatus') ▸ hstatus'
  have hnotCanceled : s'.status ≠ .canceled := fun hcanceled => hopen ⟨s', hs', hid, hcanceled⟩
  refine ⟨s', hs', hid, ?_⟩
  cases hstatus' : s'.status with
  | canceled => exact absurd hstatus' hnotCanceled
  | overdue => exact absurd hstatus' hnotOverdue
  | trial =>
    obtain rfl := Reaches.trial_kept hsteps hs hs' hid hstatus'
    exact hselects
  | active =>
    obtain ⟨i', hi', hsub, -, hend⟩ := hperiods.current s' hs' (Or.inl hstatus')
    obtain ⟨i, hi, hisub, hversion⟩ := hinvoice i' hi' (hsub.trans hid)
    have hbilled := (hreach.sound.inStanding.agrees s hs i hi hisub).billed
    cases cycle with
    | activations => exact absurd hstatus hbilled
    | renewals =>
      have hended := Reaches.ended h hs (Or.inl hstatus) hdue i hi hisub
      exact Cycle.selects_iff.mpr ⟨hstatus', hend ▸ hversion.periodEnd ▸ hended⟩

/-- It does not wait any more when the cycle has been through. -/
theorem Cycle.Ran.not_waiting {skips : ℕ → Prop} (hran : cycle.Ran env skips now db db')
    (hskips : ¬ skips s.id) (hwaits : ∀ a, Reaches (ClockedStep env) db a →
      Reaches (ClockedStep env) a db' → ∃ s' ∈ a.subscriptions, s'.id = s.id ∧
        cycle.selects now s' = true) : False := by
  obtain @⟨listed, handled, _, listedAt, hbefore, hnow, hpass, hafter⟩ := hran
  have hpassed := hpass.reaches Attended.reaches
  obtain ⟨t, ht, htid, hselects⟩ := hwaits listed hbefore (hpassed.trans hafter)
  have hlisted : s.id ∈ cycle.ids listed listedAt :=
    List.mem_map.mpr ⟨t, Table.mem_filter.mpr ⟨ht, selects_mono hselects hnow⟩, htid⟩
  obtain ⟨a, b, ha, hattended, hb⟩ := hpass.visits Attended.reaches hlisted
  rcases hattended with hhandled | ⟨hskipped, -⟩
  · obtain ⟨t', ht', htid', hselects'⟩ :=
      hwaits b ((hbefore.trans ha).tail hhandled.step) (hb.trans hafter)
    have hnot := hhandled.not_selected ht' htid'
    rw [selects_mono hselects' hnow] at hnot
    cases hnot
  · exact hskips hskipped

end

/-- Six rounds of collection, and a run of each cycle after them: a subscription whose period has
ended is CANCELED, or has got an invoice that was not there before.  Any events of the system may
come in between the steps of the rounds and the runs, as long as no handler raises for the
subscription and its old invoices. -/
theorem subscriptions_are_billed_on {raises skips : ℕ → Prop} {sys mid : Sys}
    (h : Reaches (TimedStep env) Sys.empty sys)
    (hrounds : Iterated (Round env raises) (2 * maxDunningAttempts) sys mid)
    (hclock : Reaches (ClockedStep env) Db.empty mid.db) {now : DateTime} {db' : Db}
    (hran : ∀ cycle : Cycle, cycle.Ran env skips now mid.db db') {s : Subscription}
    (hs : s ∈ mid.db.subscriptions) (hended : s.currentPeriodEnd ≤ now)
    (hraises : ∀ i ∈ sys.db.invoices, i.subscriptionId = s.id → ¬ raises i.id)
    (hskips : ¬ skips s.id) :
    Closed db'.books s.id ∨
      ∃ i ∈ db'.invoices, i.subscriptionId = s.id ∧ ∀ j ∈ sys.db.invoices, j.id ≠ i.id := by
  by_contra hnot
  rw [not_or] at hnot
  obtain ⟨hopen, hnone⟩ := hnot
  -- up to the end the subscription is open, and its invoices are those it had before the rounds
  have hopenAt : ∀ {a}, Reaches (ClockedStep env) a db' → ¬ Closed a.books s.id :=
    fun ha hclosed => hopen (Reaches.closed (ha.mono fun _ _ => ClockedStep.step) hclosed)
  have holdAt : ∀ {a}, Reaches (ClockedStep env) a db' → ∀ i ∈ a.invoices,
      i.subscriptionId = s.id → ∃ j ∈ sys.db.invoices, j.id = i.id := by
    intro a ha i hi hsub
    obtain ⟨i', hi', hid, hlater⟩ :=
      (Reaches.invoices (ha.mono fun _ _ => ClockedStep.step)).kept i hi
    by_contra hnew
    refine hnone ⟨i', hi', hlater.subscriptionId.trans hsub, fun j hj hji => hnew ⟨j, hj, ?_⟩⟩
    exact hji.trans hid
  have hmid : Reaches (ClockedStep env) mid.db db' := (hran .renewals).reaches
  have hrun : Reaches (Step env) sys.db mid.db := by
    have hsys : Reaches (SysStep env) sys mid :=
      (hrounds.reaches Round.reaches).mono fun _ _ => TimedStep.sysStep
    exact hsys.simulation (f := Sys.db) fun _ _ => SysStep.db
  have hpaid : ∀ i ∈ mid.db.invoices, i.subscriptionId = s.id → i.status = .paid := by
    intro i hi hsub
    obtain ⟨j, hj, hji⟩ := holdAt hmid i hi hsub
    have hlater : j.Later i := (Reaches.invoices hrun).rel hj hi hji.symm
    obtain ⟨hreach, i', hi', hid, hended'⟩ := rounds_end h hrounds hj
      (hraises j hj (hlater.subscriptionId.symm.trans hsub))
    obtain rfl := Table.eq_of_key_eq hi' hi (hid.trans hji)
    rcases (Reaches.orderly hreach).paid_or_givenUp hi hended' with hpaid | ⟨-, hclosed⟩
    · exact hpaid
    · exact absurd (hsub ▸ hclosed) (hopenAt hmid)
  have hsound := Reachable.sound (hclock.mono fun _ _ => ClockedStep.step)
  obtain ⟨cycle, hselects⟩ := exists_selects hended
    (fun hcanceled => hopenAt hmid ⟨s, hs, rfl, hcanceled⟩)
    (hsound.inStanding.not_overdue hs hpaid)
  refine (hran cycle).not_waiting hskips fun a ha ha' =>
    selects_kept hclock ha hs hselects hpaid (hopenAt ha') ?_
  intro i hi hsub
  obtain ⟨j, hj, hji⟩ := holdAt ha' i hi hsub
  obtain ⟨i', hi', hid, -⟩ := (Reaches.invoices hrun).kept j hj
  exact ⟨i', hi', Eq.trans hid hji⟩

/-! ## Runs under a clock -/

/-- The clock readings of the transaction are in order.  A charge takes one reading at a time. -/
def Event.Ordered : Event → Prop
  | .transact op => op.readings.Pairwise (· ≤ ·)
  | _ => True

/-- Whether an event is ordered can be computed. -/
instance : ∀ e : Event, Decidable e.Ordered
  | .transact _ => inferInstanceAs (Decidable (List.Pairwise _ _))
  | .call .. | .recover _ | .advance .. | .crash _ => .isTrue trivial

/-- Seen from the database, an event is a transaction under the clock or nothing. -/
theorem Event.Ordered.clocked {e : Event} (he : e.Ordered) {sys sys' : Sys}
    (h : sys.step env e = some sys') : sys'.db = sys.db ∨ ClockedStep env sys.db sys'.db := by
  cases e with
  | transact op => exact Or.inr ⟨op, he, (Sys.transact_eq_some h).2.1⟩
  | call invoiceId key issuedOnly providerKey now =>
    exact Or.inr ⟨_, List.pairwise_singleton .., (Sys.call_eq_some h).1⟩
  | recover paymentId =>
    simp only [Sys.step] at h
    split_ifs at h
    obtain rfl := Option.some.inj h
    exact Or.inl rfl
  | advance n success chargeId now =>
    obtain ⟨c, -, c', hnext, -⟩ := Sys.advance_eq_some h
    exact ChargePhase.next_operation hnext
  | crash n =>
    obtain rfl := Option.some.inj h
    exact Or.inl rfl

/-- The events of a list run under the clock if the readings of each are in order. -/
theorem Sys.clocked_after (sys : Sys) (events : List Event) (h : ∀ e ∈ events, e.Ordered) :
    Reaches (ClockedStep env) sys.db (sys.after env events).db := by
  induction events generalizing sys with
  | nil => exact .refl
  | cons e events ih =>
    have hevents := fun sys => ih sys fun e' he' => h e' (List.mem_cons_of_mem _ he')
    unfold Sys.after
    cases hstep : sys.step env e with
    | none => exact hevents sys
    | some sys' =>
      rcases (h e List.mem_cons_self).clocked hstep with hkept | hclocked
      · exact hkept ▸ hevents sys'
      · exact .head hclocked (hevents sys')

/-! ## A sample -/

/-- The first charge of a subscription is declined, which leaves it OVERDUE. -/
def overdueEvents : List Event :=
  subscribed.map .transact ++ [.call 1 none true "key_1" (sampleTime 0 2),
    .advance 0 false "mock_1" (sampleTime 0 3), .advance 0 false "mock_1" (sampleTime 0 3),
    .advance 0 false "mock_1" (sampleTime 0 3), .advance 0 false "mock_1" (sampleTime 0 4)]

/-- The first charge was declined. -/
def chargeDeclined : Sys := Sys.empty.after sampleEnv overdueEvents

/-- Dunning issues the invoice again, and the task it hands over is lost. -/
def invoiceReissued : Sys :=
  chargeDeclined.after sampleEnv [.transact (.dun 1 (sampleTime 1 1))]

/-- The invoice is handed over once more. -/
def retryHanded : Sys :=
  invoiceReissued.after sampleEnv [.transact (.reconcile (sampleTime 2 0))]

/-- A worker has taken the retry. -/
def retryTaken : Sys := retryHanded.after sampleEnv [.call 1 none true "key_2" (sampleTime 2 1)]

/-- The second charge succeeds. -/
def retryEvents : List Event :=
  [.advance 0 true "mock_2" (sampleTime 2 2), .advance 0 true "mock_2" (sampleTime 2 2),
    .advance 0 true "mock_2" (sampleTime 2 2), .advance 0 true "mock_2" (sampleTime 2 3)]

/-- The retry was charged and paid. -/
def retryPaid : Sys := retryTaken.after sampleEnv retryEvents

/-- The round that hands the retry to a worker. -/
theorem round_chargeDeclined :
    Round sampleEnv (fun _ => False) chargeDeclined invoiceReissued := by
  have hstuck : stuckIds chargeDeclined.db (sampleTime 1 0) = [] := by decide +kernel
  have hhandOff : TimedEvent sampleEnv (.transact (.reconcile (sampleTime 1 0))) chargeDeclined
      chargeDeclined := timedEvent_reconcile hstuck
  have hdunned : TimedEvent sampleEnv (.transact (.dun 1 (sampleTime 1 1))) chargeDeclined
      invoiceReissued := timedEvent_after (by decide +kernel) (by decide +kernel)
  have hpending : pendingIds chargeDeclined.db (sampleTime 1 0) = [] := by decide +kernel
  have hfailed : failedIds chargeDeclined.db = [1] := by decide +kernel
  have hattempts : ∀ p ∈ chargeDeclined.db.attempts, StuckSince p.attemptedAt (sampleTime 1 0) := by
    decide +kernel
  have hnoTask : Pass (TimedStep sampleEnv)
      (Attended sampleEnv (fun _ => False) (Charged sampleEnv)) [] chargeDeclined chargeDeclined :=
    .nil .refl
  refine .mk .refl hattempts ?_ (by decide +kernel) hhandOff ?_ hnoTask .refl ?_ .refl
  · rw [hpending]
    exact .nil .refl
  · rw [hstuck]
    exact fun n hn => absurd hn List.not_mem_nil
  · rw [hfailed]
    exact .cons .refl (Or.inl ⟨_, hdunned⟩) (.nil .refl)

/-- The round in which the retry is paid. -/
theorem round_invoiceReissued :
    Round sampleEnv (fun _ => False) invoiceReissued retryPaid := by
  have hhandOff : TimedEvent sampleEnv (.transact (.reconcile (sampleTime 2 0))) invoiceReissued
      retryHanded := timedEvent_after (by decide +kernel) (by decide +kernel)
  have htaken : TimedEvent sampleEnv (.call 1 none true "key_2" (sampleTime 2 1)) retryHanded
      retryTaken := timedEvent_after (by decide +kernel) (by decide +kernel)
  have hcharged : Reaches (TimedStep sampleEnv) retryTaken retryPaid :=
    timed_reaches_after (by decide +kernel)
  have hpending : pendingIds invoiceReissued.db (sampleTime 2 0) = [] := by decide +kernel
  have hstuck : stuckIds invoiceReissued.db (sampleTime 2 0) = [1] := by decide +kernel
  have hfailed : failedIds retryPaid.db = [] := by decide +kernel
  have hattempts : ∀ p ∈ invoiceReissued.db.attempts,
      StuckSince p.attemptedAt (sampleTime 2 0) := by
    decide +kernel
  have htasks : Pass (TimedStep sampleEnv) (Attended sampleEnv (fun _ => False) (Charged sampleEnv))
      [1] retryHanded retryTaken := .cons .refl (Or.inl ⟨_, _, htaken⟩) (.nil .refl)
  refine .mk .refl hattempts ?_ (by decide +kernel) hhandOff ?_ htasks hcharged ?_ .refl
  · rw [hpending]
    exact .nil .refl
  · rw [hstuck]
    exact fun n hn _ => hn
  · rw [hfailed]
    exact .nil .refl

/-- A round that finds nothing to do. -/
theorem round_retryPaid : Round sampleEnv (fun _ => False) retryPaid retryPaid := by
  have hattempts : ∀ p ∈ retryPaid.db.attempts, StuckSince p.attemptedAt (sampleTime 3 0) := by
    decide +kernel
  exact Round.idle hattempts (by decide +kernel) (by decide +kernel) (by decide +kernel)
    (by decide +kernel)

/-- The subscription is ACTIVE again, and its second period is billed. -/
def billedOn : Db :=
  retryPaid.db.after sampleEnv
    [.renewIfStillDue 1 (sampleTime 3 0) (sampleTime 3 1) (sampleTime 3 2) (sampleTime 3 3)]

/-- An OVERDUE subscription is collected, and billed on. -/
theorem subscriptions_are_billed_on_overdue :
    (∃ s ∈ chargeDeclined.db.subscriptions, s.id = 1 ∧ s.status = .overdue) ∧
    (Closed billedOn.books 1 ∨ ∃ i ∈ billedOn.invoices, i.subscriptionId = 1 ∧
      ∀ j ∈ chargeDeclined.db.invoices, j.id ≠ i.id) := by
  refine ⟨by decide +kernel, ?_⟩
  have hreissued : Reaches (ClockedStep sampleEnv) Db.empty invoiceReissued.db :=
    (Sys.clocked_after Sys.empty overdueEvents (by decide)).trans
      (chargeDeclined.clocked_after [.transact (.dun 1 (sampleTime 1 1))] (by decide))
  have htaken : Reaches (ClockedStep sampleEnv) invoiceReissued.db retryTaken.db :=
    (invoiceReissued.clocked_after [.transact (.reconcile (sampleTime 2 0))] (by decide)).trans
      (retryHanded.clocked_after [.call 1 none true "key_2" (sampleTime 2 1)] (by decide))
  have hclock : Reaches (ClockedStep sampleEnv) Db.empty retryPaid.db :=
    (hreissued.trans htaken).trans (retryTaken.clocked_after retryEvents (by decide))
  have hhandled : Cycle.renewals.Handled sampleEnv (sampleTime 3 0) 1 retryPaid.db billedOn :=
    ⟨.renewIfStillDue 1 (sampleTime 3 0) (sampleTime 3 1) (sampleTime 3 2) (sampleTime 3 3),
      ⟨rfl, rfl⟩, by decide, by decide, apply_eq_after _ (by decide +kernel)⟩
  have hlisted : Cycle.renewals.ids retryPaid.db (sampleTime 3 0) = [1] := by decide +kernel
  have hnone : Cycle.activations.ids retryPaid.db (sampleTime 3 0) = [] := by decide +kernel
  have hran : ∀ cycle : Cycle, cycle.Ran sampleEnv (fun _ => False) (sampleTime 3 0) retryPaid.db
      billedOn := by
    intro cycle
    cases cycle with
    | renewals =>
      refine .mk .refl le_rfl ?_ .refl
      rw [hlisted]
      exact .cons .refl (Or.inl hhandled) (.nil .refl)
    | activations =>
      refine .mk .refl le_rfl ?_ (.single hhandled.step)
      rw [hnone]
      exact .nil .refl
  obtain ⟨s, hs, hid, hended⟩ : ∃ s ∈ retryPaid.db.subscriptions, s.id = 1 ∧
      s.currentPeriodEnd ≤ sampleTime 3 0 := by
    decide +kernel
  rw [← hid]
  exact subscriptions_are_billed_on (timed_reaches_after (by decide +kernel))
    (.succ round_chargeDeclined (.succ round_invoiceReissued (.succ round_retryPaid
      (.succ round_retryPaid (.succ round_retryPaid (.succ round_retryPaid (.zero _))))))) hclock
    hran hs hended (fun _ _ _ => id) id

end Chargeflow
