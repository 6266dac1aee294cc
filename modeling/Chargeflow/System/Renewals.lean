import Chargeflow.Application.Cycles
import Chargeflow.Foundation.Passes
import Chargeflow.System.Clock

/-!
# The cycles among other transactions

`run_renewals` and `run_trial_activations` list the subscriptions whose period has ended and handle
one after the other, each in a transaction of its own.  Everything else goes on in between, so a
handler looks at the row again.  Whatever it finds and does, its subscription is not one the cycle
would list any more (`Cycle.Handled.not_selected`).  A run is one that comes to its end:
`OperationalError` and `SoftTimeLimitExceeded` end the batch, and any other exception is logged.
-/

namespace Chargeflow

open Foundation SubscriptionService

/-- The transactions of the handlers of a cycle. -/
def Cycle.Handles (cycle : Cycle) (subscriptionId : ℕ) : Operation → Prop
  | .renewIfStillDue n _ _ _ _ => cycle = .renewals ∧ n = subscriptionId
  | .activateIfStillExpired n _ _ _ => cycle = .activations ∧ n = subscriptionId
  | _ => False

/-- The handler of a subscription returns.  It reads the clock after the subscriptions were listed,
and its readings are in order. -/
def Cycle.Handled (env : Env) (cycle : Cycle) (listedAt : DateTime) (subscriptionId : ℕ)
    (db db' : Db) : Prop :=
  ∃ op, cycle.Handles subscriptionId op ∧ op.readings.Pairwise (· ≤ ·) ∧
    (∀ t ∈ op.readings, listedAt ≤ t) ∧ op.apply env db = .ok db'

/-- A subscription is handled, or its handler raises an exception that does not end the batch, and
its transaction is rolled back. -/
def Cycle.Attended (env : Env) (skips : ℕ → Prop) (cycle : Cycle) (listedAt : DateTime)
    (subscriptionId : ℕ) (db db' : Db) : Prop :=
  cycle.Handled env listedAt subscriptionId db db' ∨ skips subscriptionId ∧ db' = db

/-- Between two states a cycle comes to its end that has listed the subscriptions at `now` or later.
`skips` tells the subscriptions whose handler may raise. -/
inductive Cycle.Ran (env : Env) (skips : ℕ → Prop) (cycle : Cycle) (now : DateTime) : Db → Db → Prop
  | mk {db listed handled db' : Db} {listedAt : DateTime}
      (hbefore : Reaches (ClockedStep env) db listed) (hnow : now ≤ listedAt)
      (hpass : Pass (ClockedStep env) (cycle.Attended env skips listedAt)
        (cycle.ids listed listedAt) listed handled)
      (hafter : Reaches (ClockedStep env) handled db') : Ran env skips cycle now db db'

variable {env : Env} {cycle : Cycle} {now listedAt : DateTime} {subscriptionId : ℕ} {db db' : Db}

/-- A subscription that a cycle handles makes a clocked step. -/
theorem Cycle.Handled.step (h : cycle.Handled env listedAt subscriptionId db db') :
    ClockedStep env db db' := by
  obtain ⟨op, -, hclock, -, hop⟩ := h
  exact ⟨op, hclock, hop⟩

/-- The handling of a listed subscription is a clocked run. -/
theorem Cycle.Attended.reaches {skips : ℕ → Prop} (n : ℕ) (a b : Db)
    (h : cycle.Attended env skips listedAt n a b) : Reaches (ClockedStep env) a b := by
  rcases h with h | ⟨-, rfl⟩
  · exact .single h.step
  · exact .refl

/-- A cycle that ran is a clocked run. -/
theorem Cycle.Ran.reaches {skips : ℕ → Prop} (h : cycle.Ran env skips now db db') :
    Reaches (ClockedStep env) db db' := by
  cases h with
  | mk hbefore _ hpass hafter => exact (hbefore.trans (hpass.reaches Attended.reaches)).trans hafter

/-- What a cycle selects. -/
theorem Cycle.selects_iff {s : Subscription} : cycle.selects now s = true ↔
    s.status = cycle.status ∧ s.currentPeriodEnd ≤ now := by
  rw [selects, Bool.and_eq_true, beq_iff_eq, decide_eq_true_eq]

/-- What a cycle selects, it selects later too. -/
theorem Cycle.selects_mono {s : Subscription} (h : cycle.selects now s = true)
    (hnow : now ≤ listedAt) : cycle.selects listedAt s = true := by
  obtain ⟨hstatus, hdue⟩ := selects_iff.mp h
  exact selects_iff.mpr ⟨hstatus, hdue.trans hnow⟩

/-! ## What a handler leaves behind -/

/-- A period that is started is the current one of its subscription. -/
theorem startPeriod_row {s : Subscription} {plan : Plan} {issuedAt : DateTime}
    (hs : s ∈ db.subscriptions) (hactive : s.status = .active)
    (h : startPeriod db s plan now issuedAt = .ok db') {s' : Subscription}
    (hs' : s' ∈ db'.subscriptions) (hid : s'.id = s.id) :
    s'.status = .active ∧ now < s'.currentPeriodEnd := by
  obtain ⟨e, hlt, hbilled⟩ := startPeriod_eq_ok hs hactive h
  have hrows : db'.subscriptions = db.subscriptions.update (s.inPeriod now e) := by
    cases hbilled with
    | already _ _ _ hdb => rw [hdb]
    | issued _ _ _ _ _ hdb => rw [hdb]
  have hrow : s.inPeriod now e ∈ db'.subscriptions := hrows ▸ Table.mem_update_self hs rfl
  obtain rfl := Table.eq_of_key_eq hs' hrow hid
  exact ⟨hactive, hlt⟩

/-- After `renew_if_still_due` the subscription is not ACTIVE or its period lasts. -/
theorem renewIfStillDue_row {t₀ t₁ t₂ t₃ : DateTime}
    (h : renewIfStillDue db subscriptionId t₀ t₁ t₂ t₃ = .ok db') (h₀ : listedAt ≤ t₀)
    (h₂ : listedAt ≤ t₂) {s' : Subscription} (hs' : s' ∈ db'.subscriptions)
    (hid : s'.id = subscriptionId) : s'.status ≠ .active ∨ listedAt < s'.currentPeriodEnd := by
  simp only [renewIfStillDue, bind_eq_ok_iff, fetch_eq_ok_iff] at h
  obtain ⟨s, ⟨hs, hsid⟩, h⟩ := h
  split_ifs at h with hdue
  · simp only [renew, bind_eq_ok_iff, fetch_eq_ok_iff, ensure_eq_ok_iff, beq_iff_eq] at h
    obtain ⟨s₁, ⟨hs₁, hsid₁⟩, plan, -, -, hactive, -, -, hperiod⟩ := h
    obtain ⟨-, hlt⟩ := startPeriod_row hs₁ hactive hperiod hs' (hid.trans hsid₁.symm)
    exact Or.inr (h₂.trans_lt hlt)
  · obtain rfl := pure_eq_ok_iff.mp h
    obtain rfl := Table.eq_of_key_eq hs' hs (hid.trans hsid.symm)
    simp only [isDueForRenewal, Bool.and_eq_true, beq_iff_eq, decide_eq_true_eq, not_and,
      not_le] at hdue
    by_cases hactive : s'.status = .active
    · exact Or.inr (h₀.trans_lt (hdue hactive))
    · exact Or.inl hactive

/-- After `activate_if_still_expired` the subscription is not TRIAL or its period lasts. -/
theorem activateIfStillExpired_row {t₀ t₁ t₂ : DateTime}
    (h : activateIfStillExpired db subscriptionId t₀ t₁ t₂ = .ok db') (h₀ : listedAt ≤ t₀)
    {s' : Subscription} (hs' : s' ∈ db'.subscriptions) (hid : s'.id = subscriptionId) :
    s'.status ≠ .trial ∨ listedAt < s'.currentPeriodEnd := by
  simp only [activateIfStillExpired, bind_eq_ok_iff, fetch_eq_ok_iff] at h
  obtain ⟨s, ⟨hs, hsid⟩, h⟩ := h
  split_ifs at h with htrial hrunning
  · obtain rfl := pure_eq_ok_iff.mp h
    obtain rfl := Table.eq_of_key_eq hs' hs (hid.trans hsid.symm)
    simp only [isTrialToActivate, Bool.not_eq_true', beq_eq_false_iff_ne] at htrial
    exact Or.inl htrial
  · obtain rfl := pure_eq_ok_iff.mp h
    obtain rfl := Table.eq_of_key_eq hs' hs (hid.trans hsid.symm)
    exact Or.inr (h₀.trans_lt hrunning)
  · simp only [activate, bind_eq_ok_iff, fetch_eq_ok_iff, ensure_eq_ok_iff, Prod.exists] at h
    obtain ⟨s₁, ⟨hs₁, hsid₁⟩, plan, -, -, -, db₁, s₂, htransition, hperiod⟩ := h
    obtain ⟨-, rfl, rfl⟩ := Subscription.transitionTo_eq_ok htransition hs₁
    obtain ⟨hactive, -⟩ := startPeriod_row (Table.mem_update_self hs₁ (by rfl)) rfl hperiod hs'
      (hid.trans hsid₁.symm)
    simp [hactive]

/-- A subscription that has been handled is not one that the cycle lists. -/
theorem Cycle.Handled.not_selected (h : cycle.Handled env listedAt subscriptionId db db')
    {s' : Subscription} (hs' : s' ∈ db'.subscriptions) (hid : s'.id = subscriptionId) :
    cycle.selects listedAt s' = false := by
  obtain ⟨op, hhandles, -, hafter, hop⟩ := h
  have hnot : s'.status ≠ cycle.status ∨ listedAt < s'.currentPeriodEnd := by
    cases op with
    | renewIfStillDue n t₀ t₁ t₂ t₃ =>
      obtain ⟨rfl, rfl⟩ := hhandles
      exact renewIfStillDue_row hop (hafter t₀ (by simp [Operation.readings]))
        (hafter t₂ (by simp [Operation.readings])) hs' hid
    | activateIfStillExpired n t₀ t₁ t₂ =>
      obtain ⟨rfl, rfl⟩ := hhandles
      exact activateIfStillExpired_row hop (hafter t₀ (by simp [Operation.readings])) hs' hid
    | _ => exact hhandles.elim
  rw [Bool.eq_false_iff]
  intro hselects
  obtain ⟨hstatus, hdue⟩ := selects_iff.mp hselects
  rcases hnot with hother | hlater
  · exact hother hstatus
  · exact absurd hdue (not_le.mpr hlater)

/-! ## Trials -/

/-- A trial that goes on is not touched. -/
theorem BooksStep.trial_kept {readings : List DateTime} {b b' : Books}
    (h : BooksStep env readings b b') {s' : Subscription} (hs' : s' ∈ b'.subscriptions)
    (htrial : s'.status = .trial) (hid : s'.id ≠ b.subscriptions.next) : s' ∈ b.subscriptions := by
  have hupdated : ∀ {s t : Subscription}, s ∈ b.subscriptions → s' ∈ b.subscriptions.update t →
      t.id = s.id → t = s ∨ t.status ≠ .trial → s' ∈ b.subscriptions := by
    intro s t hs hmem htid hrow
    rcases (Table.mem_update_of_mem hs htid).mp hmem with rfl | ⟨hmem, -⟩
    · obtain rfl := hrow.resolve_right fun hnot => hnot htrial
      exact hs
    · exact hmem
  have hstarted : ∀ {subs : Table Subscription} {s : Subscription},
      PeriodStart readings b.subscriptions subs s → s' ∈ subs → s' ∈ b.subscriptions := by
    intro subs s hstart hmem
    rcases hstart.rows hmem with rfl | ⟨hmem, -⟩
    · rw [hstart.mem.2] at htrial
      cases htrial
    · exact hmem
  cases h with
  | lifecycle h =>
    cases h with
    | trialed =>
      rcases Table.mem_insert.mp hs' with hold | rfl
      · exact hold
      · exact absurd rfl hid
    | covered hstart => exact hstarted hstart hs'
    | billed hstart => exact hstarted hstart hs'
    | canceled hs => exact hupdated hs hs' rfl (Or.inr (by simp [Subscription.close]))
    | exhausted _ _ _ hs => exact hupdated hs hs' rfl (Or.inr (by simp [Subscription.close]))
    | _ => exact hs'
  | settled h =>
    obtain ⟨-, i, -, s, hs, -, -, h⟩ := h
    cases h with
    | applied _ _ _ _ hrow =>
      cases hrow with
      | unchanged => exact hupdated hs hs' rfl (Or.inl rfl)
      | active => exact hupdated hs hs' rfl (Or.inr (by simp [Subscription.stamp]))
    | declined =>
      refine hupdated hs hs' (s.later_declined _).id ?_
      unfold Subscription.declined
      split_ifs
      · exact Or.inr (by simp [Subscription.stamp])
      · exact Or.inl rfl
    | _ => exact hs'

/-- A subscription that is still a TRIAL has not changed. -/
theorem Reaches.trial_kept (h : Reaches (Step env) db db') {s s' : Subscription}
    (hs : s ∈ db.subscriptions) (hs' : s' ∈ db'.subscriptions) (hid : s'.id = s.id)
    (htrial : s'.status = .trial) : s' = s := by
  induction h generalizing s' with
  | refl => exact Table.eq_of_key_eq hs' hs hid
  | @tail a b hreach hstep ih =>
    obtain ⟨readings, hbooks⟩ := hstep.books
    refine ih (hbooks.trial_kept hs' htrial ?_) hid htrial
    -- the row is there before the last transaction
    obtain ⟨t, ht, htid, -⟩ := (Reaches.subscriptions hreach).kept s hs
    have hlt : t.id < a.subscriptions.next := Table.key_lt ht
    have hsame : s'.id = t.id := hid.trans htid.symm
    exact (hsame ▸ hlt).ne

end Chargeflow
