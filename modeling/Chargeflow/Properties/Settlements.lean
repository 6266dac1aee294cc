import Chargeflow.System.ChargeState

/-!
# The order of settlements

Results of one charge may reach the billing system several times and in any order: from the gateway
and from webhooks, a success before or after a failure.  What they leave behind depends only on
whether a success is among them.
-/

namespace Chargeflow

open Foundation PaymentService

variable {env : Env}

/-- The transaction settles a result for the attempt `p` with the charge id `c`: by itself, or as a
valid webhook that names the attempt and is not recorded yet. -/
inductive Operation.Carries (db : Db) (p : PaymentAttempt) (c : String) (success : Bool) :
    Operation → Prop
  | result {response : List (String × Json)} {chargeId : String}
      (hcharge : incomingChargeId response chargeId = .str c) (now : DateTime) :
      Carries db p c success (.settle p.id success response chargeId now)
  | webhook {eventType payload : Json} {provider : String} {eventId : Json} {event : ValidWebhook}
      (hvalid : validateWebhook eventType payload provider eventId = .ok event)
      (hnew : isRecorded db provider event.providerEventId = false)
      (hnamed : namedAttempt db event.payload = some p)
      (hsuccess : payloadSuccess event.payload = success)
      (hcharge : payloadChargeId event.payload = c) (now : DateTime) :
      Carries db p c success (.webhook eventType payload provider eventId now)

/-- Settlements of the attempt with the key `n`, one after the other, all with the charge id `c`.
The list tells their outcomes.  One that aborts leaves the database as it was. -/
inductive SettlementRun (env : Env) (n : ℕ) (c : String) : Db → List Bool → Db → Prop
  | nil (db : Db) : SettlementRun env n c db [] db
  | cons {db db' : Db} {op : Operation} {p : PaymentAttempt} {success : Bool} {l : List Bool}
      (hp : p ∈ db.attempts) (hid : p.id = n) (hop : op.Carries db p c success)
      (hrest : SettlementRun env n c (db.after env [op]) l db') :
      SettlementRun env n c db (success :: l) db'

/-- A run of one operation applies it or leaves the state. -/
theorem Db.after_singleton (env : Env) (db : Db) (op : Operation) :
    db.after env [op] = match op.apply env db with
      | .ok db' => db'
      | .error _ => db := by
  unfold Db.after Db.after
  rfl

/-- A settlement is a step of the state of the charge. -/
theorem Operation.Carries.step {db : Db} {p p₀ : PaymentAttempt} {i i₀ : Invoice}
    {s s₀ : Subscription} {c : String} {success : Bool} {op : Operation} (h : db.Consistent)
    (hop : op.Carries db p c success) (hc : c ≠ "") (hp : p ∈ db.attempts) (hi : i ∈ db.invoices)
    (hpi : i.id = p.invoiceId) (hs : s ∈ db.subscriptions) (hsi : s.id = i.subscriptionId)
    (hversions : Versions p₀ p i₀ i s₀ s) :
    (db.after env [op]).books.HasState p₀ i₀ s₀ c
      ((db.books.chargeState p i s c).settle c success) := by
  have hkept : (db.books.chargeState p i s c).settle c success = db.books.chargeState p i s c →
      db.books.HasState p₀ i₀ s₀ c ((db.books.chargeState p i s c).settle c success) :=
    fun hsame => ⟨p, hp, i, hi, s, hs, hversions, hsame.symm⟩
  rw [Db.after_singleton]
  cases hop with
  | result hcharge now =>
    rcases settle_step h hp hi hpi hs hsi success hcharge now with
      ⟨b', hrun, hsettled⟩ | ⟨⟨e, hrun⟩, hsame⟩
    · have happly : (Operation.settle p.id success _ _ now).apply env db = _ := hrun
      rw [happly]
      exact hsettled.hasState hversions hp hi hs
    · have happly : (Operation.settle p.id success _ _ now).apply env db = _ := hrun
      rw [happly]
      exact hkept hsame
  | @webhook eventType payload provider eventId event hvalid hnew hnamed hsuccess hcharge now =>
    have hincoming : incomingChargeId event.payload (payloadChargeId event.payload) = .str c := by
      rw [hcharge, incomingChargeId, if_pos hc]
    have happly : (Operation.webhook eventType payload provider eventId now).apply env db = _ :=
      (handleWebhook_of_new hvalid hnew).trans (recordWebhook_of_named hnew hnamed)
    rw [happly, hsuccess]
    have hevents := h.withEvents
      (db.webhookEvents.insert (receivedEvent db provider event))
    rcases settle_step hevents hp hi hpi hs hsi success hincoming now with
      ⟨b', hrun, hsettled⟩ | ⟨⟨e, hrun⟩, hsame⟩
    · rw [hrun, ok_bind]
      exact hsettled.hasState hversions hp hi hs
    · rw [hrun]
      exact hkept hsame

/-- A run of settlements is a run. -/
theorem SettlementRun.reaches {db db' : Db} {n : ℕ} {c : String} {l : List Bool}
    (h : SettlementRun env n c db l db') : Reaches (Step env) db db' := by
  induction h with
  | nil db => exact .refl
  | cons _ _ _ _ ih => exact (reaches_after env _ _).trans ih

/-- A run of settlements is a run of the state of the charge. -/
theorem SettlementRun.state {db db' : Db} {p : PaymentAttempt} {i : Invoice} {s : Subscription}
    {c : String} {l : List Bool} {v : ChargeState} (h : SettlementRun env p.id c db l db')
    (hdb : db.Consistent) (hc : c ≠ "") (hpi : i.id = p.invoiceId) (hsi : s.id = i.subscriptionId)
    (hstate : db.books.HasState p i s c v) :
    db'.books.HasState p i s c (v.settleAll c l) := by
  induction h generalizing v with
  | nil db => exact hstate
  | @cons db db' op q success l hq hid hop _ ih =>
    obtain ⟨p', hp', i', hi', s', hs', hversions, rfl⟩ := hstate
    obtain rfl := Table.eq_of_key_eq hq hp' (hid.trans hversions.attempt.id.symm)
    have hlinked : i'.id = q.invoiceId ∧ s'.id = i'.subscriptionId := by
      rw [hversions.invoiceId, hversions.attempt.invoiceId, hversions.subscriptionId,
        hversions.invoiceSubscription]
      exact ⟨hpi, hsi⟩
    exact ih (Reaches.consistent (reaches_after env db [op]) hdb)
      (hop.step hdb hc hp' hi' hlinked.1 hs' hlinked.2 hversions)

/-- The databases agree on what became of the charge of the attempt `p`, whose invoice is `i` and
whose subscription is `s`. -/
structure AgreeOn (db₁ db₂ : Db) (p : PaymentAttempt) (i : Invoice) (s : Subscription) : Prop where
  invoice : ∃ i₁ ∈ db₁.invoices, ∃ i₂ ∈ db₂.invoices, i₁.id = i.id ∧ i₂.id = i.id ∧
    i₁.status = i₂.status
  subscription : ∃ s₁ ∈ db₁.subscriptions, ∃ s₂ ∈ db₂.subscriptions, s₁.id = s.id ∧ s₂.id = s.id ∧
    s₁.status = s₂.status
  attempt : ∃ p₁ ∈ db₁.attempts, ∃ p₂ ∈ db₂.attempts, p₁.id = p.id ∧ p₂.id = p.id ∧
    p₁.needsReconciliation = p₂.needsReconciliation ∧
    p₁.providerChargeId = p₂.providerChargeId ∧ (p₁.status = .success ↔ p₂.status = .success)

/-- States with the same outcome agree on the three rows. -/
theorem AgreeOn.of_outcome {db₁ db₂ : Db} {p : PaymentAttempt} {i : Invoice} {s : Subscription}
    {c : String} {v₁ v₂ : ChargeState} (h₁ : db₁.books.HasState p i s c v₁)
    (h₂ : db₂.books.HasState p i s c v₂) (h : v₁.outcome = v₂.outcome) :
    AgreeOn db₁ db₂ p i s := by
  obtain ⟨p₁, hp₁, i₁, hi₁, s₁, hs₁, hversions₁, rfl⟩ := h₁
  obtain ⟨p₂, hp₂, i₂, hi₂, s₂, hs₂, hversions₂, rfl⟩ := h₂
  simp only [ChargeState.outcome, Books.chargeState, Prod.mk.injEq] at h
  obtain ⟨hstatus, hflag, hcharge, hinvoice, hsubscription⟩ := h
  rw [Bool.eq_iff_iff, beq_iff_eq, beq_iff_eq] at hstatus
  exact ⟨⟨i₁, hi₁, i₂, hi₂, hversions₁.invoiceId, hversions₂.invoiceId, hinvoice⟩,
    ⟨s₁, hs₁, s₂, hs₂, hversions₁.subscriptionId, hversions₂.subscriptionId, hsubscription⟩,
    ⟨p₁, hp₁, p₂, hp₂, hversions₁.attempt.id, hversions₂.attempt.id, hflag, hcharge, hstatus⟩⟩

/-- An attempt that is not flagged may record a charge id that is free, and an ACTIVE subscription
has no arrears. -/
theorem chargeState_receptive {db : Db} (h : db.Consistent) {p : PaymentAttempt} {i : Invoice}
    {s : Subscription} {c : String} (hs : s ∈ db.subscriptions)
    (hflag : p.needsReconciliation = false)
    (hcharge : p.providerChargeId = "" ∨ p.providerChargeId = c)
    (hfree : ¬ Taken db.attempts p c) : (db.books.chargeState p i s c).Receptive c where
  unflagged := hflag
  chargeId := hcharge
  free := by
    rw [← Bool.not_eq_true, chargeState_taken]
    exact hfree
  standing := by
    intro hactive
    have hnot : s.status = .active := hactive
    simp only [Books.chargeState, Table.any_eq_false, Bool.and_eq_false_iff, bne_eq_false_iff_eq,
      beq_eq_false_iff_ne, Bool.or_eq_false_iff]
    intro j hj
    by_cases hjs : j.subscriptionId = s.id
    · have hagrees := h.sound.inStanding.agrees s hs j hj hjs
      refine Or.inr (Or.inr ⟨?_, ?_⟩)
      · intro hfailed
        simpa [hnot] using hagrees.failed hfailed
      · intro hoverdue
        simpa [hnot] using (hagrees.unpaid hoverdue).1
    · exact Or.inr (Or.inl hjs)

/-- The order and the number of the settlements with one charge id do not matter. -/
theorem settlements_commute {db : Db} (h : Reachable env db) {p : PaymentAttempt}
    (hp : p ∈ db.attempts) (hflag : p.needsReconciliation = false) {c : String} (hc : c ≠ "")
    (hcharge : p.providerChargeId = "" ∨ p.providerChargeId = c)
    (hfree : ∀ q ∈ db.attempts, q.id ≠ p.id → q.provider = p.provider → q.providerChargeId ≠ c)
    {l₁ l₂ : List Bool} {db₁ db₂ : Db} (h₁ : SettlementRun env p.id c db l₁ db₁)
    (h₂ : SettlementRun env p.id c db l₂ db₂) (hne₁ : l₁ ≠ []) (hne₂ : l₂ ≠ [])
    (hsame : true ∈ l₁ ↔ true ∈ l₂) :
    ∃ i ∈ db.invoices, ∃ s ∈ db.subscriptions, i.id = p.invoiceId ∧ s.id = i.subscriptionId ∧
      AgreeOn db₁ db₂ p i s := by
  have hdb := h.consistent
  obtain ⟨i, hi, s, hs, hpi, hsi⟩ := hdb.rows hp
  refine ⟨i, hi, s, hs, hpi, hsi, ?_⟩
  have hreceptive : (db.books.chargeState p i s c).Receptive c :=
    chargeState_receptive hdb hs hflag hcharge fun htaken => by
      obtain ⟨-, q, hq, hne, hprovider, heq⟩ := htaken
      exact hfree q hq hne hprovider heq
  have hstart : db.books.HasState p i s c (db.books.chargeState p i s c) :=
    ⟨p, hp, i, hi, s, hs, Versions.refl p i s, rfl⟩
  refine AgreeOn.of_outcome (h₁.state hdb hc hpi hsi hstart) (h₂.state hdb hc hpi hsi hstart) ?_
  rw [ChargeState.settleAll_outcome hreceptive hc hne₁,
    ChargeState.settleAll_outcome hreceptive hc hne₂, decide_eq_decide.mpr hsame]

/-- A failure of the first charge. -/
def lateFailure : Db :=
  preparedRun.after sampleEnv [.settle 1 false [] "ch_1" (sampleTime 0 3)]

/-- And then its success. -/
def successAfterFailure : Db :=
  lateFailure.after sampleEnv [.settle 1 true [] "ch_1" (sampleTime 0 4)]

/-- The attempt was settled as a success at once. -/
def successAtOnce : Db :=
  preparedRun.after sampleEnv [.settle 1 true [] "ch_1" (sampleTime 0 3)]

/-- A success after a failure leaves what a success at once leaves. -/
theorem settlements_commute_preparedRun :
    ∃ p ∈ preparedRun.attempts, ∃ i ∈ preparedRun.invoices, ∃ s ∈ preparedRun.subscriptions,
      i.id = p.invoiceId ∧ s.id = i.subscriptionId ∧
      AgreeOn successAfterFailure successAtOnce p i s := by
  obtain ⟨p, hp, hid, hflag, hempty⟩ : ∃ p ∈ preparedRun.attempts, p.id = 1 ∧
      p.needsReconciliation = false ∧ p.providerChargeId = "" := by decide +kernel
  obtain ⟨q, hq, hqid⟩ : ∃ q ∈ lateFailure.attempts, q.id = 1 := by decide +kernel
  have hfree : ∀ q ∈ preparedRun.attempts, q.providerChargeId ≠ "ch_1" := by decide +kernel
  have hresult : ∀ (db : Db) (p : PaymentAttempt) (success : Bool) (now : DateTime), p.id = 1 →
      (Operation.settle 1 success [] "ch_1" now).Carries db p "ch_1" success := by
    intro db p success now hid
    rw [← hid]
    exact .result rfl now
  have hboth : SettlementRun sampleEnv p.id "ch_1" preparedRun [false, true]
      successAfterFailure := by
    rw [hid]
    exact .cons hp hid (hresult _ p false _ hid) (.cons hq hqid (hresult _ q true _ hqid) (.nil _))
  have hone : SettlementRun sampleEnv p.id "ch_1" preparedRun [true] successAtOnce := by
    rw [hid]
    exact .cons hp hid (hresult _ p true _ hid) (.nil _)
  exact ⟨p, hp, settlements_commute reachable_preparedRun hp hflag (by decide) (Or.inl hempty)
    (fun q hq _ _ => hfree q hq) hboth hone (by decide) (by decide) (by decide)⟩

end Chargeflow
