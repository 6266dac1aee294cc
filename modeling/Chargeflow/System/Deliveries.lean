import Chargeflow.Foundation.Log
import Chargeflow.System.Settling

/-!
# Deliveries of webhooks

The provider may deliver an event any number of times, with different payloads, and the deliveries
run concurrently.  A delivery looks its event up, and goes on later: by then other transactions may
have committed, also one that has recorded the same event.  Its transaction may be rolled back at
any point before its commit, which leaves the database as it was.  `log` keeps the transactions that
have committed, in the order of their commits.
-/

namespace Chargeflow

open Foundation PaymentService

/-- The arguments of `handle_webhook`. -/
structure Delivery where
  eventType : Json
  payload : Json
  provider : String
  providerEventId : Json

/-- The checks of a delivery's arguments. -/
def Delivery.validate (d : Delivery) : Except Err ValidWebhook :=
  validateWebhook d.eventType d.payload d.provider d.providerEventId

/-- The delivery as a transaction of its own. -/
def Delivery.operation (d : Delivery) (now : DateTime) : Operation :=
  .webhook d.eventType d.payload d.provider d.providerEventId now

/-- The provider and the identifier of the event that a transaction delivers. -/
def Operation.eventKey : Operation → Option (String × String)
  | .webhook _ _ provider (.str providerEventId) _ => some (provider, providerEventId)
  | _ => none

/-- The transaction delivers a webhook. -/
def Operation.isWebhook : Operation → Bool
  | .webhook .. => true
  | _ => false

/-- The database, the deliveries whose transactions are open, and the committed transactions. -/
structure Deliveries where
  db : Db
  inFlight : List (Delivery × ValidWebhook)
  log : List Operation

/-- The events of a system that delivers webhooks. -/
inductive DeliveryEvent where
  /-- `handle_webhook` is called: it checks its arguments and looks the event up. -/
  | arrive (d : Delivery) (now : DateTime)
  /-- The rest of an open delivery runs, and commits unless it aborts. -/
  | finish (n : ℕ) (now : DateTime)
  /-- The transaction of an open delivery is rolled back. -/
  | rollBack (n : ℕ)
  /-- Another transaction commits. -/
  | transact (op : Operation)

/-- The system after an event, if the event can happen. -/
def Deliveries.step (env : Env) (sys : Deliveries) : DeliveryEvent → Option Deliveries
  | .arrive d now =>
    match d.validate with
    | .error _ => some sys
    | .ok event =>
      if isRecorded sys.db d.provider event.providerEventId then
        some { sys with log := sys.log ++ [d.operation now] }
      else
        some { sys with inFlight := sys.inFlight ++ [(d, event)] }
  | .finish n now =>
    match sys.inFlight[n]? with
    | none => none
    | some (d, event) =>
      match recordWebhook env sys.db d.provider event now with
      | .ok db => some ⟨db, sys.inFlight.eraseIdx n, sys.log ++ [d.operation now]⟩
      | .error _ => some { sys with inFlight := sys.inFlight.eraseIdx n }
  | .rollBack n => some { sys with inFlight := sys.inFlight.eraseIdx n }
  | .transact op =>
    if op.isWebhook then none
    else
      match op.apply env sys.db with
      | .ok db => some ⟨db, sys.inFlight, sys.log ++ [op]⟩
      | .error _ => none

/-- The steps of a system that delivers webhooks. -/
def DeliveryStep (env : Env) (sys sys' : Deliveries) : Prop :=
  ∃ e : DeliveryEvent, sys.step env e = some sys'

/-- The system after a list of events.  One that cannot happen changes nothing. -/
def Deliveries.after (env : Env) (sys : Deliveries) : List DeliveryEvent → Deliveries
  | [] => sys
  | e :: events => ((sys.step env e).getD sys).after env events

/-- A run of deliveries consists of steps. -/
theorem deliveries_reaches_after (env : Env) (sys : Deliveries) (events : List DeliveryEvent) :
    Reaches (DeliveryStep env) sys (sys.after env events) := by
  induction events generalizing sys with
  | nil => exact .refl
  | cons e events ih =>
    unfold Deliveries.after
    cases hstep : sys.step env e with
    | some sys' => exact .head ⟨e, hstep⟩ (ih sys')
    | none => exact ih sys

/-- The committed transactions without the repeated deliveries of an event. -/
def Deliveries.firstCommitted (sys : Deliveries) : List Operation :=
  firsts Operation.eventKey sys.log

/-! ## The recorded events -/

/-- An event is recorded if it is in the table. -/
theorem isRecorded_iff {db : Db} {provider eventId : String} :
    isRecorded db provider eventId = true ↔
      ∃ e ∈ db.webhookEvents, e.provider = provider ∧ e.providerEventId = eventId := by
  simp [isRecorded]

/-- Each event is recorded once, and processed. -/
structure EventsOnce (events : Table WebhookEvent) : Prop where
  unique : ∀ e ∈ events, ∀ e' ∈ events, e.provider = e'.provider →
    e.providerEventId = e'.providerEventId → e = e'
  processed : ∀ e ∈ events, e.processed = true

section

variable {env : Env} {db db' : Db} {provider : String} {event : ValidWebhook} {now : DateTime}

/-- The transaction of a delivery records its event, or finds it recorded. -/
theorem recordWebhook_events (h : recordWebhook env db provider event now = .ok db') :
    (isRecorded db provider event.providerEventId = true ∧ db' = db) ∨
      (isRecorded db provider event.providerEventId = false ∧
        db'.webhookEvents = db.webhookEvents.insert (processedEvent db provider event)) := by
  rcases recordWebhook_eq_ok h with hkept | ⟨hnew, events, db₁, -, rfl⟩
  · exact Or.inl hkept
  · exact Or.inr ⟨hnew, rfl⟩

/-- A recorded event keeps the events unique. -/
theorem EventsOnce.recordWebhook (hdb : EventsOnce db.webhookEvents)
    (h : recordWebhook env db provider event now = .ok db') : EventsOnce db'.webhookEvents := by
  rcases recordWebhook_events h with ⟨-, rfl⟩ | ⟨hnew, hevents⟩
  · exact hdb
  have hother : ∀ e ∈ db.webhookEvents, e.provider = provider →
      e.providerEventId ≠ event.providerEventId := by
    intro e he hprovider hid
    have hrecorded := isRecorded_iff.mpr ⟨e, he, hprovider, hid⟩
    rw [hnew] at hrecorded
    cases hrecorded
  rw [hevents]
  refine ⟨?_, ?_⟩
  · intro e he e' he' hprovider hid
    rcases Table.mem_insert.mp he with he | rfl <;> rcases Table.mem_insert.mp he' with he' | rfl
    · exact hdb.unique e he e' he' hprovider hid
    · exact absurd hid (hother e he hprovider)
    · exact absurd hid.symm (hother e' he' hprovider.symm)
    · rfl
  · intro e he
    rcases Table.mem_insert.mp he with he | rfl
    · exact hdb.processed e he
    · rfl

/-- Only the delivery of a webhook touches the events. -/
theorem Operation.events_eq {op : Operation} (h : op.apply env db = .ok db')
    (hop : op.isWebhook = false) : db'.webhookEvents = db.webhookEvents := by
  cases op with
  | gateway request seen success chargeId =>
    obtain ⟨⟨db₁, result⟩, hrun, rfl⟩ := map_eq_ok_iff.mp h
    obtain ⟨fingerprint, r, -, hanswered, -⟩ := MockPaymentGateway.finishCharge_eq_ok hrun
    cases hanswered <;> rfl
  | webhook => cases hop
  | _ =>
    have hwrites := Operation.writes h (by simp) (by simp)
    exact hwrites.invariant (I := fun d => d.webhookEvents = db.webhookEvents) rfl
      fun _ _ _ hI hwrite => hwrite.frame.1.trans hI

/-- A step keeps the events unique. -/
theorem Step.eventsOnce (h : Step env db db') (hdb : EventsOnce db.webhookEvents) :
    EventsOnce db'.webhookEvents := by
  obtain ⟨op, h⟩ := h
  by_cases hop : op.isWebhook = false
  · rwa [op.events_eq h hop]
  cases op with
  | webhook eventType payload provider providerEventId now =>
    simp only [Operation.apply, handleWebhook_eq, bind_eq_ok_iff] at h
    obtain ⟨event, -, h⟩ := h
    split_ifs at h
    · exact pure_eq_ok_iff.mp h ▸ hdb
    · exact hdb.recordWebhook h
  | _ => exact absurd rfl hop

/-- In every reachable state each event is stored once. -/
theorem Reachable.eventsOnce (h : Reachable env db) : EventsOnce db.webhookEvents := by
  refine h.invariant (I := fun d => EventsOnce d.webhookEvents) ⟨?_, ?_⟩
    fun _ _ _ hdb hstep => hstep.eventsOnce hdb
  · intro e he
    simp [Db.empty] at he
  · intro e he
    simp [Db.empty] at he

/-! ## Valid deliveries -/

/-- A valid delivery that names an attempt brings a charge id that fits its column. -/
theorem validateWebhook_chargeId {eventType payload : Json} {providerEventId : Json}
    {p : PaymentAttempt}
    (h : validateWebhook eventType payload provider providerEventId = .ok event)
    (hnamed : namedAttempt db event.payload = some p) :
    payloadChargeId event.payload ≠ "" ∧ (payloadChargeId event.payload).length ≤ 255 := by
  simp only [validateWebhook, bind_eq_ok_iff] at h
  obtain ⟨-, -, eventId, -, type, -, h⟩ := h
  split at h
  · rename_i fields
    obtain ⟨-, -, h⟩ := bind_eq_ok_iff.mp h
    have hnames : event.payload = fields → namesAttempt fields = true := by
      rintro rfl
      unfold namedAttempt at hnamed
      unfold namesAttempt
      split at hnamed
      · rename_i n hn
        rw [hn]
      · cases hnamed
    split_ifs at h with hcase
    · simp only [bind_eq_ok_iff, pure_eq_ok_iff] at h
      obtain ⟨-, -, c, hc, rfl⟩ := h
      unfold validText at hc
      unfold payloadChargeId
      dsimp only
      split at hc
      · split_ifs at hc with hlength
        exact hlength
      · cases hc
    · obtain rfl := pure_eq_ok_iff.mp h
      exact absurd (hnames rfl) hcase
  · cases h

/-- A check that raises a ValueError raises nothing else. -/
theorem ensure_error {holds : Bool} {message : String} {e : Err}
    (h : ensure holds (.valueError message) = .error e) : e = .valueError message := by
  cases holds with
  | true => cases h
  | false => exact (Except.error.inj h).symm

/-- The check of a text fails with its own message. -/
theorem validText_error {v : Json} {message : String} {e : Err}
    (h : validText v message = .error e) : e = .valueError message := by
  unfold validText at h
  split at h
  · split_ifs at h
    exact (Except.error.inj h).symm
  · exact (Except.error.inj h).symm

/-- All that a delivery is rejected for is a ValueError. -/
theorem validateWebhook_error {eventType payload : Json} {providerEventId : Json} {e : Err}
    (h : validateWebhook eventType payload provider providerEventId = .error e) :
    ∃ message, e = .valueError message := by
  unfold validateWebhook at h
  rcases bind_eq_error_iff.mp h with h | ⟨-, -, h⟩
  · exact ⟨_, ensure_error h⟩
  rcases bind_eq_error_iff.mp h with h | ⟨eventId, -, h⟩
  · exact ⟨_, validText_error h⟩
  rcases bind_eq_error_iff.mp h with h | ⟨type, -, h⟩
  · exact ⟨_, validText_error h⟩
  split at h
  · rcases bind_eq_error_iff.mp h with h | ⟨-, -, h⟩
    · exact ⟨_, ensure_error h⟩
    split_ifs at h
    · rcases bind_eq_error_iff.mp h with h | ⟨-, -, h⟩
      · exact ⟨_, ensure_error h⟩
      rcases bind_eq_error_iff.mp h with h | ⟨chargeId, -, h⟩
      · exact ⟨_, validText_error h⟩
      · cases h
    · cases h
  · exact ⟨_, (Except.error.inj h).symm⟩

/-- A valid delivery of an event that is not recorded commits. -/
theorem recordWebhook_commits {eventType payload : Json} {providerEventId : Json}
    (hdb : db.Consistent)
    (hvalid : validateWebhook eventType payload provider providerEventId = .ok event)
    (hnew : isRecorded db provider event.providerEventId = false) (now : DateTime) :
    ∃ db', recordWebhook env db provider event now = .ok db' := by
  cases hnamed : namedAttempt db event.payload with
  | none => exact ⟨_, recordWebhook_of_unnamed hnew hnamed⟩
  | some p =>
    obtain ⟨hne, hlength⟩ := validateWebhook_chargeId hvalid hnamed
    have hp : p ∈ db.attempts := namedAttempt_mem hnamed
    have hincoming : incomingChargeId event.payload (payloadChargeId event.payload) =
        .str (payloadChargeId event.payload) := if_pos hne
    have hfits : ¬ tooLong env p
        (incomingChargeId event.payload (payloadChargeId event.payload)) := by
      rw [hincoming]
      exact fun hlong => absurd hlong.2.2 (not_lt.mpr hlength)
    have hevents := hdb.withEvents (db.webhookEvents.insert (receivedEvent db provider event))
    obtain ⟨i, hi, s, hs, hpi, hsi⟩ := hdb.rows hp
    rw [recordWebhook_of_named hnew hnamed]
    have hsettle : settle env _ p.id _ _ _ now = _ := hevents.settle_eq hp hi hpi hs hsi
      (payloadSuccess event.payload) event.payload (payloadChargeId event.payload) now
    rw [if_neg hfits] at hsettle
    rw [hsettle]
    exact ⟨_, rfl⟩

/-- After the recording of an event, it is recorded beside the earlier ones. -/
theorem isRecorded_recordWebhook {eventProvider eventId : String}
    (h : recordWebhook env db provider event now = .ok db') :
    isRecorded db' eventProvider eventId = true ↔
      isRecorded db eventProvider eventId = true ∨
        (provider, event.providerEventId) = (eventProvider, eventId) := by
  rcases recordWebhook_events h with ⟨hrecorded, rfl⟩ | ⟨-, hevents⟩
  · refine ⟨Or.inl, ?_⟩
    rintro (hold | heq)
    · exact hold
    · obtain ⟨rfl, rfl⟩ := Prod.mk.inj heq
      exact hrecorded
  · simp only [isRecorded_iff, hevents, Table.mem_insert, or_and_right, exists_or, exists_eq_left]
    refine or_congr Iff.rfl ?_
    rw [Prod.mk.injEq]
    rfl

end

/-! ## The replay of the log -/

section

variable {env : Env} {db₀ db db' : Db} {d : Delivery} {event : ValidWebhook} {now : DateTime}

/-- The key of a valid delivery is its provider and its event id. -/
theorem Delivery.operation_eventKey (hvalid : d.validate = .ok event) (now : DateTime) :
    (d.operation now).eventKey = some (d.provider, event.providerEventId) := by
  unfold Delivery.operation
  rw [(validateWebhook_eq_ok hvalid).2]
  rfl

/-- A delivery by itself does what its second part does. -/
theorem Delivery.operation_apply (hvalid : d.validate = .ok event) (db : Db) (now : DateTime) :
    (d.operation now).apply env db = recordWebhook env db d.provider event now := by
  cases hrecorded : isRecorded db d.provider event.providerEventId with
  | false => exact handleWebhook_of_new hvalid hrecorded
  | true =>
    have hlookup : (d.operation now).apply env db = _ := handleWebhook_eq env db d.eventType
      d.payload d.provider d.providerEventId now
    rw [hlookup, show validateWebhook _ _ _ _ = Except.ok event from hvalid, ok_bind, hrecorded,
      if_pos rfl, recordWebhook_of_recorded hrecorded]
    rfl

/-- The database is the replay of the first committed deliveries and the other transactions, and the
recorded events are those recorded before and those delivered since. -/
structure Deliveries.Replays (env : Env) (db₀ : Db) (sys : Deliveries) : Prop where
  replay : replay (fun op db => op.apply env db) db₀ sys.firstCommitted = .ok sys.db
  recorded : ∀ provider eventId, isRecorded sys.db provider eventId = true ↔
    isRecorded db₀ provider eventId = true ∨ ∃ op ∈ sys.log, op.eventKey = some (provider, eventId)
  valid : ∀ x ∈ sys.inFlight, x.1.validate = .ok x.2

/-- A delivery commits.  A repeated one is dropped from the replay, and has left the database as it
was. -/
theorem Deliveries.Replays.deliver {inFlight inFlight' : List (Delivery × ValidWebhook)}
    {log : List Operation} (h : Deliveries.Replays env db₀ ⟨db, inFlight, log⟩)
    (hvalid : d.validate = .ok event)
    (hrun : recordWebhook env db d.provider event now = .ok db')
    (hkept : ∀ x ∈ inFlight', x ∈ inFlight) :
    Deliveries.Replays env db₀ ⟨db', inFlight', log ++ [d.operation now]⟩ where
  replay := by
    have hkey := Delivery.operation_eventKey hvalid now
    have happly : (d.operation now).apply env db = .ok db' :=
      (Delivery.operation_apply hvalid db now).trans hrun
    by_cases hseen : ∃ op ∈ log, op.eventKey = some (d.provider, event.providerEventId)
    · have hrecorded := (h.recorded _ _).mpr (Or.inr hseen)
      rw [recordWebhook_of_recorded hrecorded] at hrun
      obtain rfl := Except.ok.inj hrun
      simp only [Deliveries.firstCommitted, firsts_append_seen hkey hseen]
      exact h.replay
    · have hfirst : ∀ k, (d.operation now).eventKey = some k →
          ∀ op ∈ log, op.eventKey ≠ some k := by
        intro k hk op hop heq
        rw [hkey] at hk
        exact hseen ⟨op, hop, heq.trans hk.symm⟩
      simp only [Deliveries.firstCommitted, firsts_append_new hfirst]
      exact replay_append h.replay happly
  recorded provider eventId := by
    rw [isRecorded_recordWebhook hrun, h.recorded]
    simp only [List.mem_append, List.mem_singleton, or_and_right, exists_or, exists_eq_left,
      Delivery.operation_eventKey hvalid now, Option.some.injEq, or_assoc]
  valid x hx := h.valid x (hkept x hx)

/-- A step of the deliveries replays its log. -/
theorem Deliveries.Replays.step {sys sys' : Deliveries} (h : Deliveries.Replays env db₀ sys)
    (hstep : DeliveryStep env sys sys') : Deliveries.Replays env db₀ sys' := by
  obtain ⟨e, he⟩ := hstep
  cases e with
  | arrive d now =>
    simp only [Deliveries.step] at he
    split at he
    · exact Option.some.inj he ▸ h
    · rename_i event hvalid
      split_ifs at he with hrecorded
      · obtain rfl := Option.some.inj he
        exact h.deliver hvalid (recordWebhook_of_recorded hrecorded) fun x hx => hx
      · obtain rfl := Option.some.inj he
        refine ⟨h.replay, h.recorded, ?_⟩
        intro x hx
        rcases List.mem_append.mp hx with hx | hx
        · exact h.valid x hx
        · rw [List.mem_singleton.mp hx]
          exact hvalid
  | finish n now =>
    simp only [Deliveries.step] at he
    split at he
    · cases he
    · rename_i d event hget
      have hvalid := h.valid _ (List.mem_of_getElem? hget)
      split at he
      · rename_i db hrun
        obtain rfl := Option.some.inj he
        exact h.deliver hvalid hrun fun x hx => List.mem_of_mem_eraseIdx hx
      · obtain rfl := Option.some.inj he
        exact ⟨h.replay, h.recorded, fun x hx => h.valid x (List.mem_of_mem_eraseIdx hx)⟩
  | rollBack n =>
    obtain rfl := Option.some.inj he
    exact ⟨h.replay, h.recorded, fun x hx => h.valid x (List.mem_of_mem_eraseIdx hx)⟩
  | transact op =>
    simp only [Deliveries.step] at he
    split_ifs at he with hop
    rw [Bool.not_eq_true] at hop
    split at he
    · rename_i db hrun
      obtain rfl := Option.some.inj he
      have hkey : op.eventKey = none := by
        cases op with
        | webhook => cases hop
        | _ => rfl
      have hevents := op.events_eq hrun hop
      refine ⟨?_, ?_, h.valid⟩
      · have hfirst : ∀ k, op.eventKey = some k → ∀ op' ∈ sys.log, op'.eventKey ≠ some k := by
          intro k hk
          rw [hkey] at hk
          cases hk
        simp only [Deliveries.firstCommitted, firsts_append_new hfirst]
        exact replay_append h.replay hrun
      · intro provider eventId
        have hsame : isRecorded db provider eventId = isRecorded sys.db provider eventId := by
          rw [isRecorded, hevents]
          rfl
        rw [hsame, h.recorded]
        simp [hkey]
    · cases he

/-- A run of deliveries replays its log. -/
theorem Reaches.replays {db₀ : Db} {sys : Deliveries}
    (h : Reaches (DeliveryStep env) ⟨db₀, [], []⟩ sys) : Deliveries.Replays env db₀ sys := by
  refine h.invariant (I := Deliveries.Replays env db₀) ⟨rfl, by simp, by simp⟩
    fun _ _ _ hsys hstep => hsys.step hstep

/-- The replay of a log is a run. -/
theorem Deliveries.Replays.reaches {sys : Deliveries} (h : Deliveries.Replays env db₀ sys) :
    Reaches (Step env) db₀ sys.db :=
  replay_reaches h.replay fun op _ _ hop => ⟨op, hop⟩

end

end Chargeflow
