import Chargeflow.System.Deliveries

/-!
# Exactly-once processing of webhooks

Of the deliveries of an event the first that commits is processed, and the others have no effect.
The database is the one that the first committed deliveries lead to by themselves, together with the
other transactions that have committed; a delivery that was rolled back has left no trace.
-/

namespace Chargeflow

open Foundation PaymentService

variable {env : Env}

/-- The deliveries made since `db₀` have been processed exactly once. -/
structure ExactlyOnce (env : Env) (db₀ : Db) (sys : Deliveries) : Prop where
  /-- An event has at most one row. -/
  once : ∀ provider eventId, (sys.db.webhookEvents.filter fun e =>
    e.provider == provider && e.providerEventId == eventId).length ≤ 1
  processed : ∀ e ∈ sys.db.webhookEvents, e.processed = true
  /-- The database is the replay of the first committed deliveries. -/
  firstWins : replay (fun op db => op.apply env db) db₀ sys.firstCommitted = .ok sys.db
  /-- An event is recorded when it was before, or one of its deliveries has committed. -/
  recorded : ∀ provider eventId, isRecorded sys.db provider eventId = true ↔
    isRecorded db₀ provider eventId = true ∨ ∃ op ∈ sys.log, op.eventKey = some (provider, eventId)
  /-- A delivery of any other event is applied. -/
  applied : ∀ (d : Delivery) event (now : DateTime), d.validate = .ok event →
    isRecorded sys.db d.provider event.providerEventId = false →
    ∃ db', (d.operation now).apply env sys.db = .ok db' ∧
      isRecorded db' d.provider event.providerEventId = true ∧
      (namedAttempt sys.db event.payload = none → db'.books = sys.db.books) ∧
      ∀ p, namedAttempt sys.db event.payload = some p →
        Settles env sys.db.books p (payloadSuccess event.payload) event.payload
          (.str (payloadChargeId event.payload)) now db'.books
  /-- A delivery that is rejected changes nothing. -/
  rejected : ∀ (d : Delivery) (now : DateTime) (e : Err), d.validate = .error e →
    (∃ message, e = .valueError message) ∧ (d.operation now).apply env sys.db = .error e ∧
      sys.step env (.arrive d now) = some sys

/-- A valid delivery of an event that is not recorded is applied. -/
theorem delivery_applied {db : Db} (hdb : db.Consistent) {d : Delivery} {event : ValidWebhook}
    (hvalid : d.validate = .ok event)
    (hnew : isRecorded db d.provider event.providerEventId = false) (now : DateTime) :
    ∃ db', (d.operation now).apply env db = .ok db' ∧
      isRecorded db' d.provider event.providerEventId = true ∧
      (namedAttempt db event.payload = none → db'.books = db.books) ∧
      ∀ p, namedAttempt db event.payload = some p →
        Settles env db.books p (payloadSuccess event.payload) event.payload
          (.str (payloadChargeId event.payload)) now db'.books := by
  obtain ⟨db', hrun⟩ : ∃ db', recordWebhook env db d.provider event now = .ok db' :=
    recordWebhook_commits hdb hvalid hnew now
  have happly : (d.operation now).apply env db = .ok db' :=
    (Delivery.operation_apply hvalid db now).trans hrun
  refine ⟨db', happly, (isRecorded_recordWebhook hrun).mpr (Or.inr rfl), ?_⟩
  obtain ⟨event', hvalid', -, hbooks⟩ := handleWebhook_eq_ok happly
  obtain rfl := Except.ok.inj (hvalid.symm.trans hvalid')
  rcases hbooks with ⟨hkept, hrecorded | hunnamed⟩ | ⟨p, hnamed, hsettles⟩
  · rw [isRecorded_iff.mpr hrecorded] at hnew
    cases hnew
  · refine ⟨fun _ => hkept, ?_⟩
    intro p hp
    rw [hunnamed] at hp
    cases hp
  · refine ⟨?_, ?_⟩
    · intro hunnamed
      rw [hunnamed] at hnamed
      cases hnamed
    · intro q hq
      obtain rfl := Option.some.inj (hq.symm.trans hnamed)
      have hne := (validateWebhook_chargeId hvalid hnamed).1
      rwa [incomingChargeId, if_pos hne] at hsettles

/-- Webhook events are applied exactly once, over all interleavings of their deliveries. -/
theorem webhooks_exactly_once {db₀ : Db} (h₀ : Reachable env db₀) {sys : Deliveries}
    (h : Reaches (DeliveryStep env) ⟨db₀, [], []⟩ sys) : ExactlyOnce env db₀ sys := by
  have hreplays := Reaches.replays h
  have hreach : Reachable env sys.db := h₀.trans hreplays.reaches
  have honce := hreach.eventsOnce
  refine ⟨?_, honce.processed, hreplays.replay, hreplays.recorded, ?_, ?_⟩
  · intro provider eventId
    refine Table.length_filter_le_one ?_
    intro e he e' he' htest htest'
    simp only [Bool.and_eq_true, beq_iff_eq] at htest htest'
    exact honce.unique e he e' he' (htest.1.trans htest'.1.symm) (htest.2.trans htest'.2.symm)
  · intro d event now hvalid hnew
    exact delivery_applied hreach.consistent hvalid hnew now
  · intro d now e herror
    refine ⟨validateWebhook_error herror, ?_, ?_⟩
    · have hrejected : validateWebhook d.eventType d.payload d.provider d.providerEventId =
          .error e := herror
      simp only [Delivery.operation, Operation.apply, handleWebhook_eq, hrejected]
      rfl
    · simp only [Deliveries.step, herror]

/-- A report on the first attempt, under the same event. -/
def report (status : String) : Delivery where
  eventType := .str "payment.updated"
  payload := .obj [("payment_attempt_id", .int 1), ("status", .str status),
    ("provider_charge_id", .str "ch_1")]
  provider := "mock"
  providerEventId := .str "evt_1"

/-- Two deliveries of the event arrive before either commits, and a third one is rolled back. -/
def racedDeliveries : Deliveries :=
  (⟨preparedRun, [], []⟩ : Deliveries).after sampleEnv
    [.arrive (report "failed") (sampleTime 0 3), .arrive (report "success") (sampleTime 0 3),
      .arrive (report "failed") (sampleTime 0 3), .rollBack 0, .finish 0 (sampleTime 0 4),
      .finish 0 (sampleTime 0 5)]

/-- Two racing deliveries of one event are logged twice and committed once. -/
theorem webhooks_exactly_once_raced :
    racedDeliveries.log.length = 2 ∧ racedDeliveries.firstCommitted.length = 1 ∧
      ExactlyOnce sampleEnv preparedRun racedDeliveries :=
  ⟨by decide +kernel, by decide +kernel,
    webhooks_exactly_once reachable_preparedRun (deliveries_reaches_after sampleEnv _ _)⟩

end Chargeflow
