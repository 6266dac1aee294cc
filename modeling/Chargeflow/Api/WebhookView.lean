import Chargeflow.Api.ViewSets
import Chargeflow.Application.Signature

/-!
# The webhook endpoint

What the REST framework does to a request before the handler, and `WebhookView.post`: the signature
of the raw body, the serializers, and `handle_webhook`.  The view sets no throttle of its own, so
the default one counts its requests, by address.  The negotiation, the parser, the fields and the
counter of the REST framework are parameters; `RestFramework.Lawful` is what the endpoint relies on.
-/

namespace Chargeflow

open Foundation PaymentService

/-- A request that is posted to the endpoint; a missing header is the empty text. -/
structure WebhookRequest where
  body : List UInt8
  contentType : String
  /-- The header `Accept`. -/
  accept : String
  /-- The header `Authorization`, which no authenticator reads. -/
  authorization : String
  /-- The header `X-Organization-Id`. -/
  organizationHeader : Option String
  /-- The header `X-Webhook-Signature`. -/
  signature : String
  /-- The address that `get_ident` finds. -/
  address : String

/-- The response of the endpoint. -/
structure WebhookResponse where
  status : ℕ
  body : Json

/-- What the view takes from the REST framework: a value, or the detail of an error. -/
structure RestFramework where
  /-- Content negotiation, which refuses a request that no renderer can answer. -/
  negotiate : WebhookRequest → Except WebhookResponse Unit
  /-- The response to a request that has been throttled. -/
  throttled : WebhookRequest → WebhookResponse
  /-- `JSONParser`: the data of a request, or the response to one that cannot be parsed. -/
  parse : WebhookRequest → Except WebhookResponse Json
  /-- `CharField(max_length=...)`, with `allow_blank=False`. -/
  charField : ℕ → Json → Except Json String
  /-- `IntegerField(min_value=...)`. -/
  integerField : ℤ → Json → Except Json ℤ
  /-- `ChoiceField(choices=...)`. -/
  choiceField : List String → Json → Except Json String

/-- The documented behaviour: the status of each refusal, and what the fields let through is what
they were asked for.  A `CharField` prohibits the NUL character. -/
structure RestFramework.Lawful (rest : RestFramework) : Prop where
  negotiate : ∀ request response, rest.negotiate request = .error response → response.status = 406
  throttled : ∀ request, (rest.throttled request).status = 429
  parse : ∀ request response, rest.parse request = .error response →
    response.status = 400 ∨ response.status = 415
  charField : ∀ n v s, rest.charField n v = .ok s → s ≠ "" ∧ FitsColumn s n
  integerField : ∀ n v k, rest.integerField n v = .ok k → n ≤ k
  choiceField : ∀ choices v s, rest.choiceField choices v = .ok s → s ∈ choices

/-! ## The serializers -/

/-- `set(data) == expected`. -/
def hasKeys (data : List (String × Json)) (expected : List String) : Bool :=
  data.all (fun field => expected.contains field.1) &&
    expected.all fun name => data.any fun field => field.1 == name

/-- The errors of the fields of a serializer, under their names. -/
def fieldErrors (results : List (String × Option Json)) : Json :=
  .obj (results.filterMap fun result => result.2.map fun detail => (result.1, detail))

/-- The detail of a field that has failed. -/
def failure {α : Type} : Except Json α → Option Json
  | .ok _ => none
  | .error detail => some detail

namespace WebhookPayloadSerializer

/-- The fields of the payload, in the order of their declaration. -/
def toInternalValue (rest : RestFramework) : Json → Except Json (List (String × Json))
  | .null => .error (.arr [.str "This field may not be null."])
  | .obj data =>
    if hasKeys data ["payment_attempt_id", "status", "provider_charge_id"] then
      let paymentId := rest.integerField 1 (Json.get data "payment_attempt_id" .null)
      let status := rest.choiceField ["success", "failed"] (Json.get data "status" .null)
      let chargeId := rest.charField 255 (Json.get data "provider_charge_id" .null)
      match paymentId, status, chargeId with
      | .ok paymentId, .ok status, .ok chargeId =>
        .ok [("payment_attempt_id", .int paymentId), ("status", .str status),
          ("provider_charge_id", .str chargeId)]
      | _, _, _ => .error (fieldErrors [("payment_attempt_id", failure paymentId),
          ("status", failure status), ("provider_charge_id", failure chargeId)])
    else .error (.arr [.str
      "payload must contain payment_attempt_id, status and provider_charge_id."])
  | _ => .error (.arr [.str
      "payload must contain payment_attempt_id, status and provider_charge_id."])

end WebhookPayloadSerializer

/-- The validated data of a webhook. -/
structure WebhookData where
  provider : String
  providerEventId : String
  eventType : String
  payload : List (String × Json)

namespace WebhookSerializer

/-- The error for a body that is not an object with the four fields. -/
def unknownFields : Json :=
  .obj [("non_field_errors", .arr [.str "Unknown or missing webhook fields."])]

/-- The fields of a webhook, in the order of their declaration. -/
def toInternalValue (rest : RestFramework) : Json → Except Json WebhookData
  | .null => .error (.obj [("non_field_errors", .arr [.str "No data provided"])])
  | .obj data =>
    if hasKeys data ["provider", "provider_event_id", "event_type", "payload"] then
      let provider := rest.choiceField ["mock"] (Json.get data "provider" .null)
      let eventId := rest.charField 255 (Json.get data "provider_event_id" .null)
      let eventType := rest.charField 255 (Json.get data "event_type" .null)
      let payload := WebhookPayloadSerializer.toInternalValue rest (Json.get data "payload" .null)
      match provider, eventId, eventType, payload with
      | .ok provider, .ok eventId, .ok eventType, .ok payload =>
        .ok ⟨provider, eventId, eventType, payload⟩
      | _, _, _, _ => .error (fieldErrors [("provider", failure provider),
          ("provider_event_id", failure eventId), ("event_type", failure eventType),
          ("payload", failure payload)])
    else .error unknownFields
  | _ => .error unknownFields

end WebhookSerializer

/-! ## The view -/

/-- `initial`: the negotiation, and the default throttle with the verdict of its counter under a
cache key.  The view has no authenticators and lets everybody in, so the request stays anonymous. -/
def WebhookView.initial (env : AccountsEnv) (rest : RestFramework)
    (counter : String → Except String Bool) (db : Accounts) (request : WebhookRequest) :
    Except WebhookResponse Unit := do
  rest.negotiate request
  if failOpen (counter (getCacheKey env db
      (.incoming .post request.authorization request.organizationHeader) request.address)) then
    return ()
  else .error (rest.throttled request)

/-- `WebhookView.post` at the clock readings `time`, of the signature, and `now`.  The exceptions of
the service are not caught. -/
def WebhookView.post (env : Env) (signatures : SignatureEnv) (rest : RestFramework) (db : Db)
    (request : WebhookRequest) (time : ℚ) (now : DateTime) : Except Err (Db × WebhookResponse) :=
  match verifyWebhookSignature signatures time request.body request.signature with
  | .error e => .ok (db, ⟨400, .obj [("detail", .str e.message)]⟩)
  | .ok () =>
    match rest.parse request with
    | .error response => .ok (db, response)
    | .ok data =>
      match WebhookSerializer.toInternalValue rest data with
      | .error errors => .ok (db, ⟨400, errors⟩)
      | .ok data => do
        let db ← handleWebhook env db (.str data.eventType) (.obj data.payload) data.provider
          (.str data.providerEventId) now
        return (db, ⟨200, .obj [("status", .str "ok")]⟩)

/-- `dispatch`: a request that `initial` refuses does not reach `post`. -/
def WebhookView.dispatch (env : ServerEnv) (signatures : SignatureEnv) (rest : RestFramework)
    (counter : String → Except String Bool) (s : Store) (request : WebhookRequest) (time : ℚ)
    (now : DateTime) : Except Err (Store × WebhookResponse) :=
  match WebhookView.initial env.accounts rest counter s.accounts request with
  | .error response => .ok (s, response)
  | .ok () => do
    let (db, response) ← WebhookView.post env.billing signatures rest s.db request time now
    return ({ s with db := db }, response)

end Chargeflow
