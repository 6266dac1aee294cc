import Chargeflow.Effects.Writes
import Chargeflow.System.Operations

/-!
# Rules that every write keeps

A transaction is a sequence of writes, apart from the webhook events and the receipts.  So a rule on
the other tables holds in every reachable database once each write keeps it.
-/

namespace Chargeflow

open Foundation

namespace PaymentService

/-- The event with this identifier is recorded. -/
def isRecorded (db : Db) (provider providerEventId : String) : Bool :=
  db.webhookEvents.any fun e => e.provider == provider && e.providerEventId == providerEventId

/-- `handle_webhook` after its lookup: the event is inserted in a savepoint, unless another delivery
was faster, and its result settled. -/
def recordWebhook (env : Env) (db : Db) (provider : String) (event : ValidWebhook)
    (now : DateTime) : Except Err Db :=
  match WebhookEvent.create db event.eventType provider event.providerEventId event.payload with
  | .error (.integrityError _) => return db
  | .error e => .error e
  | .ok (db, webhook) =>
    match namedAttempt db event.payload with
    | none =>
      return { db with webhookEvents := db.webhookEvents.update { webhook with processed := true } }
    | some payment => do
      let webhook := { webhook with organizationId := some payment.organizationId }
      let db := { db with webhookEvents := db.webhookEvents.update webhook }
      let db ← settle env db payment.id (payloadSuccess event.payload) event.payload
        (payloadChargeId event.payload) now
      return { db with webhookEvents := db.webhookEvents.update { webhook with processed := true } }

/-- `handle_webhook` in three parts: the checks of its arguments, the lookup, and the rest. -/
theorem handleWebhook_eq (env : Env) (db : Db) (eventType payload : Json) (provider : String)
    (providerEventId : Json) (now : DateTime) :
    handleWebhook env db eventType payload provider providerEventId now =
      (validateWebhook eventType payload provider providerEventId >>= fun event =>
        if isRecorded db provider event.providerEventId then pure db
        else recordWebhook env db provider event now) := rfl

/-- A valid delivery of an event that is not recorded goes on with the rest. -/
theorem handleWebhook_of_new {env : Env} {db : Db} {eventType payload : Json} {provider : String}
    {providerEventId : Json} {event : ValidWebhook} {now : DateTime}
    (hvalid : validateWebhook eventType payload provider providerEventId = .ok event)
    (hnew : isRecorded db provider event.providerEventId = false) :
    handleWebhook env db eventType payload provider providerEventId now =
      recordWebhook env db provider event now := by
  rw [handleWebhook_eq, hvalid, ok_bind, hnew, if_neg (by decide)]

/-- The event a delivery inserts, before its key is known and its result is settled. -/
def receivedEvent (db : Db) (provider : String) (event : ValidWebhook) : WebhookEvent where
  id := 0
  organizationId := (namedAttempt db event.payload).map PaymentAttempt.organizationId
  eventType := event.eventType
  provider := provider
  providerEventId := event.providerEventId
  payload := .obj event.payload
  processed := false

/-- The event a delivery leaves behind. -/
def processedEvent (db : Db) (provider : String) (event : ValidWebhook) : WebhookEvent :=
  { receivedEvent db provider event with processed := true }

/-- An event that is recorded already is not recorded again. -/
theorem recordWebhook_of_recorded {env : Env} {db : Db} {provider : String} {event : ValidWebhook}
    {now : DateTime} (h : isRecorded db provider event.providerEventId = true) :
    recordWebhook env db provider event now = .ok db := by
  unfold isRecorded at h
  simp only [recordWebhook, WebhookEvent.create, ensure, h, Bool.not_true, bind, Except.bind]
  rfl

section

variable {env : Env} {db : Db} {provider : String} {event : ValidWebhook} {now : DateTime}

/-- The insertion of an event that is not recorded. -/
theorem createEvent_of_new (h : isRecorded db provider event.providerEventId = false) :
    WebhookEvent.create db event.eventType provider event.providerEventId event.payload =
      .ok ({ db with
          webhookEvents := db.webhookEvents.insert (receivedEvent db provider event) },
        withKey db.webhookEvents.next (receivedEvent db provider event)) := by
  unfold isRecorded at h
  simp only [WebhookEvent.create, ensure, h, Bool.not_false, if_true, bind, Except.bind]
  rfl

/-- The attempt that a payload names is stored. -/
theorem namedAttempt_mem {payload : List (String × Json)} {p : PaymentAttempt}
    (h : namedAttempt db payload = some p) : p ∈ db.attempts := by
  unfold namedAttempt at h
  split at h
  · exact (Table.get?_eq_some_iff.mp h).1
  · cases h

/-- A new event that names no attempt is recorded, and nothing else happens. -/
theorem recordWebhook_of_unnamed (h : isRecorded db provider event.providerEventId = false)
    (hnamed : namedAttempt db event.payload = none) :
    recordWebhook env db provider event now = .ok { db with
      webhookEvents := db.webhookEvents.insert (processedEvent db provider event) } := by
  have hupdate : (db.webhookEvents.insert (receivedEvent db provider event)).update
        (withKey db.webhookEvents.next (processedEvent db provider event)) =
      db.webhookEvents.insert (processedEvent db provider event) :=
    Table.insert_update (b := withKey db.webhookEvents.next (processedEvent db provider event)) rfl
  have hnamed' : namedAttempt { db with
      webhookEvents := db.webhookEvents.insert (receivedEvent db provider event) }
      event.payload = none := hnamed
  unfold recordWebhook
  rw [createEvent_of_new h]
  simp only [hnamed']
  rw [← hupdate]
  rfl

/-- The result of a new event is settled between its insertion and its last save. -/
theorem recordWebhook_of_named (h : isRecorded db provider event.providerEventId = false)
    {p : PaymentAttempt} (hnamed : namedAttempt db event.payload = some p) :
    recordWebhook env db provider event now =
      (settle env { db with
          webhookEvents := db.webhookEvents.insert (receivedEvent db provider event) } p.id
        (payloadSuccess event.payload) event.payload (payloadChargeId event.payload) now >>=
      fun db₁ => .ok { db₁ with
        webhookEvents := db₁.webhookEvents.update
          (withKey db.webhookEvents.next (processedEvent db provider event)) }) := by
  have horg : some p.organizationId =
      (withKey db.webhookEvents.next (receivedEvent db provider event)).organizationId := by
    change _ = (namedAttempt db event.payload).map PaymentAttempt.organizationId
    rw [hnamed]
    rfl
  have hnamed' : namedAttempt { db with
      webhookEvents := db.webhookEvents.insert (receivedEvent db provider event) }
      event.payload = some p := hnamed
  have hupdate : (db.webhookEvents.insert (receivedEvent db provider event)).update
        (withKey db.webhookEvents.next (receivedEvent db provider event)) =
      db.webhookEvents.insert (receivedEvent db provider event) :=
    Table.update_self Table.mem_insert_self
  unfold recordWebhook
  rw [createEvent_of_new h]
  simp only [hnamed', horg]
  exact congrArg (fun events => settle env { db with webhookEvents := events } p.id
      (payloadSuccess event.payload) event.payload (payloadChargeId event.payload) now >>=
    fun db₁ => .ok { db₁ with
      webhookEvents := db₁.webhookEvents.update
        (withKey db.webhookEvents.next (processedEvent db provider event)) }) hupdate

/-- A delivery that commits has no effect, or it records its event, and what it does apart from that
is a sequence of writes. -/
theorem recordWebhook_eq_ok {db' : Db} (h : recordWebhook env db provider event now = .ok db') :
    (isRecorded db provider event.providerEventId = true ∧ db' = db) ∨
      (isRecorded db provider event.providerEventId = false ∧ ∃ events db₁,
        Reaches SettlementWrite { db with webhookEvents := events } db₁ ∧ db' = { db₁ with
          webhookEvents := db.webhookEvents.insert (processedEvent db provider event) }) := by
  cases hrecorded : isRecorded db provider event.providerEventId with
  | true =>
    rw [recordWebhook_of_recorded hrecorded] at h
    exact Or.inl ⟨rfl, (Except.ok.inj h).symm⟩
  | false =>
    refine Or.inr ⟨rfl, ?_⟩
    cases hnamed : namedAttempt db event.payload with
    | none =>
      rw [recordWebhook_of_unnamed hrecorded hnamed] at h
      exact ⟨db.webhookEvents, db, .refl, (Except.ok.inj h).symm⟩
    | some p =>
      rw [recordWebhook_of_named hrecorded hnamed] at h
      obtain ⟨db₁, hsettle, hdb'⟩ := bind_eq_ok_iff.mp h
      have hwrites := settle_writes hsettle
      have hevents : db₁.webhookEvents =
          db.webhookEvents.insert (receivedEvent db provider event) :=
        hwrites.invariant (I := fun d => d.webhookEvents =
          db.webhookEvents.insert (receivedEvent db provider event)) rfl
          fun _ _ _ hI hwrite => hwrite.service.write.frame.1.trans hI
      have hupdate : (db.webhookEvents.insert (receivedEvent db provider event)).update
          (withKey db.webhookEvents.next (processedEvent db provider event)) =
          db.webhookEvents.insert (processedEvent db provider event) :=
        Table.insert_update
          (b := withKey db.webhookEvents.next (processedEvent db provider event)) rfl
      refine ⟨_, db₁, hwrites, ?_⟩
      rw [← hupdate, ← hevents]
      exact (Except.ok.inj hdb').symm

end

end PaymentService

open PaymentService

/-- A transaction of the lifecycle of the subscriptions that are there. -/
def Operation.isLifecycle : Operation → Bool
  | .savePlan .. | .saveCustomer .. | .create .. | .prepare .. => false
  | op => !op.bringsResult

/-- An operation of the lifecycle is made of writes of a lifecycle. -/
theorem Operation.lifecycleWrites {env : Env} {db db' : Db} {op : Operation}
    (h : op.apply env db = .ok db') (hop : op.isLifecycle = true) :
    Reaches LifecycleWrite db db' := by
  cases op with
  | activate subscriptionId now issuedAt =>
    exact (SubscriptionService.activate_generates h).writes
  | activateIfStillExpired subscriptionId checkedAt now issuedAt =>
    obtain rfl | hgen := SubscriptionService.activateIfStillExpired_generates h
    · exact .refl
    · exact hgen.writes
  | renew subscriptionId checkedAt now issuedAt =>
    exact (SubscriptionService.renew_generates h).writes
  | renewIfStillDue subscriptionId listedAt checkedAt now issuedAt =>
    obtain rfl | hgen := SubscriptionService.renewIfStillDue_generates h
    · exact .refl
    · exact hgen.writes
  | generate subscriptionId issuedAt =>
    obtain ⟨⟨db₁, i⟩, hrun, rfl⟩ := map_eq_ok_iff.mp h
    exact InvoiceService.generateForSubscription_writes hrun
  | cancel subscriptionId reason now =>
    exact Reaches.lifecycle (SubscriptionService.cancel_writes h)
  | dun invoiceId now => exact Reaches.lifecycle (dunInvoice_writes h)
  | reconcile now =>
    obtain rfl := Except.ok.inj h
    exact .single (.handOff _)
  | _ => cases hop

/-- A transaction that brings no result of the provider and prepares no charge leaves the attempts
alone. -/
theorem Operation.billingWrites {env : Env} {db db' : Db} {op : Operation}
    (h : op.apply env db = .ok db') (hop : op.bringsResult = false)
    (hprepare : ∀ invoiceId key issuedOnly providerKey now,
      op ≠ .prepare invoiceId key issuedOnly providerKey now) : Reaches BillingWrite db db' := by
  cases op with
  | savePlan plan => exact .single (.plan h)
  | saveCustomer customer => exact .single (.customer h)
  | create customerId planId now issuedAt =>
    obtain ⟨⟨db₁, s⟩, hrun, rfl⟩ := map_eq_ok_iff.mp h
    obtain ⟨s₀, db₂, s₁, -, -, hcreate, hrest⟩ := SubscriptionService.create_writes hrun
    exact .head (.subscription hcreate) (Reaches.billing hrest)
  | prepare invoiceId key issuedOnly providerKey now => exact absurd rfl (hprepare _ _ _ _ _)
  | gateway => cases hop
  | settle => cases hop
  | webhook => cases hop
  | _ => exact Reaches.billing (Operation.lifecycleWrites h rfl)

/-- A transaction other than a webhook and a call of the gateway is a sequence of writes. -/
theorem Operation.writes {env : Env} {db db' : Db} {op : Operation}
    (h : op.apply env db = .ok db') (hgateway : ∀ request seen success chargeId,
      op ≠ .gateway request seen success chargeId)
    (hwebhook : ∀ eventType payload provider eventId now,
      op ≠ .webhook eventType payload provider eventId now) : Reaches Write db db' := by
  cases op with
  | prepare invoiceId key issuedOnly providerKey now =>
    obtain ⟨⟨db₁, payment, shouldCharge⟩, hrun, rfl⟩ := map_eq_ok_iff.mp h
    exact (prepare_writes hrun).mono fun _ _ => ServiceWrite.write
  | gateway request seen success chargeId => exact absurd rfl (hgateway _ _ _ _)
  | settle paymentId success response chargeId now =>
    exact (settle_writes h).mono fun _ _ hwrite => hwrite.service.write
  | webhook eventType payload provider providerEventId now =>
    exact absurd rfl (hwebhook _ _ _ _ _)
  | _ =>
    exact (Operation.billingWrites h rfl (by simp)).mono fun _ _ => BillingWrite.write

/-- The transactions that save no plan and no customer, and create no subscription. -/
def Operation.isService : Operation → Bool
  | .savePlan .. | .saveCustomer .. | .create .. => false
  | _ => true

/-- A relation that does not look at the webhook events and the receipts, and that holds across
every write of a service, holds across these transactions. -/
theorem Operation.service_relation {env : Env} {R : Db → Db → Prop} {db db' : Db} {op : Operation}
    (htrans : ∀ a b c, R a b → R b c → R a c)
    (hframe : ∀ db events receipts, R db { db with webhookEvents := events, receipts := receipts })
    (hwrite : ∀ a b, ServiceWrite a b → R a b) (h : op.apply env db = .ok db')
    (hop : op.isService = true) : R db db' := by
  have hwrites : ∀ a b, Reaches ServiceWrite a b → R a b := fun a b hab =>
    hab.relation (fun a => hframe a a.webhookEvents a.receipts) htrans hwrite
  cases op with
  | prepare invoiceId key issuedOnly providerKey now =>
    obtain ⟨⟨db₁, payment, shouldCharge⟩, hrun, rfl⟩ := map_eq_ok_iff.mp h
    exact hwrites _ _ (prepare_writes hrun)
  | settle paymentId success response chargeId now =>
    exact hwrites _ _ ((settle_writes h).mono fun _ _ => SettlementWrite.service)
  | gateway request seen success chargeId =>
    obtain ⟨⟨db₁, result⟩, hrun, rfl⟩ := map_eq_ok_iff.mp h
    obtain ⟨fingerprint, r, -, hanswered, -⟩ := MockPaymentGateway.finishCharge_eq_ok hrun
    cases hanswered <;> exact hframe db db.webhookEvents _
  | webhook eventType payload provider providerEventId now =>
    simp only [Operation.apply, handleWebhook_eq, bind_eq_ok_iff] at h
    obtain ⟨event, -, h⟩ := h
    split_ifs at h
    · exact pure_eq_ok_iff.mp h ▸ hframe db db.webhookEvents db.receipts
    obtain ⟨-, rfl⟩ | ⟨-, events, db₁, hrun, rfl⟩ := recordWebhook_eq_ok h
    · exact hframe db' db'.webhookEvents db'.receipts
    · exact htrans _ _ _ (hframe db events db.receipts)
        (htrans _ _ _ (hwrites _ _ (hrun.mono fun _ _ => SettlementWrite.service))
          (hframe db₁ _ db₁.receipts))
  | savePlan => cases hop
  | saveCustomer => cases hop
  | create => cases hop
  | _ => exact hwrites _ _ (Reaches.service (Operation.lifecycleWrites h rfl))

section Preserves

variable {env : Env} {I : Db → Prop}

/-- A rule that does not look at the webhook events and the receipts, and that every write keeps, is
kept by every transaction. -/
theorem Operation.preserves {db db' : Db} {op : Operation}
    (hframe : ∀ db events receipts, I db →
      I { db with webhookEvents := events, receipts := receipts })
    (hwrite : ∀ a b, I a → Write a b → I b) (h : op.apply env db = .ok db') (hdb : I db) :
    I db' := by
  have hwrites : ∀ a b, Reaches Write a b → I a → I b := fun a b hab ha =>
    hab.invariant (I := I) ha fun c d _ hc hcd => hwrite c d hc hcd
  cases op with
  | gateway request seen success chargeId =>
    obtain ⟨⟨db₁, result⟩, hrun, rfl⟩ := map_eq_ok_iff.mp h
    obtain ⟨fingerprint, r, -, hanswered, -⟩ := MockPaymentGateway.finishCharge_eq_ok hrun
    cases hanswered with
    | drawn => exact hframe db db.webhookEvents _ hdb
    | _ => exact hdb
  | webhook eventType payload provider providerEventId now =>
    simp only [Operation.apply, handleWebhook_eq, bind_eq_ok_iff] at h
    obtain ⟨event, -, h⟩ := h
    split_ifs at h
    · exact pure_eq_ok_iff.mp h ▸ hdb
    obtain ⟨-, rfl⟩ | ⟨-, events, db₁, hrun, rfl⟩ := recordWebhook_eq_ok h
    · exact hdb
    · exact hframe db₁ _ db₁.receipts (hwrites _ _ (hrun.mono fun _ _ hwrite => hwrite.service.write)
        (hframe db events db.receipts hdb))
  | _ => exact hwrites _ _ (Operation.writes h (by simp) (by simp)) hdb

/-- What every write keeps, a run keeps. -/
theorem Reaches.preserves {db db' : Db}
    (hframe : ∀ db events receipts, I db →
      I { db with webhookEvents := events, receipts := receipts })
    (hwrite : ∀ a b, I a → Write a b → I b) (h : Reaches (Step env) db db') (hdb : I db) :
    I db' :=
  h.invariant (I := I) hdb fun _ _ _ ha hstep =>
    hstep.elim fun _ hop => Operation.preserves hframe hwrite hop ha

end Preserves

end Chargeflow
