import Chargeflow.Api.AccountViews
import Chargeflow.System.Tenancy

/-!
# The server

Requests to the view sets, the views of users, and the transactions of the worker, the scheduler and
the webhooks, in any order.  `Effect` lists what a handler may do to the store, and everything else
is read off it.  The billing part of the server is the billing system, except that a request may
delete a plan that no subscription has.
-/

namespace Chargeflow

open Foundation

/-! ## The phases of a charge are transactions -/

/-- A transaction that saves no plan and no customer, and creates no subscription. -/
def ServiceStep (env : Env) (db db' : Db) : Prop :=
  ∃ op : Operation, op.isService = true ∧ op.apply env db = .ok db'

/-- A step of a service is a step. -/
theorem ServiceStep.step {env : Env} {db db' : Db} (h : ServiceStep env db db') :
    Step env db db' := by
  obtain ⟨op, -, hop⟩ := h
  exact ⟨op, hop⟩

/-- A run of transactions of one kind is a list of them, none of which aborts. -/
theorem Reaches.exists_after {env : Env} {P : Operation → Prop} {db db' : Db}
    (h : Reaches (fun db db' => ∃ op : Operation, P op ∧ op.apply env db = .ok db') db db') :
    ∃ ops : List Operation, (∀ op ∈ ops, P op) ∧ db.after env ops = db' := by
  induction h using Relation.ReflTransGen.head_induction_on with
  | refl => exact ⟨[], by simp, rfl⟩
  | head hstep _ ih =>
    obtain ⟨op, hop, hrun⟩ := hstep
    obtain ⟨ops, hops, hafter⟩ := ih
    refine ⟨op :: ops, List.forall_mem_cons.mpr ⟨hop, hops⟩, ?_⟩
    unfold Db.after
    rw [hrun]
    exact hafter

namespace PaymentService

variable {env : Env} {db : Db}

/-- A phase that fails ends the charge, and the rest goes on from what the phase has left. -/
theorem afterPhase_reaches {α β : Type} {phase : Except Err α} {rest : α → Db × Except Err β}
    (h : ∀ a, phase = .ok a → Reaches (ServiceStep env) db (rest a).1) :
    Reaches (ServiceStep env) db (afterPhase db phase rest).1 := by
  unfold afterPhase
  cases phase with
  | error e => exact .refl
  | ok a => exact h a rfl

/-- The phases after an attempt is committed are steps of the services. -/
theorem chargePhases_reaches (paymentId : ℕ) (draw : ChargeDraw) :
    Reaches (ServiceStep env) db (chargePhases env db paymentId draw).1 := by
  refine afterPhase_reaches ?_
  rintro payment -
  split
  case isTrue => exact .refl
  refine afterPhase_reaches ?_
  rintro - -
  refine afterPhase_reaches ?_
  rintro ⟨db₁, result⟩ hcharge
  have hgateway : ServiceStep env db db₁ :=
    ⟨.gateway (chargeRequest payment) _ draw.success draw.chargeId, rfl,
      map_eq_ok_iff.mpr ⟨_, hcharge, rfl⟩⟩
  refine .trans (.single hgateway) (afterPhase_reaches ?_)
  intro db₂ hsettle
  exact .single ⟨.settle payment.id result.success result.providerResponse result.providerChargeId
    draw.settledAt, rfl, hsettle⟩

/-- The phases of one attempt to pay are steps of the services. -/
theorem phases_reaches (invoiceId : ℕ) (idempotencyKey : Option String) (issuedOnly : Bool)
    (draw : ChargeDraw) :
    Reaches (ServiceStep env) db (phases env db invoiceId idempotencyKey issuedOnly draw).1 := by
  refine afterPhase_reaches ?_
  rintro ⟨db₁, payment, shouldCharge⟩ hprepare
  have hstep : ServiceStep env db db₁ :=
    ⟨.prepare invoiceId idempotencyKey issuedOnly draw.providerKey draw.preparedAt, rfl,
      map_eq_ok_iff.mpr ⟨_, hprepare, rfl⟩⟩
  refine .trans (.single hstep) ?_
  cases payment with
  | none => exact .refl
  | some payment =>
    cases shouldCharge with
    | false => exact .refl
    | true => exact chargePhases_reaches payment.id draw

end PaymentService

/-- The tasks of the workers are steps of the services. -/
theorem runCharges_reaches {env : Env} (draws : ℕ → ChargeDraw) (db : Db) (tasks : List (ℕ × ℕ)) :
    Reaches (ServiceStep env) db (runCharges env draws db tasks) := by
  induction tasks generalizing db with
  | nil => exact .refl
  | cons task tasks ih =>
    exact .trans (PaymentService.phases_reaches task.1 none true (draws task.2)) (ih _)

/-! ## What a handler does -/

/-- The secret that a call draws for a new API key. -/
def Action.rawKey : Action → Option String
  | .createApiKey _ rawKey _ => some rawKey
  | _ => none

/-- What the handler of a call may do to the store, for the organization of the request. -/
inductive Effect (env : ServerEnv) (s : Store) (organizationId : ℕ) (call : Action) : Store → Prop
  | plan {p : Plan} {db : Db} (horg : p.organizationId = organizationId) (h : p.save s.db = .ok db)
      (description : String) {n : ℕ} (hn : n = p.id ∨ n = s.db.plans.next) :
      Effect env s organizationId call
        { s with db := db, descriptions := Function.update s.descriptions n description }
  | planDeleted {p : Plan} (hp : p ∈ s.db.plans) (horg : p.organizationId = organizationId)
      (hfree : ∀ q ∈ s.db.subscriptions, q.planId ≠ p.id) :
      Effect env s organizationId call
        { s with db := { s.db with plans := s.db.plans.delete p.id } }
  | customer {c : Customer} {db : Db} (horg : c.organizationId = organizationId)
      (h : c.save s.db = .ok db) (contact : Contact) {n : ℕ}
      (hn : n = c.id ∨ n = s.db.customers.next) :
      Effect env s organizationId call
        { s with db := db, contacts := Function.update s.contacts n contact }
  | billing {db : Db} (h : Reaches (Step env.billing) s.db db) :
      Effect env s organizationId call { s with db := db }
  | keyIssued {name rawKey : String} {expiresAt : Option DateTime} {scope : Scope} {now : DateTime}
      (hkey : call.rawKey = some rawKey) :
      Effect env s organizationId call { s with
        accounts := (ApiKey.createForOrganization env.accounts s.accounts organizationId name
          expiresAt scope rawKey now).1 }
  | keyRevoked {k : ApiKey} {pk : String} (hk : k ∈ s.accounts.apiKeys)
      (horg : k.organizationId = organizationId) (hcall : call = .destroyApiKey pk)
      (hpk : env.accounts.int pk = some (k.id : ℤ)) :
      Effect env s organizationId call { s with accounts := { s.accounts with
        apiKeys := s.accounts.apiKeys.update { k with revoked := true } } }
  | invited {email token : String} {role : Role} {now : DateTime} {accounts : Accounts}
      (h : Invitation.createForOrganization s.accounts organizationId email role token now =
        .ok accounts) :
      Effect env s organizationId call { s with accounts := accounts }

/-- The call reads, or writes with an unsafe method for an organization. -/
inductive Handled (env : ServerEnv) (s : Store) (o : Option ℕ) (call : Action) : Store → Prop
  | idle : Handled env s o call s
  | wrote {organizationId : ℕ} {s' : Store} (ho : o = some organizationId)
      (hmethod : call.method.safe = false) (h : Effect env s organizationId call s') :
      Handled env s o call s'

section handlers

variable {env : ServerEnv} {s s' : Store} {o : Option ℕ} {response : Response}

/-- A row of a query set is a row of the organization. -/
theorem mem_queryset_iff {α : Type} [Keyed α] {t : Table α} {organizationId : α → ℕ}
    {test : α → Bool} {a : α} :
    a ∈ queryset t organizationId test o ↔
      a ∈ t ∧ o = some (organizationId a) ∧ test a = true := by
  cases o with
  | none => simp [queryset]
  | some n =>
    simp only [queryset, Table.mem_filter, Bool.and_eq_true, beq_iff_eq, Option.some.injEq]
    constructor
    · rintro ⟨ha, horg, htest⟩
      exact ⟨ha, horg.symm, htest⟩
    · rintro ⟨ha, horg, htest⟩
      exact ⟨ha, horg.symm, htest⟩

/-- An object that is found is in the queryset, under its key. -/
theorem getObject_eq_ok {α : Type} [Keyed α] {model : String} {rows : List α} {pk : Option ℤ} {a : α}
    (h : getObject model rows pk = .ok a) : a ∈ rows ∧ pk = some (key a : ℤ) := by
  unfold getObject at h
  split at h
  case h_1 => cases h
  split at h
  case h_2 => cases h
  rename_i n _ b hfind
  obtain rfl := Except.ok.inj h
  exact ⟨List.mem_of_find?_eq_some hfind, by
    rw [← beq_iff_eq.mp (List.find?_some (p := fun a => (key a : ℤ) == n) hfind)]⟩

/-- A row that a request names is a row of the organization. -/
theorem getObject_queryset {α : Type} [Keyed α] {model : String} {t : Table α}
    {organizationId : α → ℕ} {test : α → Bool} {pk : Option ℤ} {a : α}
    (h : getObject model (queryset t organizationId test o) pk = .ok a) :
    a ∈ t ∧ o = some (organizationId a) ∧ pk = some (key a : ℤ) := by
  obtain ⟨hrow, hpk⟩ := getObject_eq_ok h
  obtain ⟨ha, horg, -⟩ := mem_queryset_iff.mp hrow
  exact ⟨ha, horg, hpk⟩

/-- A list changes nothing. -/
theorem listed_effect {items : List Item} {call : Action}
    (h : listed s items = .ok (s', response)) : Handled env s o call s' := by
  obtain ⟨rfl, -⟩ := Prod.mk.inj (Except.ok.inj h)
  exact .idle

/-- A retrieval changes nothing. -/
theorem retrieved_effect {α : Type} [Keyed α] {model : String} {rows : List α}
    {serializer : α → Item} {pk : Option ℤ} {call : Action}
    (h : retrieved s model rows serializer pk = .ok (s', response)) : Handled env s o call s' := by
  obtain ⟨a, -, h⟩ := bind_eq_ok_iff.mp h
  obtain ⟨rfl, -⟩ := Prod.mk.inj (pure_eq_ok_iff.mp h)
  exact .idle

/-! ### Plans and customers -/

/-- The effect of `PlanViewSet.create`. -/
theorem PlanViewSet.create_effect {data : Except ApiErr PlanInput} {call : Action}
    (hcall : call.method.safe = false)
    (h : PlanViewSet.create s o data = .ok (s', response)) : Handled env s o call s' := by
  obtain ⟨data, -, h⟩ := bind_eq_ok_iff.mp h
  cases o with
  | none => cases h
  | some organizationId =>
    obtain ⟨db, hdb, h⟩ := bind_eq_ok_iff.mp h
    obtain ⟨rfl, -⟩ := Prod.mk.inj (pure_eq_ok_iff.mp h)
    exact .wrote rfl hcall (.plan rfl (mapError_eq_ok_iff.mp hdb) _ (Or.inr rfl))

/-- The effect of `PlanViewSet.update`. -/
theorem PlanViewSet.update_effect {pk : Option ℤ} {data : Except ApiErr PlanInput} {call : Action}
    (hcall : call.method.safe = false)
    (h : PlanViewSet.update s o pk data = .ok (s', response)) : Handled env s o call s' := by
  obtain ⟨plan, hplan, h⟩ := bind_eq_ok_iff.mp h
  obtain ⟨data, -, h⟩ := bind_eq_ok_iff.mp h
  obtain ⟨db, hdb, h⟩ := bind_eq_ok_iff.mp h
  obtain ⟨rfl, -⟩ := Prod.mk.inj (pure_eq_ok_iff.mp h)
  obtain ⟨-, horg, -⟩ := getObject_queryset hplan
  exact .wrote horg hcall (.plan rfl (mapError_eq_ok_iff.mp hdb) _ (Or.inl rfl))

/-- The effect of `PlanViewSet.destroy`. -/
theorem PlanViewSet.destroy_effect {pk : Option ℤ} {call : Action}
    (hcall : call.method.safe = false)
    (h : PlanViewSet.destroy s o pk = .ok (s', response)) : Handled env s o call s' := by
  obtain ⟨plan, hplan, h⟩ := bind_eq_ok_iff.mp h
  obtain ⟨hmem, horg, -⟩ := getObject_queryset hplan
  split at h
  case isTrue => cases h
  rename_i hfree
  obtain ⟨rfl, -⟩ := Prod.mk.inj (pure_eq_ok_iff.mp h)
  refine .wrote horg hcall (.planDeleted hmem rfl ?_)
  intro q hq hqp
  exact hfree (Table.any_eq_true.mpr ⟨q, hq, beq_iff_eq.mpr hqp⟩)

/-- The effect of `CustomerViewSet.create`. -/
theorem CustomerViewSet.create_effect {data : Except ApiErr CustomerInput} {call : Action}
    (hcall : call.method.safe = false)
    (h : CustomerViewSet.create s o data = .ok (s', response)) : Handled env s o call s' := by
  obtain ⟨data, -, h⟩ := bind_eq_ok_iff.mp h
  cases o with
  | none => cases h
  | some organizationId =>
    obtain ⟨db, hdb, h⟩ := bind_eq_ok_iff.mp h
    obtain ⟨rfl, -⟩ := Prod.mk.inj (pure_eq_ok_iff.mp h)
    exact .wrote rfl hcall (.customer rfl (mapError_eq_ok_iff.mp hdb) _ (Or.inr rfl))

/-- The effect of `CustomerViewSet.update`. -/
theorem CustomerViewSet.update_effect {pk : Option ℤ} {data : Except ApiErr CustomerInput}
    {call : Action} (hcall : call.method.safe = false)
    (h : CustomerViewSet.update s o pk data = .ok (s', response)) : Handled env s o call s' := by
  obtain ⟨customer, hcustomer, h⟩ := bind_eq_ok_iff.mp h
  obtain ⟨data, -, h⟩ := bind_eq_ok_iff.mp h
  obtain ⟨db, hdb, h⟩ := bind_eq_ok_iff.mp h
  obtain ⟨rfl, -⟩ := Prod.mk.inj (pure_eq_ok_iff.mp h)
  obtain ⟨-, horg, -⟩ := getObject_queryset hcustomer
  exact .wrote horg hcall (.customer rfl (mapError_eq_ok_iff.mp hdb) _ (Or.inl rfl))

/-! ### Subscriptions and attempts -/

/-- The effect of `SubscriptionViewSet.create`. -/
theorem SubscriptionViewSet.create_effect {data : Except ApiErr (ℤ × ℤ)} {now issuedAt : DateTime}
    {call : Action} (hcall : call.method.safe = false)
    (h : SubscriptionViewSet.create s o data now issuedAt = .ok (s', response)) :
    Handled env s o call s' := by
  cases o with
  | none =>
    obtain ⟨rfl, -⟩ := Prod.mk.inj (Except.ok.inj h)
    exact .idle
  | some organizationId =>
    obtain ⟨⟨customerId, planId⟩, -, h⟩ := bind_eq_ok_iff.mp h
    obtain ⟨customer, -, h⟩ := bind_eq_ok_iff.mp h
    obtain ⟨plan, -, h⟩ := bind_eq_ok_iff.mp h
    obtain ⟨⟨db, subscription⟩, hdb, h⟩ := bind_eq_ok_iff.mp h
    obtain ⟨rfl, -⟩ := Prod.mk.inj (pure_eq_ok_iff.mp h)
    exact .wrote rfl hcall (.billing (.single ⟨.create customer.id plan.id now issuedAt,
      map_eq_ok_iff.mpr ⟨_, mapError_eq_ok_iff.mp hdb, rfl⟩⟩))

/-- An action on a subscription, whose service is a transaction. -/
theorem SubscriptionViewSet.apply_effect {pk : Option ℤ} {service : Db → ℕ → Except Err Db}
    {call : Action} (hcall : call.method.safe = false)
    (hservice : ∀ n db', service s.db n = .ok db' → Step env.billing s.db db')
    (h : SubscriptionViewSet.apply s o pk service = .ok (s', response)) :
    Handled env s o call s' := by
  obtain ⟨subscription, hsubscription, h⟩ := bind_eq_ok_iff.mp h
  obtain ⟨db, hdb, h⟩ := bind_eq_ok_iff.mp h
  obtain ⟨subscription', -, h⟩ := bind_eq_ok_iff.mp h
  obtain ⟨rfl, -⟩ := Prod.mk.inj (pure_eq_ok_iff.mp h)
  obtain ⟨-, horg, -⟩ := getObject_queryset hsubscription
  exact .wrote horg hcall (.billing (.single (hservice _ _ (mapError_eq_ok_iff.mp hdb))))

/-- The effect of `PaymentAttemptViewSet.create`. -/
theorem PaymentAttemptViewSet.create_effect {data : Except ApiErr ℤ}
    {idempotencyKey : Option String} {draw : ChargeDraw} {call : Action}
    (hcall : call.method.safe = false)
    (h : PaymentAttemptViewSet.create env.billing s o data idempotencyKey draw =
      .ok (s', response)) : Handled env s o call s' := by
  cases o with
  | none =>
    obtain ⟨rfl, -⟩ := Prod.mk.inj (Except.ok.inj h)
    exact .idle
  | some organizationId =>
    obtain ⟨invoiceId, -, h⟩ := bind_eq_ok_iff.mp h
    obtain ⟨invoice, -, h⟩ := bind_eq_ok_iff.mp h
    obtain ⟨rfl, -⟩ := Prod.mk.inj (pure_eq_ok_iff.mp h)
    exact .wrote rfl hcall (.billing ((PaymentService.phases_reaches _ _ _ _).mono
      fun _ _ => ServiceStep.step))

/-! ### Keys and invitations -/

/-- The effect of `ApiKeyViewSet.create`. -/
theorem ApiKeyViewSet.create_effect {data : Except ApiErr ApiKeyInput} {rawKey : String}
    {now : DateTime} {call : Action} (hcall : call.method.safe = false)
    (hkey : call.rawKey = some rawKey)
    (h : ApiKeyViewSet.create s o env.accounts data rawKey now = .ok (s', response)) :
    Handled env s o call s' := by
  cases o with
  | none =>
    obtain ⟨rfl, -⟩ := Prod.mk.inj (Except.ok.inj h)
    exact .idle
  | some organizationId =>
    obtain ⟨data, -, h⟩ := bind_eq_ok_iff.mp h
    obtain ⟨rfl, -⟩ := Prod.mk.inj (pure_eq_ok_iff.mp h)
    exact .wrote rfl hcall (.keyIssued hkey)

/-- The effect of `ApiKeyViewSet.destroy`. -/
theorem ApiKeyViewSet.destroy_effect {pk : String}
    (h : ApiKeyViewSet.destroy s o (env.accounts.int pk) = .ok (s', response)) :
    Handled env s o (.destroyApiKey pk) s' := by
  obtain ⟨k, hk, h⟩ := bind_eq_ok_iff.mp h
  obtain ⟨rfl, -⟩ := Prod.mk.inj (pure_eq_ok_iff.mp h)
  obtain ⟨hmem, horg, hpk⟩ := getObject_queryset hk
  exact .wrote horg rfl (.keyRevoked hmem rfl rfl hpk)

/-- The effect of `InvitationViewSet.create`. -/
theorem InvitationViewSet.create_effect {email role token : String} {now : DateTime} {call : Action}
    (hcall : call.method.safe = false)
    (h : InvitationViewSet.create env.accounts s o email role token now = .ok (s', response)) :
    Handled env s o call s' := by
  obtain ⟨⟨email, role⟩, -, h⟩ := bind_eq_ok_iff.mp h
  cases o with
  | none => cases h
  | some organizationId =>
    obtain ⟨_, -, h⟩ := bind_eq_ok_iff.mp h
    obtain ⟨accounts, haccounts, h⟩ := bind_eq_ok_iff.mp h
    split at h
    case h_1 => cases h
    obtain ⟨rfl, -⟩ := Prod.mk.inj (pure_eq_ok_iff.mp h)
    exact .wrote rfl hcall (.invited (mapError_eq_ok_iff.mp haccounts))

/-- Every handler reads, or has one of the effects. -/
theorem handle_effect {call : Action} (h : handle env s o call = .ok (s', response)) :
    Handled env s o call s' := by
  cases call with
  | listPlans | listCustomers | listSubscriptions | listInvoices | listAttempts | listApiKeys
  | listMembers | listInvitations => exact listed_effect h
  | retrievePlan pk | retrieveCustomer pk | retrieveSubscription pk | retrieveInvoice pk
  | retrieveAttempt pk => exact retrieved_effect h
  | createPlan data => exact PlanViewSet.create_effect rfl h
  | updatePlan pk data | partialUpdatePlan pk data => exact PlanViewSet.update_effect rfl h
  | destroyPlan pk => exact PlanViewSet.destroy_effect rfl h
  | createCustomer data => exact CustomerViewSet.create_effect rfl h
  | updateCustomer pk data | partialUpdateCustomer pk data =>
    exact CustomerViewSet.update_effect rfl h
  | createSubscription data now issuedAt => exact SubscriptionViewSet.create_effect rfl h
  | activateSubscription pk now issuedAt =>
    change SubscriptionViewSet.apply s o _
      (fun db n => SubscriptionService.activate db n now issuedAt) = _ at h
    exact SubscriptionViewSet.apply_effect rfl
      (fun n db' hrun => ⟨.activate n now issuedAt, hrun⟩) h
  | cancelSubscription pk now =>
    change SubscriptionViewSet.apply s o _
      (fun db n => SubscriptionService.cancel db n .voluntary now) = _ at h
    exact SubscriptionViewSet.apply_effect rfl
      (fun n db' hrun => ⟨.cancel n .voluntary now, hrun⟩) h
  | renewSubscription pk checkedAt now issuedAt =>
    change SubscriptionViewSet.apply s o _
      (fun db n => SubscriptionService.renew db n checkedAt now issuedAt) = _ at h
    exact SubscriptionViewSet.apply_effect rfl
      (fun n db' hrun => ⟨.renew n checkedAt now issuedAt, hrun⟩) h
  | createAttempt data idempotencyKey draw => exact PaymentAttemptViewSet.create_effect rfl h
  | createApiKey data rawKey now => exact ApiKeyViewSet.create_effect rfl rfl h
  | destroyApiKey pk => exact ApiKeyViewSet.destroy_effect h
  | createInvitation email role token now => exact InvitationViewSet.create_effect rfl h

/-- A request that is answered has passed its permissions, and its handler has run for the
organization of the request. -/
theorem dispatch_effect {authorization : String} {organizationHeader : Option String}
    {now : DateTime} {call : Action}
    (h : dispatch env s authorization organizationHeader now call = .ok (s', response)) :
    ∃ request o request', initial env.accounts s.accounts s.accounts s.accounts call.viewSet
        (.incoming call.method authorization organizationHeader) now = .ok request ∧
      getRequestOrganization env.accounts s.accounts request = .ok (o, request') ∧
      Handled env s o call s' := by
  obtain ⟨request, hrequest, h⟩ := bind_eq_ok_iff.mp h
  obtain ⟨⟨o, request'⟩, horganization, h⟩ := bind_eq_ok_iff.mp h
  exact ⟨request, o, request', mapError_eq_ok_iff.mp hrequest, mapError_eq_ok_iff.mp horganization,
    handle_effect h⟩

end handlers

/-! ## Runs of the server -/

/-- What may happen to the server.  A call of `charge_invoice`, a turn of a scheduled cycle and a
webhook are transactions of the billing system. -/
inductive ServerEvent where
  | request (authorization : String) (organizationHeader : Option String) (now : DateTime)
      (call : Action)
  | transaction (op : Operation)
  | register (data tokenKey : String)
  | login (data password tokenKey : String)
  | createOrganization (authorization : String) (organizationHeader : Option String)
      (name rawKey : String) (now : DateTime)
  | acceptInvitation (authorization : String) (organizationHeader : Option String) (token : String)
      (now : DateTime)

/-- The store that a handler leaves, or the one it found. -/
def Store.answering (s : Store) : Except Fault (Store × Response) → Store
  | .ok (s', _) => s'
  | .error _ => s

/-- The store with the database that a transaction leaves, or the one it found. -/
def Store.committing (s : Store) : Except Err Db → Store
  | .ok db => { s with db := db }
  | .error _ => s

/-- The store with the accounts that a view leaves, or the ones it found. -/
def Store.changing (s : Store) : Except ApiErr Accounts → Store
  | .ok accounts => { s with accounts := accounts }
  | .error _ => s

/-- The store after an event.  A request that is refused and a transaction that aborts leave it as
it was. -/
def ServerEvent.apply (env : ServerEnv) (s : Store) : ServerEvent → Store
  | .request authorization organizationHeader now call =>
    s.answering (dispatch env s authorization organizationHeader now call)
  | .transaction op => s.committing (op.apply env.billing s.db)
  | .register data tokenKey =>
    s.changing ((RegisterView.post env.accounts s.accounts data tokenKey).map Prod.fst)
  | .login data password tokenKey =>
    s.changing ((LoginView.post env s.accounts data password tokenKey).map Prod.fst)
  | .createOrganization authorization organizationHeader name rawKey now =>
    s.changing (OrganizationViewSet.create env.accounts s.accounts
      (.incoming .post authorization organizationHeader) name rawKey now)
  | .acceptInvitation authorization organizationHeader token now =>
    s.changing (AcceptInvitationView.post env.accounts s.accounts
      (.incoming .post authorization organizationHeader) token now)

/-- The store after any number of events. -/
def Store.after (env : ServerEnv) (s : Store) (events : List ServerEvent) : Store :=
  events.foldl (ServerEvent.apply env) s

/-- The store without rows. -/
def Store.empty : Store := ⟨Accounts.empty, Db.empty, fun _ => "", fun _ => ⟨"", ""⟩⟩

/-! ## The billing part of the server -/

/-- A transaction of the billing system, or the deletion of a plan that no subscription has. -/
inductive BillingStep (env : Env) (db : Db) : Db → Prop
  | transaction {db' : Db} (h : Step env db db') : BillingStep env db db'
  | planDeleted {n : ℕ} (hfree : ∀ q ∈ db.subscriptions, q.planId ≠ n) :
      BillingStep env db { db with plans := db.plans.delete n }

/-- Steps of the system are steps of the billing. -/
theorem Reaches.billingStep {env : Env} {db db' : Db} (h : Reaches (Step env) db db') :
    Reaches (BillingStep env) db db' :=
  h.mono fun _ _ hstep => .transaction hstep

section runs

variable {env : ServerEnv} {s s' : Store} {o : Option ℕ}

/-- The effect of a request is a run of the billing. -/
theorem Effect.billingStep {organizationId : ℕ} {call : Action}
    (h : Effect env s organizationId call s') :
    Reaches (BillingStep env.billing) s.db s'.db := by
  cases h with
  | plan _ hsave => exact .single (.transaction ⟨.savePlan _, hsave⟩)
  | planDeleted _ _ hfree => exact .single (.planDeleted hfree)
  | customer _ hsave => exact .single (.transaction ⟨.saveCustomer _, hsave⟩)
  | billing hreaches => exact Reaches.billingStep hreaches
  | keyIssued | keyRevoked | invited => exact .refl

/-- A handled request is a run of the billing. -/
theorem Handled.billingStep {call : Action} (h : Handled env s o call s') :
    Reaches (BillingStep env.billing) s.db s'.db := by
  cases h with
  | idle => exact .refl
  | wrote _ _ heffect => exact heffect.billingStep

/-- A request about accounts leaves the billing. -/
theorem Store.changing_db (s : Store) (result : Except ApiErr Accounts) :
    (s.changing result).db = s.db := by
  cases result <;> rfl

/-- Every event is a sequence of steps of the billing system. -/
theorem ServerEvent.billingStep (e : ServerEvent) :
    Reaches (BillingStep env.billing) s.db (e.apply env s).db := by
  cases e with
  | request authorization organizationHeader now call =>
    change Reaches (BillingStep env.billing) s.db (s.answering _).db
    cases h : dispatch env s authorization organizationHeader now call with
    | error e => exact .refl
    | ok result =>
      obtain ⟨request, o, request', -, -, hhandled⟩ := dispatch_effect h
      exact hhandled.billingStep
  | transaction op =>
    change Reaches (BillingStep env.billing) s.db (s.committing _).db
    cases h : op.apply env.billing s.db with
    | error e => exact .refl
    | ok db => exact .single (.transaction ⟨op, h⟩)
  | register | login | createOrganization | acceptInvitation =>
    rw [ServerEvent.apply, Store.changing_db]
    exact .refl

/-- A run of the server is a run of the billing. -/
theorem Store.after_billingStep (s : Store) (events : List ServerEvent) :
    Reaches (BillingStep env.billing) s.db (s.after env events).db := by
  induction events generalizing s with
  | nil => exact .refl
  | cons e events ih => exact .trans e.billingStep (ih _)

/-- Transactions touch nothing but the billing database. -/
theorem Store.after_transactions (s : Store) (ops : List Operation) :
    s.after env (ops.map .transaction) = { s with db := s.db.after env.billing ops } := by
  induction ops generalizing s with
  | nil => rfl
  | cons op ops ih =>
    refine (ih (s.committing (op.apply env.billing s.db))).trans ?_
    rw [Db.after]
    cases op.apply env.billing s.db <;> rfl

/-- A request with the charges that it triggers is a run of the server: the request, and then
transactions of the charge worker. -/
theorem serve_eq_after (authorization : String) (organizationHeader : Option String)
    (now : DateTime) (call : Action) (draws : ℕ → ChargeDraw) :
    ∃ ops : List Operation, (∀ op ∈ ops, op.isService = true) ∧
      (serve env s authorization organizationHeader now call draws).1 =
        s.after env (.request authorization organizationHeader now call :: ops.map .transaction) := by
  unfold serve
  cases h : dispatch env s authorization organizationHeader now call with
  | error e =>
    refine ⟨[], by simp, ?_⟩
    change s = s.answering (dispatch env s authorization organizationHeader now call)
    rw [h]
    rfl
  | ok result =>
    obtain ⟨s₁, response⟩ := result
    obtain ⟨ops, hops, hafter⟩ := Reaches.exists_after
      (@runCharges_reaches env.billing draws s₁.db (triggered s.db s₁.db))
    refine ⟨ops, hops, ?_⟩
    change _ = (s.answering (dispatch env s authorization organizationHeader now call)).after env _
    rw [h]
    refine Eq.trans ?_ (Store.after_transactions s₁ ops).symm
    rw [hafter]

end runs

/-! ## What holds in every run -/

/-- A step of the billing keeps the tenants apart. -/
theorem BillingStep.tenancy {env : Env} {db db' : Db} (h : BillingStep env db db')
    (hdb : Tenancy db) : Tenancy db' := by
  cases h with
  | transaction h => exact Reaches.tenancy (.single h) hdb
  | planDeleted hfree =>
    refine ⟨hdb.customer, ?_, hdb.subscription, hdb.line, hdb.attempt⟩
    intro s hs
    obtain ⟨p, hp, hkey, horg⟩ := hdb.plan s hs
    exact ⟨p, Table.mem_delete.mpr ⟨hp, fun hn => hfree s hs (hkey.symm.trans hn)⟩, hkey, horg⟩

/-- A step of the billing is a step of the books or leaves them. -/
theorem BillingStep.books {env : Env} {db db' : Db} (h : BillingStep env db db') :
    db'.books = db.books ∨ ∃ readings, BooksStep env readings db.books db'.books := by
  cases h with
  | transaction h => exact Or.inr h.books
  | planDeleted => exact Or.inl rfl

/-- A step of the billing keeps the books sound. -/
theorem BillingStep.sound {env : Env} {db db' : Db} (h : BillingStep env db db')
    (hdb : Sound db.books) : Sound db'.books := by
  rcases h.books with heq | ⟨_, hbooks⟩
  · rwa [heq]
  · exact hbooks.sound hdb

/-- A run of the server keeps the tenants apart. -/
theorem Store.after_tenancy {env : ServerEnv} {s : Store} (events : List ServerEvent)
    (hs : Tenancy s.db) : Tenancy (s.after env events).db :=
  (Store.after_billingStep s events).invariant hs fun _ _ _ hdb hstep => hstep.tenancy hdb

/-- A run of the server keeps the books sound. -/
theorem Store.after_sound {env : ServerEnv} {s : Store} (events : List ServerEvent)
    (hs : Sound s.db.books) : Sound (s.after env events).db.books :=
  (Store.after_billingStep s events).invariant (I := fun db => Sound db.books) hs
    fun _ _ _ hdb hstep => hstep.sound hdb

end Chargeflow
