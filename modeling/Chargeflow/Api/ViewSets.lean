import Chargeflow.Api.Accounts
import Chargeflow.Application.PaymentService

/-!
# The view sets of an organization

The view sets of plans, customers, subscriptions, invoices, payment attempts, API keys, members and
invitations: their query sets, serializers and handlers, and what becomes of an exception.  What the
validation of a serializer makes of the body of a request does not depend on the database, so a
handler takes its result.  A handler that raises has written nothing, except that the phases of a
charge are committed one by one.  The stamps `created_at` and `updated_at` of the billing rows are
left out.
-/

namespace Chargeflow

open Foundation

/-! ## Stored data -/

/-- The columns of a customer that no service reads. -/
structure Contact where
  email : String
  name : String
  deriving DecidableEq

/-- Everything that the view sets read. -/
structure Store where
  accounts : Accounts
  db : Db
  /-- The descriptions of the plans, by primary key. -/
  descriptions : ℕ → String
  /-- The contacts of the customers, by primary key. -/
  contacts : ℕ → Contact

/-- What the server takes from outside. -/
structure ServerEnv where
  accounts : AccountsEnv
  billing : Env
  /-- Whether a text is the password of a user. -/
  checkPassword : ℕ → String → Bool

/-! ## Responses -/

/-- The data of `PlanSerializer`. -/
structure PlanData where
  id : ℕ
  name : String
  description : String
  price : ℤ
  currency : String
  status : PlanStatus
  interval : PlanInterval
  trialPeriodDays : ℤ
  deriving DecidableEq

/-- The data of `CustomerSerializer`. -/
structure CustomerData where
  id : ℕ
  contact : Contact
  providerCustomerId : String
  providerPaymentMethodId : String
  deriving DecidableEq

/-- The data of `SubscriptionSerializer`. -/
structure SubscriptionData where
  id : ℕ
  customer : ℕ
  plan : ℕ
  status : SubscriptionStatus
  currentPeriodStart : DateTime
  currentPeriodEnd : DateTime
  canceledAt : Option DateTime
  canceledReason : Option CancellationReason
  deriving DecidableEq

/-- The data of `InvoiceLineSerializer`. -/
structure InvoiceLineData where
  id : ℕ
  description : String
  amount : ℤ
  deriving DecidableEq

/-- The data of `InvoiceSerializer`. -/
structure InvoiceData where
  id : ℕ
  subscription : ℕ
  status : InvoiceStatus
  total : ℤ
  currency : String
  periodStart : DateTime
  periodEnd : DateTime
  issuedAt : Option DateTime
  paidAt : Option DateTime
  lines : List InvoiceLineData
  deriving DecidableEq

/-- The data of `PaymentAttemptSerializer`. -/
structure PaymentAttemptData where
  id : ℕ
  invoice : ℕ
  status : PaymentStatus
  amount : ℤ
  currency : String
  provider : String
  providerChargeId : String
  attemptedAt : DateTime
  needsReconciliation : Bool
  deriving DecidableEq

/-- The data of `ApiKeySerializer`. -/
structure ApiKeyData where
  id : ℕ
  name : String
  keyPrefix : String
  createdAt : DateTime
  expiresAt : Option DateTime
  revoked : Bool
  scope : Scope
  deriving DecidableEq

/-- The data of `OrganizationMembershipSerializer`. -/
structure MemberData where
  id : ℕ
  userEmail : Option String
  role : Role
  joinedAt : DateTime
  deriving DecidableEq

/-- The data of `InvitationSerializer`. -/
structure InvitationData where
  id : ℕ
  email : String
  role : Role
  expiresAt : DateTime
  acceptedAt : Option DateTime
  createdAt : DateTime
  deriving DecidableEq

/-- What a serializer makes of a row. -/
inductive Item where
  | plan (data : PlanData)
  | customer (data : CustomerData)
  | subscription (data : SubscriptionData)
  | invoice (data : InvoiceData)
  | attempt (data : PaymentAttemptData)
  | apiKey (data : ApiKeyData)
  | member (data : MemberData)
  | invitation (data : InvitationData)
  deriving DecidableEq

/-- The body of a response. -/
inductive Body where
  | item (item : Item)
  | list (items : List Item)
  /-- A new row, and the text that is shown this once. -/
  | created (item : Item) (secret : String)
  | detail (message : String)
  | errors (field message : String)
  | empty
  | serverError
  deriving DecidableEq

/-- A response, as its status and its body. -/
structure Response where
  status : ℕ
  body : Body
  deriving DecidableEq

/-! ## Serializers -/

/-- `PlanSerializer`. -/
def planSerializer (s : Store) (p : Plan) : Item :=
  .plan ⟨p.id, p.name, s.descriptions p.id, p.price, p.currency, p.status, p.interval,
    p.trialPeriodDays⟩

/-- `CustomerSerializer`. -/
def customerSerializer (s : Store) (c : Customer) : Item :=
  .customer ⟨c.id, s.contacts c.id, c.providerCustomerId, c.providerPaymentMethodId⟩

/-- `SubscriptionSerializer`. -/
def subscriptionSerializer (s : Subscription) : Item :=
  .subscription ⟨s.id, s.customerId, s.planId, s.status, s.currentPeriodStart, s.currentPeriodEnd,
    s.canceledAt, s.canceledReason⟩

/-- `InvoiceLineSerializer`. -/
def invoiceLineSerializer (l : InvoiceLine) : InvoiceLineData := ⟨l.id, l.description, l.amount⟩

/-- `InvoiceSerializer`, with the lines of the invoice. -/
def invoiceSerializer (db : Db) (i : Invoice) : Item :=
  .invoice ⟨i.id, i.subscriptionId, i.status, i.total, i.currency, i.periodStart, i.periodEnd,
    i.issuedAt, i.paidAt,
    (db.invoiceLines.filter fun l => l.invoiceId == i.id).map invoiceLineSerializer⟩

/-- `PaymentAttemptSerializer`. -/
def paymentAttemptSerializer (p : PaymentAttempt) : Item :=
  .attempt ⟨p.id, p.invoiceId, p.status, p.amount, p.currency, p.provider, p.providerChargeId,
    p.attemptedAt, p.needsReconciliation⟩

/-- `ApiKeySerializer`, which shows no secret. -/
def apiKeySerializer (k : ApiKey) : Item :=
  .apiKey ⟨k.id, k.name, k.keyPrefix, k.createdAt, k.expiresAt, k.revoked, k.scope⟩

/-- `OrganizationMembershipSerializer`, with the address of the member. -/
def organizationMembershipSerializer (db : Accounts) (m : OrganizationMembership) : Item :=
  .member ⟨m.id, (db.users.get? m.userId).map User.email, m.role, m.joinedAt⟩

/-- `InvitationSerializer`. -/
def invitationSerializer (i : Invitation) : Item :=
  .invitation ⟨i.id, i.email, i.role, i.expiresAt, i.acceptedAt, i.createdAt⟩

/-! ## Exceptions -/

/-- What a handler raises. -/
inductive Fault where
  | api (e : ApiErr)
  /-- `Http404` of `get_object_or_404`. -/
  | noMatch (model : String)
  /-- An exception of a service that the handler does not catch. -/
  | service (e : Err)
  deriving DecidableEq

/-- The exception handler: what is not an exception of the framework is a fault of the server. -/
def respond : Fault → Response
  | .api .notAuthenticated => ⟨401, .detail "Authentication credentials were not provided."⟩
  | .api (.authenticationFailed message) => ⟨401, .detail message⟩
  | .api (.permissionDenied message) => ⟨403, .detail message⟩
  | .api (.validationError field message) => ⟨400, .errors field message⟩
  | .api .notFound => ⟨404, .detail "Not found."⟩
  | .noMatch model => ⟨404, .detail ("No " ++ model ++ " matches the given query.")⟩
  | _ => ⟨500, .serverError⟩

/-- `except ValueError` around `SubscriptionService.create`. -/
def notCreated : Err → Fault
  | .valueError message => .api (.validationError "detail" message)
  | e => .service e

/-- `except (ValueError, InvalidStatusTransition)` of `_apply`. -/
def notApplied : Err → Fault
  | .valueError message => .api (.validationError "detail" message)
  | .invalidStatusTransition message => .api (.validationError "detail" message)
  | e => .service e

/-- The `except` clauses around `PaymentService.attempt`. -/
def notAttempted : Err → Response
  | .idempotencyConflict message => ⟨409, .detail message⟩
  | .invoiceNotPayable message => ⟨400, .detail message⟩
  | e => respond (.service e)

/-- The response to a user who is in no organization. -/
def noOrganization : Response := ⟨400, .detail "No organization in scope."⟩

/-! ## Query sets -/

/-- `get_queryset`: the rows of the organization that pass a test, or none. -/
def queryset {α : Type} [Keyed α] (t : Table α) (organizationId : α → ℕ) (test : α → Bool) :
    Option ℕ → List α
  | none => []
  | some organization => t.filter fun a => organizationId a == organization && test a

/-- `get_object_or_404`: the key is an integer, and names a row of the query set. -/
def getObject {α : Type} [Keyed α] (model : String) (rows : List α) : Option ℤ → Except Fault α
  | none => .error (.api .notFound)
  | some n =>
    match rows.find? fun a => (key a : ℤ) == n with
    | some a => .ok a
    | none => .error (.noMatch model)

/-- `PlanViewSet.get_queryset`. -/
def Store.plans (s : Store) (organization : Option ℕ) : List Plan :=
  queryset s.db.plans Plan.organizationId (fun _ => true) organization

/-- `CustomerViewSet.get_queryset`. -/
def Store.customers (s : Store) (organization : Option ℕ) : List Customer :=
  queryset s.db.customers Customer.organizationId (fun _ => true) organization

/-- `SubscriptionViewSet.get_queryset`. -/
def Store.subscriptions (s : Store) (organization : Option ℕ) : List Subscription :=
  queryset s.db.subscriptions Subscription.organizationId (fun _ => true) organization

/-- `InvoiceViewSet.get_queryset`. -/
def Store.invoices (s : Store) (organization : Option ℕ) : List Invoice :=
  queryset s.db.invoices Invoice.organizationId (fun _ => true) organization

/-- `PaymentAttemptViewSet.get_queryset`. -/
def Store.attempts (s : Store) (organization : Option ℕ) : List PaymentAttempt :=
  queryset s.db.attempts PaymentAttempt.organizationId (fun _ => true) organization

/-- `ApiKeyViewSet.get_queryset`: the keys that are not revoked. -/
def Store.apiKeys (s : Store) (organization : Option ℕ) : List ApiKey :=
  queryset s.accounts.apiKeys ApiKey.organizationId (fun k => !k.revoked) organization

/-- `MemberViewSet.get_queryset`. -/
def Store.members (s : Store) (organization : Option ℕ) : List OrganizationMembership :=
  queryset s.accounts.memberships OrganizationMembership.organizationId (fun _ => true) organization

/-- The newest invitation first. -/
def Store.invitations (s : Store) (organization : Option ℕ) : List Invitation :=
  (queryset s.accounts.invitations Invitation.organizationId (fun i => i.acceptedAt.isNone)
    organization).mergeSort fun i j => decide (j.createdAt ≤ i.createdAt)

/-! ## Charges -/

/-- What a charge draws and reads from the clock. -/
structure ChargeDraw where
  providerKey : String
  preparedAt : DateTime
  success : Bool
  chargeId : String
  settledAt : DateTime

namespace PaymentService

/-- A phase that fails leaves what the phases before it have committed. -/
def afterPhase {α β : Type} (db : Db) (phase : Except Err α) (rest : α → Db × Except Err β) :
    Db × Except Err β :=
  match phase with
  | .error e => (db, .error e)
  | .ok a => rest a

/-- `_charge`, phase by phase: what the gateway has recorded stays, whatever comes after. -/
def chargePhases (env : Env) (db : Db) (paymentId : ℕ) (draw : ChargeDraw) :
    Db × Except Err (Option PaymentAttempt) :=
  afterPhase db (fetch db.attempts "PaymentAttempt" paymentId) fun payment =>
  if !chargeable payment then (db, .ok (some payment)) else
  afterPhase db (getPaymentGateway payment.provider) fun _ =>
  afterPhase db (MockPaymentGateway.charge env db (chargeRequest payment) draw.success
    draw.chargeId) fun (db, result) =>
  afterPhase db (settle env db payment.id result.success result.providerResponse
    result.providerChargeId draw.settledAt) fun db =>
  (db, (fetch db.attempts "PaymentAttempt" paymentId).map some)

/-- `attempt` and `charge_issued`, phase by phase. -/
def phases (env : Env) (db : Db) (invoiceId : ℕ) (idempotencyKey : Option String)
    (issuedOnly : Bool) (draw : ChargeDraw) : Db × Except Err (Option PaymentAttempt) :=
  afterPhase db (prepare db invoiceId idempotencyKey issuedOnly draw.providerKey draw.preparedAt)
    fun (db, payment, shouldCharge) =>
  match payment, shouldCharge with
  | some payment, true => chargePhases env db payment.id draw
  | payment, _ => (db, .ok payment)

/-- A charge that ends well ends as in one piece. -/
theorem chargePhases_of_charge {env : Env} {db db' : Db} {paymentId : ℕ} {draw : ChargeDraw}
    {payment : PaymentAttempt}
    (h : charge env db paymentId draw.success draw.chargeId draw.settledAt = .ok (db', payment)) :
    chargePhases env db paymentId draw = (db', .ok (some payment)) := by
  obtain ⟨p, hp, h⟩ := bind_eq_ok_iff.mp h
  unfold chargePhases
  rw [hp]
  dsimp only [afterPhase]
  split at h
  case isTrue hcharge =>
    obtain ⟨rfl, rfl⟩ := Prod.mk.inj (pure_eq_ok_iff.mp h)
    rw [if_pos hcharge]
  case isFalse hcharge =>
    rw [if_neg hcharge]
    obtain ⟨_, hgateway, h⟩ := bind_eq_ok_iff.mp h
    obtain ⟨⟨db₁, result⟩, hresult, h⟩ := bind_eq_ok_iff.mp h
    obtain ⟨db₂, hsettle, h⟩ := bind_eq_ok_iff.mp h
    obtain ⟨p', hp', h⟩ := bind_eq_ok_iff.mp h
    obtain ⟨rfl, rfl⟩ := Prod.mk.inj (pure_eq_ok_iff.mp h)
    rw [hgateway, hresult]
    dsimp only at hsettle ⊢
    rw [hsettle]
    dsimp only
    rw [hp']
    rfl

/-- An attempt that ends well ends as in one piece. -/
theorem phases_of_attempt {env : Env} {db db' : Db} {invoiceId : ℕ}
    {idempotencyKey : Option String} {draw : ChargeDraw} {payment : Option PaymentAttempt}
    (h : attempt env db invoiceId idempotencyKey false draw.providerKey draw.preparedAt
      draw.success draw.chargeId draw.settledAt = .ok (db', payment)) :
    phases env db invoiceId idempotencyKey false draw = (db', .ok payment) := by
  obtain ⟨_, -, h⟩ := bind_eq_ok_iff.mp h
  obtain ⟨⟨db₁, p, shouldCharge⟩, hprepare, h⟩ := bind_eq_ok_iff.mp h
  unfold phases
  rw [hprepare]
  dsimp only [afterPhase] at h ⊢
  cases p with
  | none =>
    obtain ⟨rfl, rfl⟩ := Prod.mk.inj (pure_eq_ok_iff.mp h)
    rfl
  | some p =>
    cases shouldCharge with
    | false =>
      obtain ⟨rfl, rfl⟩ := Prod.mk.inj (pure_eq_ok_iff.mp h)
      rfl
    | true =>
      obtain ⟨⟨db₂, p'⟩, hcharge, h⟩ := bind_eq_ok_iff.mp h
      obtain ⟨rfl, rfl⟩ := Prod.mk.inj (pure_eq_ok_iff.mp h)
      exact chargePhases_of_charge hcharge

end PaymentService

/-- The worker takes the charges that were handed off, one after the other. -/
def runCharges (env : Env) (draws : ℕ → ChargeDraw) (db : Db) (tasks : List (ℕ × ℕ)) : Db :=
  tasks.foldl (fun db task =>
    (PaymentService.phases env db task.1 none true (draws task.2)).1) db

/-- The charges that a request handed off, numbered. -/
def triggered (before after : Db) : List (ℕ × ℕ) :=
  (after.chargeTasks.drop before.chargeTasks.length).zipIdx

/-! ## Plans -/

/-- The validated data of `PlanSerializer`. -/
structure PlanInput where
  name : Option String
  description : Option String
  price : Option ℤ
  currency : Option String
  status : Option PlanStatus
  interval : Option PlanInterval
  trialPeriodDays : Option ℤ

/-- A plan with the defaults of its columns. -/
def newPlan (organizationId : ℕ) : Plan where
  id := 0
  organizationId := organizationId
  name := ""
  price := 0
  currency := "USD"
  status := .active
  interval := .month
  trialPeriodDays := 0

/-- `ModelSerializer.update`. -/
def PlanInput.apply (data : PlanInput) (p : Plan) : Plan :=
  { p with
    name := data.name.getD p.name
    price := data.price.getD p.price
    currency := data.currency.getD p.currency
    status := data.status.getD p.status
    interval := data.interval.getD p.interval
    trialPeriodDays := data.trialPeriodDays.getD p.trialPeriodDays }

namespace PlanViewSet

variable (s : Store) (organization : Option ℕ)

/-- `create`, with `perform_create`. -/
def create (data : Except ApiErr PlanInput) : Except Fault (Store × Response) := do
  let data ← data.mapError .api
  match organization with
  | none => .error (.api (.validationError "" "No organization in scope."))
  | some organizationId =>
    let plan := data.apply (newPlan organizationId)
    let db ← (plan.save s.db).mapError .service
    let plan := withKey s.db.plans.next plan
    let s := { s with
      db := db
      descriptions := Function.update s.descriptions plan.id (data.description.getD "") }
    return (s, ⟨201, .item (planSerializer s plan)⟩)

/-- `update` and `partial_update`. -/
def update (pk : Option ℤ) (data : Except ApiErr PlanInput) : Except Fault (Store × Response) := do
  let plan ← getObject "Plan" (s.plans organization) pk
  let data ← data.mapError .api
  let plan := data.apply plan
  let db ← (plan.save s.db).mapError .service
  let s := { s with
    db := db
    descriptions := Function.update s.descriptions plan.id
      (data.description.getD (s.descriptions plan.id)) }
  return (s, ⟨200, .item (planSerializer s plan)⟩)

/-- `destroy`, with `perform_destroy`: subscriptions protect their plan. -/
def destroy (pk : Option ℤ) : Except Fault (Store × Response) := do
  let plan ← getObject "Plan" (s.plans organization) pk
  if s.db.subscriptions.any fun q => q.planId == plan.id then
    .error (.api (.validationError "detail"
      "Cannot delete a plan that has subscriptions; archive it instead."))
  else
    return ({ s with db := { s.db with plans := s.db.plans.delete plan.id } }, ⟨204, .empty⟩)

end PlanViewSet

/-! ## Customers -/

/-- The validated data of `CustomerSerializer`. -/
structure CustomerInput where
  email : Option String
  name : Option String
  providerCustomerId : Option String
  providerPaymentMethodId : Option String

/-- A customer with the defaults of its columns. -/
def newCustomer (organizationId : ℕ) : Customer where
  id := 0
  organizationId := organizationId
  providerCustomerId := ""
  providerPaymentMethodId := ""

/-- `ModelSerializer.update`. -/
def CustomerInput.apply (data : CustomerInput) (c : Customer) : Customer :=
  { c with
    providerCustomerId := data.providerCustomerId.getD c.providerCustomerId
    providerPaymentMethodId := data.providerPaymentMethodId.getD c.providerPaymentMethodId }

/-- The contact after an update; a field that is left out keeps its value. -/
def CustomerInput.contact (data : CustomerInput) (stored : Contact) : Contact :=
  ⟨data.email.getD stored.email, data.name.getD stored.name⟩

namespace CustomerViewSet

variable (s : Store) (organization : Option ℕ)

/-- `create`, with `perform_create`. -/
def create (data : Except ApiErr CustomerInput) : Except Fault (Store × Response) := do
  let data ← data.mapError .api
  match organization with
  | none => .error (.api (.validationError "" "No organization in scope."))
  | some organizationId =>
    let customer := data.apply (newCustomer organizationId)
    let db ← (customer.save s.db).mapError .service
    let customer := withKey s.db.customers.next customer
    let s := { s with
      db := db
      contacts := Function.update s.contacts customer.id (data.contact ⟨"", ""⟩) }
    return (s, ⟨201, .item (customerSerializer s customer)⟩)

/-- `update` and `partial_update`. -/
def update (pk : Option ℤ) (data : Except ApiErr CustomerInput) :
    Except Fault (Store × Response) := do
  let customer ← getObject "Customer" (s.customers organization) pk
  let data ← data.mapError .api
  let customer := data.apply customer
  let db ← (customer.save s.db).mapError .service
  let s := { s with
    db := db
    contacts := Function.update s.contacts customer.id (data.contact (s.contacts customer.id)) }
  return (s, ⟨200, .item (customerSerializer s customer)⟩)

end CustomerViewSet

/-! ## Subscriptions -/

namespace SubscriptionViewSet

variable (s : Store) (organization : Option ℕ)

/-- `create`, with the keys of a customer and of a plan. -/
def create (data : Except ApiErr (ℤ × ℤ)) (now issuedAt : DateTime) :
    Except Fault (Store × Response) :=
  match organization with
  | none => .ok (s, noOrganization)
  | some _ => do
    let (customerId, planId) ← data.mapError .api
    let customer ← getObject "Customer" (s.customers organization) (some customerId)
    let plan ← getObject "Plan" (s.plans organization) (some planId)
    let (db, subscription) ←
      (SubscriptionService.create s.db customer.id plan.id now issuedAt).mapError notCreated
    return ({ s with db := db }, ⟨201, .item (subscriptionSerializer subscription)⟩)

/-- An action on a subscription: the service, `_apply` around it, and the row read again. -/
def apply (pk : Option ℤ) (service : Db → ℕ → Except Err Db) :
    Except Fault (Store × Response) := do
  let subscription ← getObject "Subscription" (s.subscriptions organization) pk
  let db ← (service s.db subscription.id).mapError notApplied
  let subscription ← (fetch db.subscriptions "Subscription" subscription.id).mapError .service
  return ({ s with db := db }, ⟨200, .item (subscriptionSerializer subscription)⟩)

/-- `SubscriptionViewSet.activate`. -/
def activate (pk : Option ℤ) (now issuedAt : DateTime) : Except Fault (Store × Response) :=
  apply s organization pk fun db n => SubscriptionService.activate db n now issuedAt

/-- `SubscriptionViewSet.cancel`. -/
def cancel (pk : Option ℤ) (now : DateTime) : Except Fault (Store × Response) :=
  apply s organization pk fun db n => SubscriptionService.cancel db n .voluntary now

/-- `SubscriptionViewSet.renew`. -/
def renew (pk : Option ℤ) (checkedAt now issuedAt : DateTime) : Except Fault (Store × Response) :=
  apply s organization pk fun db n => SubscriptionService.renew db n checkedAt now issuedAt

end SubscriptionViewSet

/-! ## Payment attempts -/

/-- The response of `PaymentAttemptViewSet.create`, once the service has run. -/
def attemptResponse : Except Err (Option PaymentAttempt) → Response
  | .error e => notAttempted e
  | .ok none => ⟨201, .empty⟩
  | .ok (some payment) => ⟨201, .item (paymentAttemptSerializer payment)⟩

/-- `PaymentAttemptViewSet.create`, with the key of an invoice. -/
def PaymentAttemptViewSet.create (env : Env) (s : Store) (organization : Option ℕ)
    (data : Except ApiErr ℤ) (idempotencyKey : Option String) (draw : ChargeDraw) :
    Except Fault (Store × Response) :=
  match organization with
  | none => .ok (s, noOrganization)
  | some _ => do
    let invoiceId ← data.mapError .api
    let invoice ← getObject "Invoice" (s.invoices organization) (some invoiceId)
    let (db, result) := PaymentService.phases env s.db invoice.id idempotencyKey false draw
    return ({ s with db := db }, attemptResponse result)

/-! ## API keys -/

/-- The validated data of `ApiKeyCreateSerializer`. -/
structure ApiKeyInput where
  scope : Scope
  name : String
  expiresAt : Option DateTime

namespace ApiKeyViewSet

variable (s : Store) (organization : Option ℕ)

/-- `ApiKeyViewSet.create`: the secret is shown in the response, and only there. -/
def create (env : AccountsEnv) (data : Except ApiErr ApiKeyInput) (rawKey : String)
    (now : DateTime) : Except Fault (Store × Response) :=
  match organization with
  | none => .ok (s, noOrganization)
  | some organizationId => do
    let data ← data.mapError .api
    let (accounts, apiKey) := ApiKey.createForOrganization env s.accounts organizationId data.name
      data.expiresAt data.scope rawKey now
    return ({ s with accounts := accounts }, ⟨201, .created (apiKeySerializer apiKey) rawKey⟩)

/-- `destroy`: the key is revoked, and stays. -/
def destroy (pk : Option ℤ) : Except Fault (Store × Response) := do
  let apiKey ← getObject "ApiKey" (s.apiKeys organization) pk
  return ({ s with accounts := { s.accounts with
    apiKeys := s.accounts.apiKeys.update { apiKey with revoked := true } } }, ⟨204, .empty⟩)

end ApiKeyViewSet

/-! ## Invitations -/

/-- `InvitationViewSet.create`. -/
def InvitationViewSet.create (env : AccountsEnv) (s : Store) (organization : Option ℕ)
    (email role token : String) (now : DateTime) : Except Fault (Store × Response) := do
  let (email, role) ← (invitationData env email role).mapError .api
  match organization with
  | none => .error (.api (.integrityError "organization_id"))
  | some organizationId => do
    (checkNotMember env s.accounts organizationId email).mapError .api
    let accounts ← (Invitation.createForOrganization s.accounts organizationId email role token
      now).mapError .api
    match accounts.invitations.get? s.accounts.invitations.next with
    | none => .error (.api (.doesNotExist "Invitation"))
    | some invitation => return ({ s with accounts := accounts },
        ⟨201, .created (invitationSerializer invitation) token⟩)

/-! ## Requests -/

/-- The actions of the view sets, with the key in the path, the validated data, and what the action
draws and reads from the clock. -/
inductive Action where
  | listPlans
  | createPlan (data : Except ApiErr PlanInput)
  | retrievePlan (pk : String)
  | updatePlan (pk : String) (data : Except ApiErr PlanInput)
  | partialUpdatePlan (pk : String) (data : Except ApiErr PlanInput)
  | destroyPlan (pk : String)
  | listCustomers
  | createCustomer (data : Except ApiErr CustomerInput)
  | retrieveCustomer (pk : String)
  | updateCustomer (pk : String) (data : Except ApiErr CustomerInput)
  | partialUpdateCustomer (pk : String) (data : Except ApiErr CustomerInput)
  | listSubscriptions
  | createSubscription (data : Except ApiErr (ℤ × ℤ)) (now issuedAt : DateTime)
  | retrieveSubscription (pk : String)
  | activateSubscription (pk : String) (now issuedAt : DateTime)
  | cancelSubscription (pk : String) (now : DateTime)
  | renewSubscription (pk : String) (checkedAt now issuedAt : DateTime)
  | listInvoices
  | retrieveInvoice (pk : String)
  | listAttempts
  | createAttempt (data : Except ApiErr ℤ) (idempotencyKey : Option String) (draw : ChargeDraw)
  | retrieveAttempt (pk : String)
  | listApiKeys
  | createApiKey (data : Except ApiErr ApiKeyInput) (rawKey : String) (now : DateTime)
  | destroyApiKey (pk : String)
  | listMembers
  | listInvitations
  | createInvitation (email role token : String) (now : DateTime)

/-- The method of the request of an action. -/
def Action.method : Action → Method
  | listPlans | retrievePlan _ | listCustomers | retrieveCustomer _ | listSubscriptions
  | retrieveSubscription _ | listInvoices | retrieveInvoice _ | listAttempts | retrieveAttempt _
  | listApiKeys | listMembers | listInvitations => .get
  | createPlan _ | createCustomer _ | createSubscription _ _ _ | activateSubscription _ _ _
  | cancelSubscription _ _ | renewSubscription _ _ _ _ | createAttempt _ _ _ | createApiKey _ _ _
  | createInvitation _ _ _ _ => .post
  | updatePlan _ _ | updateCustomer _ _ => .put
  | partialUpdatePlan _ _ | partialUpdateCustomer _ _ => .patch
  | destroyPlan _ | destroyApiKey _ => .delete

/-- The view set that an action belongs to. -/
def Action.viewSet : Action → ViewSet
  | listPlans | createPlan _ | retrievePlan _ | updatePlan _ _ | partialUpdatePlan _ _
  | destroyPlan _ => .plans
  | listCustomers | createCustomer _ | retrieveCustomer _ | updateCustomer _ _
  | partialUpdateCustomer _ _ => .customers
  | listSubscriptions | createSubscription _ _ _ | retrieveSubscription _
  | activateSubscription _ _ _ | cancelSubscription _ _ | renewSubscription _ _ _ _ =>
    .subscriptions
  | listInvoices | retrieveInvoice _ => .invoices
  | listAttempts | createAttempt _ _ _ | retrieveAttempt _ => .paymentAttempts
  | listApiKeys | createApiKey _ _ _ | destroyApiKey _ => .apiKeys
  | listMembers => .members
  | listInvitations | createInvitation _ _ _ _ => .invitations

/-- What a call draws for a charge. -/
def Action.draw : Action → Option ChargeDraw
  | createAttempt _ _ draw => some draw
  | _ => none

/-- What a call draws for an invitation. -/
def Action.token : Action → Option String
  | createInvitation _ _ token _ => some token
  | _ => none

/-- `list` and `retrieve`. -/
def listed (s : Store) (items : List Item) : Except Fault (Store × Response) :=
  .ok (s, ⟨200, .list items⟩)

/-- `retrieve`: the object of the query set with the primary key. -/
def retrieved {α : Type} [Keyed α] (s : Store) (model : String) (rows : List α)
    (serializer : α → Item) (pk : Option ℤ) : Except Fault (Store × Response) := do
  let a ← getObject model rows pk
  return (s, ⟨200, .item (serializer a)⟩)

/-- The handler of a call, for the organization of the request. -/
def handle (env : ServerEnv) (s : Store) (o : Option ℕ) : Action → Except Fault (Store × Response)
  | .listPlans => listed s ((s.plans o).map (planSerializer s))
  | .createPlan data => PlanViewSet.create s o data
  | .retrievePlan pk => retrieved s "Plan" (s.plans o) (planSerializer s) (env.accounts.int pk)
  | .updatePlan pk data => PlanViewSet.update s o (env.accounts.int pk) data
  | .partialUpdatePlan pk data => PlanViewSet.update s o (env.accounts.int pk) data
  | .destroyPlan pk => PlanViewSet.destroy s o (env.accounts.int pk)
  | .listCustomers => listed s ((s.customers o).map (customerSerializer s))
  | .createCustomer data => CustomerViewSet.create s o data
  | .retrieveCustomer pk =>
    retrieved s "Customer" (s.customers o) (customerSerializer s) (env.accounts.int pk)
  | .updateCustomer pk data => CustomerViewSet.update s o (env.accounts.int pk) data
  | .partialUpdateCustomer pk data => CustomerViewSet.update s o (env.accounts.int pk) data
  | .listSubscriptions => listed s ((s.subscriptions o).map subscriptionSerializer)
  | .createSubscription data now issuedAt => SubscriptionViewSet.create s o data now issuedAt
  | .retrieveSubscription pk =>
    retrieved s "Subscription" (s.subscriptions o) subscriptionSerializer (env.accounts.int pk)
  | .activateSubscription pk now issuedAt =>
    SubscriptionViewSet.activate s o (env.accounts.int pk) now issuedAt
  | .cancelSubscription pk now => SubscriptionViewSet.cancel s o (env.accounts.int pk) now
  | .renewSubscription pk checkedAt now issuedAt =>
    SubscriptionViewSet.renew s o (env.accounts.int pk) checkedAt now issuedAt
  | .listInvoices => listed s ((s.invoices o).map (invoiceSerializer s.db))
  | .retrieveInvoice pk =>
    retrieved s "Invoice" (s.invoices o) (invoiceSerializer s.db) (env.accounts.int pk)
  | .listAttempts => listed s ((s.attempts o).map paymentAttemptSerializer)
  | .createAttempt data idempotencyKey draw =>
    PaymentAttemptViewSet.create env.billing s o data idempotencyKey draw
  | .retrieveAttempt pk =>
    retrieved s "PaymentAttempt" (s.attempts o) paymentAttemptSerializer (env.accounts.int pk)
  | .listApiKeys => listed s ((s.apiKeys o).map apiKeySerializer)
  | .createApiKey data rawKey now => ApiKeyViewSet.create s o env.accounts data rawKey now
  | .destroyApiKey pk => ApiKeyViewSet.destroy s o (env.accounts.int pk)
  | .listMembers => listed s ((s.members o).map (organizationMembershipSerializer s.accounts))
  | .listInvitations => listed s ((s.invitations o).map invitationSerializer)
  | .createInvitation email role token now =>
    InvitationViewSet.create env.accounts s o email role token now

/-- What becomes of a request, before the charges that it triggers. -/
def dispatch (env : ServerEnv) (s : Store) (authorization : String)
    (organizationHeader : Option String) (now : DateTime) (call : Action) :
    Except Fault (Store × Response) := do
  let request ← (initial env.accounts s.accounts s.accounts s.accounts call.viewSet
    (.incoming call.method authorization organizationHeader) now).mapError .api
  let (organization, _) ←
    (getRequestOrganization env.accounts s.accounts request).mapError .api
  handle env s organization call

/-- A request from the first byte to the last charge that it triggers. -/
def serve (env : ServerEnv) (s : Store) (authorization : String)
    (organizationHeader : Option String) (now : DateTime) (call : Action) (draws : ℕ → ChargeDraw) :
    Store × Response :=
  match dispatch env s authorization organizationHeader now call with
  | .error e => (s, respond e)
  | .ok (s', response) =>
    ({ s' with db := runCharges env.billing draws s'.db (triggered s.db s'.db) }, response)

end Chargeflow
