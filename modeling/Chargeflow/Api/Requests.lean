import Chargeflow.Domain.Accounts
import Chargeflow.Foundation.Transitions

/-!
# Requests before they reach a handler

Authentication, permissions and the organization of a request, with the attributes that the
authenticator and `get_request_organization` set on the request.  An organization is given by its
primary key.  The throttle resolves the organization too, and swallows what that raises.
-/

namespace Chargeflow

open Foundation

/-- The methods of HTTP that reach a view. -/
inductive Method where
  | get
  | head
  | options
  | post
  | put
  | patch
  | delete
  deriving DecidableEq

/-- `SAFE_METHODS`. -/
def Method.safe : Method → Bool
  | get | head | options => true
  | post | put | patch | delete => false

/-- `request.user`. -/
inductive Principal where
  | anonymous
  | user (u : User)
  /-- A `ProjectPrincipal`. -/
  | project (organizationId : ℕ) (scope : Scope)

/-- `is_authenticated`. -/
def Principal.isAuthenticated : Principal → Bool
  | anonymous => false
  | user _ => true
  | project _ _ => true

/-- A request, with the attributes that are set on its way. -/
structure Request where
  method : Method
  /-- The header `Authorization`, or an empty text. -/
  authorization : String
  /-- The header `X-Organization-Id`. -/
  organizationHeader : Option String
  user : Principal
  organization : Option ℕ
  membership : Option OrganizationMembership

/-- A request as it comes in. -/
def Request.incoming (method : Method) (authorization : String)
    (organizationHeader : Option String) : Request :=
  ⟨method, authorization, organizationHeader, .anonymous, none, none⟩

/-! ## Authentication -/

/-- `TokenAuthentication`. -/
def authenticateToken (env : AccountsEnv) (db : Accounts) (request : Request) :
    Except ApiErr (Option Request) :=
  match env.tokenOf request.authorization with
  | .error message => .error (.authenticationFailed message)
  | .ok none => .ok none
  | .ok (some key) =>
    match db.tokens.find? (fun t => t.key == key) with
    | none => .error (.authenticationFailed "Invalid token.")
    | some token =>
      match db.users.get? token.userId with
      | none => .error (.authenticationFailed "Invalid token.")
      | some user =>
        if user.isActive then .ok (some { request with user := .user user })
        else .error (.authenticationFailed "User inactive or deleted.")

/-- The key had expired before `now`. -/
def ApiKey.expired (k : ApiKey) (now : DateTime) : Bool :=
  match k.expiresAt with
  | none => false
  | some expiresAt => decide (expiresAt < now)

/-- A key counts until the time of its expiry. -/
theorem ApiKey.expired_eq_false {k : ApiKey} {now : DateTime} :
    k.expired now = false ↔ ∀ expiresAt ∈ k.expiresAt, now ≤ expiresAt := by
  unfold ApiKey.expired
  cases k.expiresAt with
  | none => simp
  | some expiresAt => simp only [decide_eq_false_iff_not, not_lt, Option.mem_some_iff, forall_eq']

/-- `ApiKey.authenticate`. -/
def ApiKey.authenticate (env : AccountsEnv) (db : Accounts) (rawKey : String) (now : DateTime) :
    Except ApiErr (Option ApiKey) :=
  if "cf_".toList.isPrefixOf rawKey.toList then
    let keyPrefix := String.ofList (rawKey.toList.take 12)
    match db.apiKeys.filter (fun k => k.keyPrefix == keyPrefix &&
        k.keyHash == env.sha256 rawKey && !k.revoked) with
    | [] => .ok none
    | [apiKey] =>
      if apiKey.expired now then .ok none else .ok (some apiKey)
    | _ => .error (.multipleObjectsReturned "ApiKey")
  else .ok none

/-- The text after `Bearer`, without blanks around it. -/
def rawKeyOf (env : AccountsEnv) (authorization : String) : String :=
  env.characters.strip (String.ofList (authorization.toList.drop 7))

/-- `ApiKeyAuthentication.authenticate`. -/
def authenticateApiKey (env : AccountsEnv) (db : Accounts) (request : Request) (now : DateTime) :
    Except ApiErr (Option Request) := do
  if !"Bearer ".toList.isPrefixOf request.authorization.toList then return none
  let rawKey := rawKeyOf env request.authorization
  if rawKey == "" then return none
  match ← ApiKey.authenticate env db rawKey now with
  | none => .error (.authenticationFailed "Invalid or expired API key")
  | some apiKey => return some { request with
      organization := some apiKey.organizationId
      user := .project apiKey.organizationId apiKey.scope }

/-- The authenticators one after the other, until one of them knows the principal. -/
def authenticate (env : AccountsEnv) (db : Accounts) (request : Request) (now : DateTime) :
    Except ApiErr Request := do
  match ← authenticateToken env db request with
  | some request => return request
  | none =>
    match ← authenticateApiKey env db request now with
    | some request => return request
    | none => return request

/-! ## The organization of a request -/

/-- The membership in the organization that the header names, or the sole membership of the user. -/
def resolveMembership (env : AccountsEnv) (db : Accounts) (user : User)
    (organizationHeader : Option String) : Except ApiErr (Option OrganizationMembership) :=
  match organizationHeader.filter (· ≠ "") with
  | some rawId =>
    match env.int rawId with
    | none => .error (.permissionDenied "Organization not found or not accessible.")
    | some n =>
      match db.memberships.filter fun m => (m.organizationId : ℤ) == n && m.userId == user.id with
      | [] => .error (.permissionDenied "Organization not found or not accessible.")
      | [m] => .ok (some m)
      | _ => .error (.multipleObjectsReturned "OrganizationMembership")
  | none =>
    match (db.memberships.filter fun m => m.userId == user.id).take 2 with
    | [] => .ok none
    | [m] => .ok (some m)
    | _ => .error (.validationError "" ("Multiple organizations found. Provide the " ++
        "X-Organization-Id header to specify which one."))

/-- `get_request_organization`. -/
def getRequestOrganization (env : AccountsEnv) (db : Accounts) (request : Request) :
    Except ApiErr (Option ℕ × Request) :=
  match request.organization with
  | some organizationId => .ok (some organizationId, request)
  | none =>
    match request.user with
    | .anonymous => .ok (none, request)
    | .project _ _ => .error .typeError
    | .user user =>
      match resolveMembership env db user request.organizationHeader with
      | .error e => .error e
      | .ok none => .ok (none, request)
      | .ok (some m) => .ok (some m.organizationId, { request with membership := some m })

/-! ## Permissions -/

/-- The classes a view lists as its permissions. -/
inductive Permission where
  | isAuthenticated
  | isHuman
  | isOrgAdmin
  | projectAccess
  deriving DecidableEq

/-- `IsHuman.has_permission`. -/
def isHuman (request : Request) : Bool :=
  match request.user with
  | .user _ => true
  | _ => false

/-- `IsOrgAdmin.has_permission`. -/
def isOrgAdmin (env : AccountsEnv) (db : Accounts) (request : Request) :
    Except ApiErr (Bool × Request) := do
  if !isHuman request then return (false, request)
  let (_, request) ← getRequestOrganization env db request
  return (request.membership.any fun m => m.role == .owner || m.role == .admin, request)

/-- `ProjectAccess.has_permission`. -/
def projectAccess (env : AccountsEnv) (db : Accounts) (request : Request) :
    Except ApiErr (Bool × Request) :=
  if !request.user.isAuthenticated then .ok (false, request)
  else if request.method.safe then .ok (true, request)
  else
    match request.user with
    | .project _ scope => .ok (scope == .readWrite, request)
    | _ => isOrgAdmin env db request

/-- `has_permission`. -/
def Permission.check (env : AccountsEnv) (db : Accounts) (request : Request) :
    Permission → Except ApiErr (Bool × Request)
  | isAuthenticated => .ok (request.user.isAuthenticated, request)
  | isHuman => .ok (Chargeflow.isHuman request, request)
  | isOrgAdmin => Chargeflow.isOrgAdmin env db request
  | projectAccess => Chargeflow.projectAccess env db request

/-- The refusal of a request, which says whether anybody was authenticated. -/
def refusal (request : Request) : ApiErr :=
  if request.user.isAuthenticated then
    .permissionDenied "You do not have permission to perform this action."
  else .notAuthenticated

/-- `check_permissions`: all permissions, in their order. -/
def checkPermissions (env : AccountsEnv) (db : Accounts) :
    List Permission → Request → Except ApiErr Request
  | [], request => .ok request
  | permission :: rest, request => do
    let (granted, request) ← permission.check env db request
    if granted then checkPermissions env db rest request else .error (refusal request)

/-- What the throttle does to a request that it lets through. -/
def throttle (env : AccountsEnv) (db : Accounts) (request : Request) : Request :=
  match getRequestOrganization env db request with
  | .ok (_, request) => request
  | .error _ => request

/-- `OrganizationRateThrottle.get_cache_key`, with the address that `get_ident` finds. -/
def getCacheKey (env : AccountsEnv) (db : Accounts) (request : Request) (address : String) :
    String :=
  let ident := match getRequestOrganization env db request with
    | .ok (some organizationId, _) => "org:" ++ toString organizationId
    | .ok (none, _) | .error _ => "ip:" ++ address
  "throttle_org_" ++ ident

/-- `FailOpenMixin.allow_request`: an exception of the counter lets the request through. -/
def failOpen : Except String Bool → Bool
  | .ok allowed => allowed
  | .error _ => true

/-! ## View sets -/

/-- The view sets that read or write the data of one organization. -/
inductive ViewSet where
  | plans
  | customers
  | subscriptions
  | invoices
  | paymentAttempts
  | apiKeys
  | members
  | invitations
  deriving DecidableEq

/-- `permission_classes`. -/
def ViewSet.permissions : ViewSet → List Permission
  | plans | customers | subscriptions | paymentAttempts => [.projectAccess]
  | invoices => [.isAuthenticated]
  | apiKeys => [.isHuman, .projectAccess]
  | members => [.isHuman]
  | invitations => [.isHuman, .isOrgAdmin]

/-- `initial`: everything that happens before the handler runs.  Other requests may write to the
database between authentication, permissions and throttle. -/
def initial (env : AccountsEnv) (db db₁ db₂ : Accounts) (viewSet : ViewSet) (request : Request)
    (now : DateTime) : Except ApiErr Request := do
  let request ← authenticate env db request now
  let request ← checkPermissions env db₁ viewSet.permissions request
  return throttle env db₂ request

end Chargeflow
