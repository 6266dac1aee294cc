import Chargeflow.Api.Requests
import Chargeflow.System.Operations

/-!
# Only authorized principals change a project

Permission and handler each resolve the organization of a request on their own.  For a key both read
the attribute the authenticator has set; for a user both make the same choice among the same
memberships.  So the role that the permission checks is a role in the organization that the handler
acts on.
-/

namespace Chargeflow

open Foundation

variable {env : AccountsEnv} {db db₁ db₂ db₃ : Accounts} {now : DateTime}

/-! ## Principals -/

/-- The key with which a request authenticates. -/
structure ValidKey (env : AccountsEnv) (db : Accounts) (authorization : String) (now : DateTime)
    (k : ApiKey) : Prop where
  mem : k ∈ db.apiKeys
  notRevoked : k.revoked = false
  notExpired : ∀ expiresAt ∈ k.expiresAt, now ≤ expiresAt
  keyHash : k.keyHash = env.sha256 (rawKeyOf env authorization)

/-- The user whose token a request carries. -/
structure ValidToken (env : AccountsEnv) (db : Accounts) (authorization : String) (u : User) :
    Prop where
  mem : u ∈ db.users
  isActive : u.isActive = true
  token : ∃ token ∈ db.tokens, env.tokenOf authorization = .ok (some token.key) ∧
    token.userId = u.id

/-- What the authenticators make of a request. -/
inductive Authenticated (env : AccountsEnv) (db : Accounts) (request : Request) (now : DateTime) :
    Request → Prop
  | anonymous : Authenticated env db request now request
  | user {u : User} (h : ValidToken env db request.authorization u) :
      Authenticated env db request now { request with user := .user u }
  | project {k : ApiKey} (h : ValidKey env db request.authorization now k) :
      Authenticated env db request now { request with
        organization := some k.organizationId
        user := .project k.organizationId k.scope }

/-- An API key that authenticates is valid. -/
theorem ApiKey.authenticate_eq_some {authorization : String} {k : ApiKey}
    (h : ApiKey.authenticate env db (rawKeyOf env authorization) now = .ok (some k)) :
    ValidKey env db authorization now k := by
  unfold ApiKey.authenticate at h
  split at h
  case isFalse => cases h
  dsimp only at h
  split at h
  case h_1 => cases h
  case h_3 => cases h
  rename_i apiKey hfilter
  split at h
  case isTrue => cases h
  rename_i hexpired
  obtain rfl := Option.some.inj (Except.ok.inj h)
  obtain ⟨hmem, htest⟩ := Table.mem_filter.mp (hfilter ▸ List.mem_singleton_self apiKey)
  simp only [Bool.and_eq_true, beq_iff_eq, Bool.not_eq_true'] at htest
  exact ⟨hmem, htest.2, ApiKey.expired_eq_false.mp (Bool.not_eq_true _ ▸ hexpired), htest.1.2⟩

/-- What `TokenAuthentication` accepts has a valid token. -/
theorem authenticated_of_authenticateToken {request request' : Request}
    (h : authenticateToken env db request = .ok (some request')) :
    ∃ u, ValidToken env db request.authorization u ∧
      request' = { request with user := .user u } := by
  unfold authenticateToken at h
  split at h
  case h_1 => cases h
  case h_2 => cases h
  rename_i key hkey
  split at h
  case h_1 => cases h
  rename_i token htoken
  split at h
  case h_1 => cases h
  rename_i user huser
  split at h
  case isFalse => cases h
  rename_i hactive
  obtain rfl := Option.some.inj (Except.ok.inj h)
  obtain ⟨hmem, hid⟩ := Table.get?_eq_some_iff.mp huser
  obtain rfl : token.key = key := by simpa using List.find?_some htoken
  exact ⟨user, ⟨hmem, hactive, token, List.mem_of_find?_eq_some htoken, hkey, hid.symm⟩, rfl⟩

/-- What `ApiKeyAuthentication` accepts has a valid key. -/
theorem authenticated_of_authenticateApiKey {request request' : Request}
    (h : authenticateApiKey env db request now = .ok (some request')) :
    ∃ k, ValidKey env db request.authorization now k ∧
      request' = { request with
        organization := some k.organizationId
        user := .project k.organizationId k.scope } := by
  unfold authenticateApiKey at h
  split at h
  case isTrue => cases pure_eq_ok_iff.mp h
  dsimp only at h
  split at h
  case isTrue => cases pure_eq_ok_iff.mp h
  obtain ⟨key, hkey, h⟩ := bind_eq_ok_iff.mp h
  cases key with
  | none => cases h
  | some k =>
    obtain rfl := Option.some.inj (pure_eq_ok_iff.mp h)
    exact ⟨k, ApiKey.authenticate_eq_some hkey, rfl⟩

/-- A request is anonymous, or it carries the token of a user or a key. -/
theorem authenticated_of_authenticate {request request' : Request}
    (h : authenticate env db request now = .ok request') :
    Authenticated env db request now request' := by
  unfold authenticate at h
  obtain ⟨token, htoken, h⟩ := bind_eq_ok_iff.mp h
  cases token with
  | some request₁ =>
    obtain rfl := pure_eq_ok_iff.mp h
    obtain ⟨u, hu, rfl⟩ := authenticated_of_authenticateToken htoken
    exact .user hu
  | none =>
    obtain ⟨key, hkey, h⟩ := bind_eq_ok_iff.mp h
    cases key with
    | some request₁ =>
      obtain rfl := pure_eq_ok_iff.mp h
      obtain ⟨k, hk, rfl⟩ := authenticated_of_authenticateApiKey hkey
      exact .project hk
    | none =>
      obtain rfl := pure_eq_ok_iff.mp h
      exact .anonymous

/-! ## The role that is checked -/

/-- The membership a user acts with is one of the user's. -/
theorem resolveMembership_eq_some {user : User} {header : Option String}
    {m : OrganizationMembership} (h : resolveMembership env db user header = .ok (some m)) :
    m ∈ db.memberships ∧ m.userId = user.id := by
  unfold resolveMembership at h
  split at h
  · split at h
    case h_1 => cases h
    split at h
    case h_1 => cases h
    case h_3 => cases h
    rename_i m' hfilter
    obtain rfl := Option.some.inj (Except.ok.inj h)
    obtain ⟨hmem, htest⟩ := Table.mem_filter.mp (hfilter ▸ List.mem_singleton_self m')
    simp only [Bool.and_eq_true, beq_iff_eq] at htest
    exact ⟨hmem, htest.2⟩
  · split at h
    case h_1 => cases h
    case h_3 => cases h
    rename_i m' htake
    obtain rfl := Option.some.inj (Except.ok.inj h)
    obtain ⟨hmem, htest⟩ :=
      Table.mem_filter.mp (List.mem_of_mem_take (htake ▸ List.mem_singleton_self m'))
    exact ⟨hmem, by simpa using htest⟩

/-- The membership does not depend on any other table. -/
theorem resolveMembership_congr (h : db₁.memberships = db.memberships) (user : User)
    (header : Option String) :
    resolveMembership env db₁ user header = resolveMembership env db user header := by
  unfold resolveMembership
  rw [h]

/-- The organization of a request of a user. -/
theorem getRequestOrganization_of_user {request : Request} {user : User}
    (horganization : request.organization = none) (huser : request.user = .user user) :
    getRequestOrganization env db request =
      match resolveMembership env db user request.organizationHeader with
      | .error e => .error e
      | .ok none => .ok (none, request)
      | .ok (some m) => .ok (some m.organizationId, { request with membership := some m }) := by
  obtain ⟨method, authorization, header, principal, organization, membership⟩ := request
  obtain rfl : organization = none := horganization
  obtain rfl : principal = .user user := huser
  rfl

/-- Who passes the permissions of a view set with an unsafe method. -/
inductive Granted (env : AccountsEnv) (db : Accounts) (viewSet : ViewSet) (request : Request) :
    Request → Prop
  | admin {user : User} {m : OrganizationMembership} (huser : request.user = .user user)
      (hm : resolveMembership env db user request.organizationHeader = .ok (some m))
      (hrole : m.role = .owner ∨ m.role = .admin) :
      Granted env db viewSet request { request with membership := some m }
  | writer {organizationId : ℕ} (huser : request.user = .project organizationId .readWrite)
      (hkeys : viewSet ≠ .apiKeys) (hinvitations : viewSet ≠ .invitations) :
      Granted env db viewSet request request

/-- The attributes of a request that has only been authenticated. -/
structure Unresolved (request : Request) : Prop where
  membership : request.membership = none
  organization : ∀ u, request.user = .user u → request.organization = none

/-- An administrator passes with the role of the membership that the request is resolved to. -/
theorem granted_of_isOrgAdmin {request request' : Request} (hrequest : Unresolved request)
    (viewSet : ViewSet) (h : isOrgAdmin env db request = .ok (true, request')) :
    Granted env db viewSet request request' := by
  unfold isOrgAdmin at h
  split at h
  case isTrue => cases pure_eq_ok_iff.mp h
  rename_i hhuman
  obtain ⟨user, huser⟩ : ∃ user, request.user = .user user := by
    unfold isHuman at hhuman
    split at hhuman
    case h_1 user huser => exact ⟨user, huser⟩
    case h_2 => simp at hhuman
  obtain ⟨⟨organization, request₁⟩, hresolved, h⟩ := bind_eq_ok_iff.mp h
  obtain ⟨hrole, rfl⟩ := Prod.mk.inj (pure_eq_ok_iff.mp h)
  rw [getRequestOrganization_of_user (hrequest.organization user huser) huser] at hresolved
  split at hresolved
  case h_1 => cases hresolved
  case h_2 =>
    obtain ⟨-, rfl⟩ := Prod.mk.inj (Except.ok.inj hresolved)
    rw [hrequest.membership] at hrole
    cases hrole
  case h_3 m hm =>
    obtain ⟨-, rfl⟩ := Prod.mk.inj (Except.ok.inj hresolved)
    exact .admin huser hm (by simpa using hrole)

/-- A project is changed by an administrator, or with a key that may write. -/
theorem granted_of_projectAccess {request request' : Request} (hrequest : Unresolved request)
    (hwrites : request.method.safe = false) {viewSet : ViewSet} (hkeys : viewSet ≠ .apiKeys)
    (hinvitations : viewSet ≠ .invitations)
    (h : projectAccess env db request = .ok (true, request')) :
    Granted env db viewSet request request' := by
  unfold projectAccess at h
  rw [hwrites] at h
  split at h
  case isTrue => cases h
  split at h
  case isTrue hsafe => cases hsafe
  split at h
  case h_1 organizationId scope huser =>
    obtain ⟨hscope, rfl⟩ := Prod.mk.inj (Except.ok.inj h)
    obtain rfl := beq_iff_eq.mp hscope
    exact .writer huser hkeys hinvitations
  case h_2 => exact granted_of_isOrgAdmin hrequest viewSet h

/-- The first permission is checked before the others. -/
theorem checkPermissions_cons {permission : Permission} {rest : List Permission}
    {request request' : Request}
    (h : checkPermissions env db (permission :: rest) request = .ok request') :
    ∃ request₁, permission.check env db request = .ok (true, request₁) ∧
      checkPermissions env db rest request₁ = .ok request' := by
  obtain ⟨⟨granted, request₁⟩, hcheck, h⟩ := bind_eq_ok_iff.mp h
  cases granted with
  | false => cases h
  | true => exact ⟨request₁, hcheck, h⟩

/-- The view sets that change a project. -/
def ViewSet.managed : ViewSet → Bool
  | plans | customers | subscriptions | paymentAttempts | apiKeys | invitations => true
  | invoices | members => false

/-- A request that passes the permissions of a view set has been granted access. -/
theorem granted_of_checkPermissions {viewSet : ViewSet} (hmanaged : viewSet.managed = true)
    {request request' : Request} (hrequest : Unresolved request)
    (hwrites : request.method.safe = false)
    (h : checkPermissions env db viewSet.permissions request = .ok request') :
    Granted env db viewSet request request' := by
  cases viewSet with
  | plans | customers | subscriptions | paymentAttempts =>
    obtain ⟨request₁, hcheck, hrest⟩ := checkPermissions_cons h
    obtain rfl := Except.ok.inj hrest
    exact granted_of_projectAccess hrequest hwrites (by decide) (by decide) hcheck
  | apiKeys =>
    obtain ⟨request₁, hfirst, hrest⟩ := checkPermissions_cons h
    obtain ⟨request₂, hcheck, hrest⟩ := checkPermissions_cons hrest
    obtain rfl := Except.ok.inj hrest
    obtain ⟨hhuman, rfl⟩ := Prod.mk.inj (Except.ok.inj hfirst)
    have hgranted : Granted env db .plans request request₂ :=
      granted_of_projectAccess hrequest hwrites (by decide) (by decide) hcheck
    cases hgranted with
    | admin huser hm hrole => exact .admin huser hm hrole
    | writer huser =>
      -- a key is not human
      unfold isHuman at hhuman
      rw [huser] at hhuman
      cases hhuman
  | invitations =>
    obtain ⟨request₁, hfirst, hrest⟩ := checkPermissions_cons h
    obtain ⟨request₂, hcheck, hrest⟩ := checkPermissions_cons hrest
    obtain rfl := Except.ok.inj hrest
    obtain ⟨-, rfl⟩ := Prod.mk.inj (Except.ok.inj hfirst)
    exact granted_of_isOrgAdmin hrequest _ hcheck
  | invoices | members => cases hmanaged

/-! ## Who asked for a change -/

/-- When the handler of a view set that changes projects runs for the organization `organizationId`,
an owner or administrator of this organization asked for it, whose role in it the permission has
checked, or somebody with a key of this organization that may write. -/
theorem handler_authorized {viewSet : ViewSet} (hmanaged : viewSet.managed = true) {method : Method}
    (hwrites : method.safe = false) {authorization : String} {organizationHeader : Option String}
    (hpermissions : db₁.memberships = db.memberships) (hthrottle : db₂.memberships = db.memberships)
    (hhandler : db₃.memberships = db.memberships) {request request' : Request}
    (hinitial : initial env db db₁ db₂ viewSet
      (.incoming method authorization organizationHeader) now = .ok request)
    {organizationId : ℕ}
    (hresolved : getRequestOrganization env db₃ request = .ok (some organizationId, request')) :
    (∃ u m, ValidToken env db authorization u ∧ request.user = .user u ∧
      request.membership = some m ∧ m ∈ db.memberships ∧ m.userId = u.id ∧
      m.organizationId = organizationId ∧ (m.role = .owner ∨ m.role = .admin)) ∨
    ∃ k, ValidKey env db authorization now k ∧ k.scope = .readWrite ∧
      k.organizationId = organizationId ∧ viewSet ≠ .apiKeys ∧ viewSet ≠ .invitations := by
  obtain ⟨request₁, hauthenticate, hinitial⟩ := bind_eq_ok_iff.mp hinitial
  obtain ⟨request₂, hcheck, hinitial⟩ := bind_eq_ok_iff.mp hinitial
  obtain rfl := pure_eq_ok_iff.mp hinitial
  have hauthenticated := authenticated_of_authenticate hauthenticate
  have hrequest : Unresolved request₁ := by
    cases hauthenticated with
    | anonymous => exact ⟨rfl, fun u hu => rfl⟩
    | user => exact ⟨rfl, fun u hu => rfl⟩
    | project => exact ⟨rfl, fun u hu => by cases hu⟩
  have hmethod : request₁.method.safe = false := by
    cases hauthenticated with
    | _ => exact hwrites
  cases granted_of_checkPermissions hmanaged hrequest hmethod hcheck with
  | @admin user m huser hm hrole =>
    cases hauthenticated with
    | anonymous => cases huser
    | project => cases huser
    | @user u hu =>
      obtain rfl := Principal.user.inj huser
      -- throttle and handler make the choice of the permission
      have hsame : ∀ {db' : Accounts}, db'.memberships = db.memberships → ∀ membership,
          getRequestOrganization env db' ⟨method, authorization, organizationHeader, .user u, none,
            membership⟩ = .ok (some m.organizationId, ⟨method, authorization, organizationHeader,
            .user u, none, some m⟩) := by
        intro db' h membership
        rw [getRequestOrganization_of_user rfl rfl,
          resolveMembership_congr (h.trans hpermissions.symm)]
        dsimp only
        rw [show resolveMembership env db₁ u organizationHeader = .ok (some m) from hm]
      have hthrottled : throttle env db₂ ⟨method, authorization, organizationHeader, .user u, none,
          some m⟩ = ⟨method, authorization, organizationHeader, .user u, none, some m⟩ := by
        unfold throttle
        rw [hsame hthrottle]
      obtain ⟨hmem, hid⟩ := resolveMembership_eq_some hm
      have hrequest' : getRequestOrganization env db₃ ⟨method, authorization, organizationHeader,
          .user u, none, some m⟩ = .ok (some organizationId, request') := by
        rw [← hthrottled]
        exact hresolved
      obtain ⟨horganization, -⟩ := Prod.mk.inj (Except.ok.inj
        ((hsame hhandler (some m)).symm.trans hrequest'))
      refine Or.inl ⟨u, m, hu, ?_, ?_, hpermissions ▸ hmem, hid, Option.some.inj horganization,
        hrole⟩
      · exact congrArg Request.user hthrottled
      · exact congrArg Request.membership hthrottled
  | writer huser hkeys hinvitations =>
    cases hauthenticated with
    | anonymous => cases huser
    | user => cases huser
    | @project k hk =>
      obtain ⟨-, hscope⟩ := Principal.project.inj huser
      -- the attribute that the authenticator has set
      have hattribute : getRequestOrganization env db₃ ⟨method, authorization, organizationHeader,
          .project k.organizationId k.scope, some k.organizationId, none⟩ =
          .ok (some organizationId, request') := hresolved
      have horganization : k.organizationId = organizationId :=
        Option.some.inj (Prod.mk.inj (Except.ok.inj hattribute)).1
      exact Or.inr ⟨k, hk, hscope, horganization, hkeys, hinvitations⟩

/-! ## A sample -/

/-- Texts in ASCII, and headers with a token. -/
def sampleAccountsEnv : AccountsEnv where
  characters := asciiTable
  iexact s t := asciiTable.lower s == asciiTable.lower t
  validEmail email := email.toList.contains '@'
  sha256 := sampleEnv.sha256
  tokenOf header :=
    if "Token ".toList.isPrefixOf header.toList then .ok (some (String.ofList (header.toList.drop 6)))
    else .ok none
  int := String.toInt?

/-- An organization with its owner, who is logged in. -/
def sampleAccounts : Accounts where
  users := Table.empty.insert ⟨0, "ada@example.com", true⟩
  tokens := [⟨"9944b09199c62bcf", 1⟩]
  organizations := Table.empty.insert ⟨0, 1, "Engines"⟩
  memberships := Table.empty.insert ⟨0, 1, 1, .owner, sampleTime 0 0⟩
  invitations := Table.empty
  apiKeys := Table.empty

/-- The owner creates a plan. -/
theorem handler_authorized_owner : ∃ u m,
    ValidToken sampleAccountsEnv sampleAccounts "Token 9944b09199c62bcf" u ∧
      m ∈ sampleAccounts.memberships ∧ m.userId = u.id ∧ m.organizationId = 1 ∧
      (m.role = .owner ∨ m.role = .admin) := by
  have hinitial : initial sampleAccountsEnv sampleAccounts sampleAccounts sampleAccounts .plans
      (.incoming .post "Token 9944b09199c62bcf" none) (sampleTime 0 0) =
      .ok ⟨.post, "Token 9944b09199c62bcf", none, .user ⟨1, "ada@example.com", true⟩, none,
        some ⟨1, 1, 1, .owner, sampleTime 0 0⟩⟩ := rfl
  have hresolved : getRequestOrganization sampleAccountsEnv sampleAccounts ⟨.post,
      "Token 9944b09199c62bcf", none, .user ⟨1, "ada@example.com", true⟩, none,
      some ⟨1, 1, 1, .owner, sampleTime 0 0⟩⟩ = .ok (some 1, _) := rfl
  rcases handler_authorized rfl rfl rfl rfl rfl hinitial hresolved with
    ⟨u, m, hu, -, -, hm, hid, horganization, hrole⟩ | ⟨k, hk, -⟩
  · exact ⟨u, m, hu, hm, hid, horganization, hrole⟩
  · exact absurd hk.mem Table.not_mem_empty

end Chargeflow
