import Chargeflow.Api.ViewSets
import Chargeflow.Properties.Authorization

/-!
# What a request reads before its handler runs

Permissions, throttle and handler ask for the organization of a request again and again.  All that
they read of the accounts are the memberships of the user, and all that they change of the request
is its membership.
-/

namespace Chargeflow

open Foundation

variable {env : AccountsEnv} {db db₁ db₂ : Accounts} {now : DateTime}

/-- The user of a request has the same memberships in both databases. -/
def SameMemberships (db₁ db₂ : Accounts) (request : Request) : Prop :=
  ∀ u, request.user = .user u → (db₂.memberships.filter fun m => m.userId == u.id) =
    db₁.memberships.filter fun m => m.userId == u.id

/-- The principal of a request is the same in both databases, with the same memberships. -/
structure SamePrincipal (env : AccountsEnv) (db₁ db₂ : Accounts) (request : Request)
    (now : DateTime) : Prop where
  authenticate : authenticate env db₂ request now = authenticate env db₁ request now
  memberships : ∀ request', Chargeflow.authenticate env db₁ request now = .ok request' →
    SameMemberships db₁ db₂ request'

/-- `get_request_organization` leads an authenticated request to an organization. -/
def Resolves (env : AccountsEnv) (db : Accounts) (request : Request) (now : DateTime)
    (organizationId : ℕ) : Prop :=
  ∃ request₁ request₂, authenticate env db request now = .ok request₁ ∧
    getRequestOrganization env db request₁ = .ok (some organizationId, request₂)

/-! ## The attributes of a request -/

/-- Only the membership has been set. -/
def Sequel (request request' : Request) : Prop := ∃ m, request' = { request with membership := m }

/-- A request is its own sequel. -/
theorem Sequel.refl (request : Request) : Sequel request request := ⟨request.membership, rfl⟩

/-- Sequels compose. -/
theorem Sequel.trans {r r' r'' : Request} (h : Sequel r r') (h' : Sequel r' r'') :
    Sequel r r'' := by
  obtain ⟨m, rfl⟩ := h
  obtain ⟨m', rfl⟩ := h'
  exact ⟨m', rfl⟩

/-- Databases that agree on the memberships of a request agree on those of its sequel. -/
theorem SameMemberships.sequel {request request' : Request}
    (h : SameMemberships db₁ db₂ request) (hrequest : Sequel request request') :
    SameMemberships db₁ db₂ request' := by
  obtain ⟨m, rfl⟩ := hrequest
  exact h

/-- Resolving the organization leaves a sequel of the request. -/
theorem getRequestOrganization_sequel {request request' : Request} {organization : Option ℕ}
    (h : getRequestOrganization env db request = .ok (organization, request')) :
    Sequel request request' := by
  unfold getRequestOrganization at h
  split at h
  case h_1 =>
    obtain ⟨-, rfl⟩ := Prod.mk.inj (Except.ok.inj h)
    exact .refl request
  case h_2 =>
    split at h
    case h_1 =>
      obtain ⟨-, rfl⟩ := Prod.mk.inj (Except.ok.inj h)
      exact .refl request
    case h_2 => cases h
    case h_3 =>
      split at h
      case h_1 => cases h
      case h_2 =>
        obtain ⟨-, rfl⟩ := Prod.mk.inj (Except.ok.inj h)
        exact .refl request
      case h_3 m _ =>
        obtain ⟨-, rfl⟩ := Prod.mk.inj (Except.ok.inj h)
        exact ⟨some m, rfl⟩

/-- `IsOrgAdmin` leaves a sequel of the request. -/
theorem isOrgAdmin_sequel {request request' : Request} {granted : Bool}
    (h : isOrgAdmin env db request = .ok (granted, request')) : Sequel request request' := by
  unfold isOrgAdmin at h
  split at h
  case isTrue =>
    obtain ⟨-, rfl⟩ := Prod.mk.inj (pure_eq_ok_iff.mp h)
    exact .refl request
  case isFalse =>
    obtain ⟨⟨organization, request₁⟩, hresolved, h⟩ := bind_eq_ok_iff.mp h
    obtain ⟨-, rfl⟩ := Prod.mk.inj (pure_eq_ok_iff.mp h)
    exact getRequestOrganization_sequel hresolved

/-- A permission leaves a sequel of the request. -/
theorem Permission.check_sequel {permission : Permission} {request request' : Request}
    {granted : Bool} (h : permission.check env db request = .ok (granted, request')) :
    Sequel request request' := by
  cases permission with
  | isAuthenticated | isHuman =>
    obtain ⟨-, rfl⟩ := Prod.mk.inj (Except.ok.inj h)
    exact .refl request
  | isOrgAdmin => exact isOrgAdmin_sequel h
  | projectAccess =>
    change Chargeflow.projectAccess env db request = .ok (granted, request') at h
    unfold Chargeflow.projectAccess at h
    split at h
    case isTrue =>
      obtain ⟨-, rfl⟩ := Prod.mk.inj (Except.ok.inj h)
      exact .refl request
    case isFalse =>
      split at h
      case isTrue =>
        obtain ⟨-, rfl⟩ := Prod.mk.inj (Except.ok.inj h)
        exact .refl request
      case isFalse =>
        split at h
        case h_1 =>
          obtain ⟨-, rfl⟩ := Prod.mk.inj (Except.ok.inj h)
          exact .refl request
        case h_2 => exact isOrgAdmin_sequel h

/-- The permissions leave a sequel of the request. -/
theorem checkPermissions_sequel {permissions : List Permission} {request request' : Request}
    (h : checkPermissions env db permissions request = .ok request') :
    Sequel request request' := by
  induction permissions generalizing request with
  | nil =>
    obtain rfl := Except.ok.inj h
    exact .refl request
  | cons permission rest ih =>
    obtain ⟨request₁, hcheck, hrest⟩ := checkPermissions_cons h
    exact (Permission.check_sequel hcheck).trans (ih hrest)

/-- The throttle leaves a sequel of the request. -/
theorem throttle_sequel (request : Request) : Sequel request (throttle env db request) := by
  unfold throttle
  split
  case h_1 h => exact getRequestOrganization_sequel h
  case h_2 => exact .refl request

/-- What reaches the handler is a sequel of the authenticated request. -/
theorem initial_sequel {viewSet : ViewSet} {request request₁ request₂ : Request}
    (hauthenticate : authenticate env db request now = .ok request₁)
    (h : initial env db db db viewSet request now = .ok request₂) : Sequel request₁ request₂ := by
  obtain ⟨r₁, hr₁, h⟩ := bind_eq_ok_iff.mp h
  obtain rfl := Except.ok.inj (hr₁.symm.trans hauthenticate)
  obtain ⟨r₂, hr₂, h⟩ := bind_eq_ok_iff.mp h
  obtain rfl := pure_eq_ok_iff.mp h
  exact (checkPermissions_sequel hr₂).trans (throttle_sequel r₂)

/-- The membership that a request has already been given does not matter. -/
theorem getRequestOrganization_of_sequel {request request' request₁ : Request}
    {organization : Option ℕ} (hrequest : Sequel request request')
    (h : getRequestOrganization env db request = .ok (organization, request₁)) :
    ∃ request₂, getRequestOrganization env db request' = .ok (organization, request₂) := by
  obtain ⟨m, rfl⟩ := hrequest
  obtain ⟨method, authorization, header, user, org, membership⟩ := request
  unfold getRequestOrganization at h ⊢
  cases org with
  | some organizationId =>
    obtain ⟨rfl, -⟩ := Prod.mk.inj (Except.ok.inj h)
    exact ⟨_, rfl⟩
  | none =>
    cases user with
    | anonymous =>
      obtain ⟨rfl, -⟩ := Prod.mk.inj (Except.ok.inj h)
      exact ⟨_, rfl⟩
    | project => cases h
    | user u =>
      dsimp only at h ⊢
      cases hm : resolveMembership env db u header with
      | error e =>
        rw [hm] at h
        cases h
      | ok membership =>
        rw [hm] at h
        cases membership with
        | none =>
          obtain ⟨rfl, -⟩ := Prod.mk.inj (Except.ok.inj h)
          exact ⟨_, rfl⟩
        | some membership =>
          obtain ⟨rfl, -⟩ := Prod.mk.inj (Except.ok.inj h)
          exact ⟨_, rfl⟩

/-! ## The memberships of the user -/

/-- The membership is found by the memberships of the user alone. -/
theorem resolveMembership_same {user : User} {header : Option String}
    (h : (db₂.memberships.filter fun m => m.userId == user.id) =
      db₁.memberships.filter fun m => m.userId == user.id) :
    resolveMembership env db₂ user header = resolveMembership env db₁ user header := by
  have hnamed : ∀ (db : Accounts) (n : ℤ), (db.memberships.filter fun m =>
        (m.organizationId : ℤ) == n && m.userId == user.id) =
      (db.memberships.filter fun m => m.userId == user.id).filter
        fun m => (m.organizationId : ℤ) == n :=
    fun db n => List.filter_filter.symm
  unfold resolveMembership
  simp only [hnamed, h]

/-- The organization is resolved by the memberships of the user alone. -/
theorem getRequestOrganization_same {request : Request} (h : SameMemberships db₁ db₂ request) :
    getRequestOrganization env db₂ request = getRequestOrganization env db₁ request := by
  unfold getRequestOrganization
  cases request.organization with
  | some organizationId => rfl
  | none =>
    cases huser : request.user with
    | anonymous => rfl
    | project => rfl
    | user u =>
      dsimp only
      rw [resolveMembership_same (h u huser)]

/-- `IsOrgAdmin` looks at the memberships of the user alone. -/
theorem isOrgAdmin_same {request : Request} (h : SameMemberships db₁ db₂ request) :
    isOrgAdmin env db₂ request = isOrgAdmin env db₁ request := by
  unfold isOrgAdmin
  rw [getRequestOrganization_same h]

/-- A permission looks at the memberships of the user alone. -/
theorem Permission.check_same {permission : Permission} {request : Request}
    (h : SameMemberships db₁ db₂ request) :
    permission.check env db₂ request = permission.check env db₁ request := by
  cases permission with
  | isAuthenticated => rfl
  | isHuman => rfl
  | isOrgAdmin => exact isOrgAdmin_same h
  | projectAccess =>
    change Chargeflow.projectAccess env db₂ request = Chargeflow.projectAccess env db₁ request
    unfold Chargeflow.projectAccess
    rw [isOrgAdmin_same h]

/-- The permissions look at the memberships of the user alone. -/
theorem checkPermissions_same {permissions : List Permission} {request : Request}
    (h : SameMemberships db₁ db₂ request) :
    checkPermissions env db₂ permissions request =
      checkPermissions env db₁ permissions request := by
  induction permissions generalizing request with
  | nil => rfl
  | cons permission rest ih =>
    unfold checkPermissions
    rw [Permission.check_same h]
    cases hcheck : permission.check env db₁ request with
    | error e => rfl
    | ok result =>
      obtain ⟨granted, request'⟩ := result
      simp only [ok_bind]
      rw [ih (h.sequel (Permission.check_sequel hcheck))]

/-- The throttle looks at the memberships of the user alone. -/
theorem throttle_same {request : Request} (h : SameMemberships db₁ db₂ request) :
    throttle env db₂ request = throttle env db₁ request := by
  unfold throttle
  rw [getRequestOrganization_same h]

/-- Everything before the handler goes the same way. -/
theorem initial_same {viewSet : ViewSet} {request : Request}
    (h : SamePrincipal env db₁ db₂ request now) :
    initial env db₂ db₂ db₂ viewSet request now = initial env db₁ db₁ db₁ viewSet request now := by
  unfold initial
  rw [h.authenticate]
  cases hauthenticate : authenticate env db₁ request now with
  | error e => rfl
  | ok request₁ =>
    have hsame := h.memberships request₁ hauthenticate
    simp only [ok_bind]
    rw [checkPermissions_same hsame]
    cases hcheck : checkPermissions env db₁ viewSet.permissions request₁ with
    | error e => rfl
    | ok request₂ =>
      simp only [ok_bind]
      rw [throttle_same (hsame.sequel (checkPermissions_sequel hcheck))]

end Chargeflow
