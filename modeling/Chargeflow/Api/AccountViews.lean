import Chargeflow.Api.ViewSets

/-!
# The views of users

Registration, login, the view of oneself, the creation of an organization and the acceptance of an
invitation, each as one request when no other request runs in between.  The password of a user is
not modelled: whether a text is the password of a user is a parameter.
-/

namespace Chargeflow

open Foundation

/-- `OrganizationSerializer`, without the stamps. -/
structure OrganizationData where
  id : ℕ
  name : String
  myRole : Option Role
  deriving DecidableEq

/-- The data of `MeView`. -/
structure MeData where
  id : ℕ
  email : String
  organization : Option OrganizationData
  role : Option Role
  deriving DecidableEq

/-! ## Registration and login -/

/-- `RegisterView.post`: the token, and the key and email of the new user. -/
def RegisterView.post (env : AccountsEnv) (db : Accounts) (data tokenKey : String) :
    Except ApiErr (Accounts × String × ℕ × String) := do
  let email ← validateEmail env db data
  let (db, user) ← createUser env db email tokenKey
  return (db, tokenKey, user.id, user.email)

/-- `Token.objects.get_or_create`. -/
def getOrCreateToken (db : Accounts) (user : User) (tokenKey : String) :
    Except ApiErr (Accounts × Token) :=
  match db.tokens.find? fun t => t.userId == user.id with
  | some token => .ok (db, token)
  | none =>
    if db.tokens.any fun t => t.key == tokenKey then .error (.integrityError "key")
    else .ok ({ db with tokens := db.tokens ++ [⟨tokenKey, user.id⟩] }, ⟨tokenKey, user.id⟩)

/-- `authenticate` of the model backend: the user with this email and password, if active. -/
def authenticatePassword (checkPassword : ℕ → String → Bool) (db : Accounts)
    (email password : String) : Option User :=
  (db.users.filter fun u => u.email == email).head?.filter fun u =>
    checkPassword u.id password && u.isActive

/-- `LoginView.post`: the token of the user. -/
def LoginView.post (env : ServerEnv) (db : Accounts) (data password tokenKey : String) :
    Except ApiErr (Accounts × String) := do
  let value := env.accounts.characters.strip data
  if !env.accounts.validEmail value then
    .error (.validationError "email" "Enter a valid email address.")
  else
    let email := env.accounts.characters.lower (env.accounts.characters.strip value)
    match authenticatePassword env.checkPassword db email password with
    | none => .error (.authenticationFailed "Invalid email or password.")
    | some user => do
      let (db, token) ← getOrCreateToken db user tokenKey
      return (db, token.key)

/-! ## Requests of users -/

/-- The request of a user to a view for people, after authentication, permission and throttle. -/
def humanRequest (env : AccountsEnv) (db : Accounts) (request : Request) (now : DateTime) :
    Except ApiErr Request := do
  let request ← authenticate env db request now
  let request ← checkPermissions env db [.isHuman] request
  return throttle env db request

/-- `get_my_role`. -/
def myRole (db : Accounts) (user : User) (organizationId : ℕ) : Option Role :=
  (db.memberships.filter fun m =>
    m.organizationId == organizationId && m.userId == user.id).head?.map OrganizationMembership.role

/-- `OrganizationSerializer`, with the role of the user who asks. -/
def organizationSerializer (db : Accounts) (user : User) (o : Organization) : OrganizationData :=
  ⟨o.id, o.name, myRole db user o.id⟩

/-- `MeView.get`: what the request is resolved to, and nothing if that raises. -/
def MeView.get (env : AccountsEnv) (db : Accounts) (request : Request) (user : User) : MeData :=
  match getRequestOrganization env db request with
  | .error _ => ⟨user.id, user.email, none, none⟩
  | .ok (organization, request) =>
    ⟨user.id, user.email,
      organization.bind fun n => (db.organizations.get? n).map (organizationSerializer db user),
      request.membership.map OrganizationMembership.role⟩

/-- The view of a person, for the user of the request. -/
def asUser {α : Type} (request : Request) (view : User → Except ApiErr α) : Except ApiErr α :=
  match request.user with
  | .user user => view user
  | _ => .error .typeError

/-- `OrganizationViewSet.create`, as a request. -/
def OrganizationViewSet.create (env : AccountsEnv) (db : Accounts) (request : Request)
    (name rawKey : String) (now : DateTime) : Except ApiErr Accounts := do
  let request ← humanRequest env db request now
  asUser request fun user => createOrganization env db user name rawKey now

/-- `AcceptInvitationView.post`, as a request. -/
def AcceptInvitationView.post (env : AccountsEnv) (db : Accounts) (request : Request)
    (token : String) (now : DateTime) : Except ApiErr Accounts := do
  let request ← humanRequest env db request now
  asUser request fun user => acceptInvitation env db user token now

end Chargeflow
