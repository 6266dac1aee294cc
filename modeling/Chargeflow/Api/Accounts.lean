import Chargeflow.Api.Requests

/-!
# Registration, organizations and invitations

The views of the account API that create users, organizations, invitations and memberships, split at
the statements between which other requests may run.  Each part works on the database as its
statements find it; the writes of a view are committed together.
-/

namespace Chargeflow

open Foundation

/-! ## Registration -/

/-- `RegisterSerializer.validate_email`, after the checks of the email field. -/
def validateEmail (env : AccountsEnv) (db : Accounts) (data : String) : Except ApiErr String :=
  let value := env.characters.strip data
  if !env.validEmail value then
    .error (.validationError "email" "Enter a valid email address.")
  else if db.users.any fun u => env.iexact u.email (env.characters.strip value) then
    .error (.validationError "email" "This email is already registered.")
  else
    .ok (env.characters.lower (env.characters.strip value))

/-- `UserManager.normalize_email`: the domain, which follows the last `@`, in lower case. -/
def normalizeEmail (env : AccountsEnv) (email : String) : String :=
  let reversed := (env.characters.strip email).toList.reverse
  match reversed.dropWhile (· != '@') with
  | [] => email
  | at_ :: name => String.ofList (name.reverse ++ [at_]) ++
      env.characters.lower (String.ofList (reversed.takeWhile (· != '@')).reverse)

/-- `create_user`, and the login token of the new user. -/
def createUser (env : AccountsEnv) (db : Accounts) (email tokenKey : String) :
    Except ApiErr (Accounts × User) := do
  let user : User := ⟨0, normalizeEmail env email, true⟩
  let db' ← insertUser db user
  if db'.tokens.any fun t => t.key == tokenKey then .error (.integrityError "key") else
  let user := withKey db.users.next user
  return ({ db' with tokens := db'.tokens ++ [⟨tokenKey, user.id⟩] }, user)

/-! ## Organizations -/

/-- `ApiKey.create_for_organization`. -/
def ApiKey.createForOrganization (env : AccountsEnv) (db : Accounts) (organizationId : ℕ)
    (name : String) (expiresAt : Option DateTime) (scope : Scope) (rawKey : String)
    (now : DateTime) : Accounts × ApiKey :=
  let k : ApiKey := ⟨0, organizationId, scope, name, String.ofList (rawKey.toList.take 12),
    env.sha256 rawKey, now, expiresAt, false⟩
  ({ db with apiKeys := db.apiKeys.insert k }, withKey db.apiKeys.next k)

/-- `OrganizationViewSet.create`. -/
def createOrganization (env : AccountsEnv) (db : Accounts) (user : User) (name rawKey : String)
    (now : DateTime) : Except ApiErr Accounts := do
  let organizationId := db.organizations.next
  let db := { db with organizations := db.organizations.insert ⟨0, user.id, name⟩ }
  let db ← insertMembership db ⟨0, organizationId, user.id, .owner, now⟩
  return (ApiKey.createForOrganization env db organizationId "Default" none .readWrite rawKey now).1

/-! ## Invitations -/

/-- `InvitationCreateSerializer`: the email without blanks around it, and a role to invite for. -/
def invitationData (env : AccountsEnv) (email role : String) : Except ApiErr (String × Role) := do
  let email := env.characters.strip email
  if !env.validEmail email then
    .error (.validationError "email" "Enter a valid email address.")
  else if role == "admin" then
    .ok (email, .admin)
  else if role == "member" then
    .ok (email, .member)
  else
    .error (.validationError "role" ("\"" ++ role ++ "\" is not a valid choice."))

/-- The check that nobody with this email is a member yet. -/
def checkNotMember (env : AccountsEnv) (db : Accounts) (organizationId : ℕ) (email : String) :
    Except ApiErr Unit :=
  if db.memberships.any fun m => m.organizationId == organizationId &&
      db.users.any fun u => u.id == m.userId && env.iexact u.email email then
    .error (.validationError "email" "This user is already a member of this organization.")
  else
    .ok ()

/-- `Invitation.create_for_organization`. -/
def Invitation.createForOrganization (db : Accounts) (organizationId : ℕ) (email : String)
    (role : Role) (token : String) (now : DateTime) : Except ApiErr Accounts :=
  match DateTime.addDays 7 now with
  | none => .error .overflowError
  | some expiresAt =>
    insertInvitation db ⟨0, organizationId, email, role, token, expiresAt, none, now⟩

/-! ## Acceptance -/

/-- The first part of `AcceptInvitationView.post`: the invitation is read and checked. -/
def loadInvitation (env : AccountsEnv) (db : Accounts) (user : User) (token : String)
    (now : DateTime) : Except ApiErr Invitation :=
  match db.invitations.filter fun i => i.token == token with
  | [] => .error (.validationError "token" "Invalid invitation token.")
  | [invitation] =>
    if invitation.acceptedAt.isSome then
      .error (.validationError "token" "This invitation has already been accepted.")
    else if invitation.expiresAt < now then
      .error (.validationError "token" "This invitation has expired.")
    else if env.characters.lower invitation.email ≠ env.characters.lower user.email then
      .error (.validationError "token" "This invitation was sent to a different email address.")
    else
      .ok invitation
  | _ => .error (.multipleObjectsReturned "Invitation")

/-- The second part: the user is not a member yet. -/
def checkNewMember (db : Accounts) (user : User) (invitation : Invitation) : Except ApiErr Unit :=
  if db.memberships.any fun m =>
      m.organizationId == invitation.organizationId && m.userId == user.id then
    .error (.validationError "token" "You are already a member of this organization.")
  else
    .ok ()

/-- The last part: the membership is created, and the invitation is marked as accepted. -/
def joinOrganization (db : Accounts) (user : User) (invitation : Invitation) (now : DateTime) :
    Except ApiErr Accounts := do
  let db ← insertMembership db ⟨0, invitation.organizationId, user.id, invitation.role, now⟩
  match db.invitations.get? invitation.id with
  | some row =>
    return { db with invitations := db.invitations.update { row with acceptedAt := some now } }
  | none => .error (.doesNotExist "Invitation")

/-- `AcceptInvitationView.post`, when no other request runs in between. -/
def acceptInvitation (env : AccountsEnv) (db : Accounts) (user : User) (token : String)
    (now : DateTime) : Except ApiErr Accounts := do
  let invitation ← loadInvitation env db user token now
  checkNewMember db user invitation
  joinOrganization db user invitation now

end Chargeflow
