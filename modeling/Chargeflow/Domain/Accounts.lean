import Chargeflow.Foundation.Table
import Chargeflow.Foundation.Calendar
import Chargeflow.Foundation.Casing

/-!
# Users, organizations and their members

The rows of the account tables, the database that holds them, and the unique constraints that an
insertion meets.  Passwords and names of users are left out, as nothing here reads them.
-/

namespace Chargeflow

open Foundation

/-- A row of the users. -/
structure User where
  id : ℕ
  email : String
  isActive : Bool
  deriving DecidableEq

/-- A row of the table of login tokens, which has the token as its key. -/
structure Token where
  key : String
  userId : ℕ
  deriving DecidableEq

/-- A row of the organizations. -/
structure Organization where
  id : ℕ
  ownerId : ℕ
  name : String
  deriving DecidableEq

/-- `OrganizationMembership.Role`. -/
inductive Role where
  | owner
  | admin
  | member
  deriving DecidableEq

/-- A row of the memberships: a user has a role in an organization. -/
structure OrganizationMembership where
  id : ℕ
  organizationId : ℕ
  userId : ℕ
  role : Role
  joinedAt : DateTime

/-- A row of the invitations. -/
structure Invitation where
  id : ℕ
  organizationId : ℕ
  email : String
  role : Role
  token : String
  expiresAt : DateTime
  acceptedAt : Option DateTime
  createdAt : DateTime

/-- `ApiKey.Scope`. -/
inductive Scope where
  | read
  | readWrite
  deriving DecidableEq

/-- A row of the API keys, which holds the digest of the secret. -/
structure ApiKey where
  id : ℕ
  organizationId : ℕ
  scope : Scope
  name : String
  keyPrefix : String
  keyHash : String
  createdAt : DateTime
  expiresAt : Option DateTime
  revoked : Bool

/-- The primary key of a user. -/
instance : Keyed User := ⟨User.id, fun n u => { u with id := n }, fun _ _ => rfl⟩

/-- The primary key of an organization. -/
instance : Keyed Organization := ⟨Organization.id, fun n o => { o with id := n }, fun _ _ => rfl⟩

/-- The primary key of a membership. -/
instance : Keyed OrganizationMembership :=
  ⟨OrganizationMembership.id, fun n m => { m with id := n }, fun _ _ => rfl⟩

/-- The primary key of an invitation. -/
instance : Keyed Invitation := ⟨Invitation.id, fun n i => { i with id := n }, fun _ _ => rfl⟩

/-- The primary key of an API key. -/
instance : Keyed ApiKey := ⟨ApiKey.id, fun n k => { k with id := n }, fun _ _ => rfl⟩

/-- The tables of the accounts. -/
structure Accounts where
  users : Table User
  tokens : List Token
  organizations : Table Organization
  memberships : Table OrganizationMembership
  invitations : Table Invitation
  apiKeys : Table ApiKey

/-- The accounts without rows. -/
def Accounts.empty : Accounts where
  users := Table.empty
  tokens := []
  organizations := Table.empty
  memberships := Table.empty
  invitations := Table.empty
  apiKeys := Table.empty

/-- What the accounts take from outside. -/
structure AccountsEnv where
  /-- The character database. -/
  characters : CaseTable
  /-- The comparison of texts by the database that ignores case. -/
  iexact : String → String → Bool
  /-- Whether the validator of email fields accepts a text. -/
  validEmail : String → Bool
  /-- The hexadecimal SHA-256 digest of the UTF-8 bytes of a text. -/
  sha256 : String → String
  /-- How the token authentication reads the header `Authorization`: the token, nothing if the
  header is of another scheme, or the message of its refusal. -/
  tokenOf : String → Except String (Option String)
  /-- `int` of a text. -/
  int : String → Option ℤ

/-- The exceptions that a view raises. -/
inductive ApiErr where
  | notAuthenticated
  | authenticationFailed (message : String)
  | permissionDenied (message : String)
  | validationError (field message : String)
  | notFound
  | integrityError (constraint : String)
  | overflowError
  | multipleObjectsReturned (model : String)
  | typeError
  | doesNotExist (model : String)
  deriving DecidableEq

/-! ## Unique constraints -/

/-- The insertion of a membership: a user is a member of an organization once, and an organization
has one owner. -/
def insertMembership (db : Accounts) (m : OrganizationMembership) : Except ApiErr Accounts :=
  if db.memberships.any fun n => n.organizationId == m.organizationId && n.userId == m.userId then
    .error (.integrityError "organization_id, user_id")
  else if m.role == .owner && db.memberships.any fun n =>
      n.organizationId == m.organizationId && n.role == .owner then
    .error (.integrityError "unique_org_owner")
  else
    .ok { db with memberships := db.memberships.insert m }

/-- The insertion of a user. -/
def insertUser (db : Accounts) (u : User) : Except ApiErr Accounts :=
  if db.users.any fun v => v.email == u.email then
    .error (.integrityError "email")
  else
    .ok { db with users := db.users.insert u }

/-- The insertion of an invitation. -/
def insertInvitation (db : Accounts) (i : Invitation) : Except ApiErr Accounts :=
  if db.invitations.any fun j => j.token == i.token then
    .error (.integrityError "token")
  else
    .ok { db with invitations := db.invitations.insert i }

end Chargeflow
