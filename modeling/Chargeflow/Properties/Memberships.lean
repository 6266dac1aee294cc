import Chargeflow.System.Memberships
import Chargeflow.Properties.Authorization

/-!
# Where members come from

An acceptance reads its invitation without locking it, so that two acceptances may both find it
unused.  They are acceptances of one user all the same, whose address is the one of the invitation
in lower case, and a user is a member of an organization once.
-/

namespace Chargeflow

open Foundation

variable {env : AccountsEnv} {sys : AccountsSys}

/-- An organization has one owner, who created it; all other members have accepted an invitation
to their role that was sent to their address and had not expired; nobody is a member twice; and an
invitation makes one membership at most. -/
theorem membership_provenance (h : Reaches (AccountsStep env) .empty sys) :
    (∀ o ∈ sys.db.organizations, ∃ m ∈ sys.db.memberships,
      (m.organizationId = o.id ∧ m.role = .owner ∧ m.userId = o.ownerId) ∧
      ∀ n ∈ sys.db.memberships, n.organizationId = o.id → n.role = .owner → n = m) ∧
    (∀ m ∈ sys.db.memberships, m.role ≠ .owner → ∃ a ∈ sys.acceptances, a.membershipId = m.id ∧
      ∃ i ∈ sys.db.invitations, ∃ u ∈ sys.db.users, i.id = a.invitationId ∧ u.id = m.userId ∧
        i.organizationId = m.organizationId ∧ i.role = m.role ∧
        env.characters.lower i.email = env.characters.lower u.email ∧
        a.checkedAt ≤ i.expiresAt) ∧
    (∀ m ∈ sys.db.memberships, ∀ n ∈ sys.db.memberships,
      m.organizationId = n.organizationId → m.userId = n.userId → m = n) ∧
    ∀ a ∈ sys.acceptances, ∀ b ∈ sys.acceptances, a.invitationId = b.invitationId →
      a.membershipId = b.membershipId := by
  have hdb := (AccountsSys.sound_of_reaches h).db
  refine ⟨?_, ?_, ?_, fun a ha b hb => hdb.membership_unique ha hb⟩
  · intro o ho
    obtain ⟨m, hm, horganization, hrole, hcreator⟩ := hdb.owner o ho
    refine ⟨m, hm, ⟨horganization, hrole, hcreator⟩, ?_⟩
    intro n hn hno hnrole
    exact hdb.oneOwner n hn m hm (hno.trans horganization.symm) hnrole hrole
  · intro m hm hrole
    obtain ⟨a, ha, hid⟩ := hdb.origin m hm hrole
    obtain ⟨m', i, u, hexplains⟩ := hdb.explained a ha
    obtain rfl : m' = m :=
      Table.eq_of_key_eq hexplains.membership hm (hexplains.membershipId.trans hid)
    exact ⟨a, ha, hid, i, hexplains.invitation, u, hexplains.user, hexplains.invitationId,
      hexplains.userId, hexplains.organizationId, hexplains.role, hexplains.email,
      hexplains.unexpired⟩
  · intro m hm n hn horganization huser
    exact hdb.members m hm n hn (Prod.ext horganization huser)

/-! ## A sample -/

/-- The owner of a project. -/
def ada : User := ⟨1, "ada@example.com", true⟩

/-- The user she invites. -/
def grace : User := ⟨2, "grace@example.com", true⟩

/-- What she sends, when she is logged in. -/
def adaRequest : Request := ⟨.post, "Token 9944b09199c62bcf", none, .user ada, none, none⟩

/-- The membership she is resolved to. -/
def adaMembership : OrganizationMembership := ⟨1, 1, 1, .owner, sampleTime 0 0⟩

/-- The invitation as it is sent. -/
def graceInvitation : Invitation :=
  ⟨1, 1, "Grace@Example.com", .admin, "token",
    { sampleTime 0 0 with date := ⟨2024, 1, 8, by decide⟩ }, none, sampleTime 0 0⟩

/-- Both users are registered. -/
def registeredAccounts : Accounts :=
  { Accounts.empty with
    users := (Table.empty.insert ada).insert grace
    tokens := [⟨"9944b09199c62bcf", 1⟩, ⟨"27c48d53a6f9cb25", 2⟩] }

/-- One of them has created an organization. -/
def createdAccounts : Accounts :=
  { registeredAccounts with
    organizations := Table.empty.insert ⟨0, 1, "Engines"⟩
    memberships := Table.empty.insert adaMembership
    apiKeys := (ApiKey.createForOrganization sampleAccountsEnv registeredAccounts 1 "Default" none
      .readWrite "cf_key" (sampleTime 0 0)).1.apiKeys }

/-- She has invited the other one. -/
def invitedAccounts : Accounts :=
  { createdAccounts with invitations := Table.empty.insert graceInvitation }

/-- Who is a member now. -/
def joinedAccounts : Accounts :=
  { invitedAccounts with
    memberships := invitedAccounts.memberships.insert ⟨0, 1, 2, .admin, sampleTime 0 1⟩
    invitations := invitedAccounts.invitations.update
      { graceInvitation with acceptedAt := some (sampleTime 0 1) } }

/-- The sample with a registered user is reached. -/
theorem registeredAccounts_reached :
    Reaches (AccountsStep sampleAccountsEnv) .empty ⟨registeredAccounts, [], []⟩ := by
  have hvalidAda : validateEmail sampleAccountsEnv .empty " Ada@Example.com" =
      .ok "ada@example.com" := by decide +kernel
  have hada : normalizeEmail sampleAccountsEnv "ada@example.com" = "ada@example.com" := by
    decide +kernel
  have hvalidGrace : validateEmail sampleAccountsEnv { Accounts.empty with
      users := Table.empty.insert ada
      tokens := [⟨"9944b09199c62bcf", 1⟩] } "grace@example.com" = .ok "grace@example.com" := by
    decide +kernel
  have hgrace : normalizeEmail sampleAccountsEnv "grace@example.com" = "grace@example.com" := by
    decide +kernel
  have hcreateAda : createUser sampleAccountsEnv .empty "ada@example.com" "9944b09199c62bcf" =
      .ok ({ Accounts.empty with
        users := Table.empty.insert ada
        tokens := [⟨"9944b09199c62bcf", 1⟩] }, ada) := by
    unfold createUser
    rw [hada]
    rfl
  have hcreateGrace : createUser sampleAccountsEnv { Accounts.empty with
      users := Table.empty.insert ada
      tokens := [⟨"9944b09199c62bcf", 1⟩] } "grace@example.com" "27c48d53a6f9cb25" =
      .ok (registeredAccounts, grace) := by
    unfold createUser
    rw [hgrace]
    rfl
  exact (((Relation.ReflTransGen.refl.tail (.register [] [] hvalidAda)).tail
    (.createUser (n := 0) [] rfl hcreateAda)).tail (.register [] [] hvalidGrace)).tail
    (.createUser (n := 0) [] rfl hcreateGrace)

/-- The sample with a second member is reached. -/
theorem joinedAccounts_reached : Reaches (AccountsStep sampleAccountsEnv) .empty
    ⟨joinedAccounts, [], [⟨1, 2, sampleTime 0 1⟩]⟩ := by
  have hcreate : createOrganization sampleAccountsEnv registeredAccounts ada "Engines" "cf_key"
      (sampleTime 0 0) = .ok createdAccounts := rfl
  have hpermitted : checkPermissions sampleAccountsEnv createdAccounts
      ViewSet.invitations.permissions adaRequest =
      .ok { adaRequest with membership := some adaMembership } := rfl
  have horganization : getRequestOrganization sampleAccountsEnv createdAccounts
      { adaRequest with membership := some adaMembership } =
      .ok (some 1, { adaRequest with membership := some adaMembership }) := rfl
  have hdata : invitationData sampleAccountsEnv "Grace@Example.com" "admin" =
      .ok ("Grace@Example.com", .admin) := by decide +kernel
  have hinvitee : checkNotMember sampleAccountsEnv createdAccounts 1 "Grace@Example.com" =
      .ok () := by decide +kernel
  have hissue : Invitation.createForOrganization createdAccounts 1 "Grace@Example.com" .admin
      "token" (sampleTime 0 0) = .ok invitedAccounts := rfl
  have hload : loadInvitation sampleAccountsEnv invitedAccounts grace "token" (sampleTime 0 1) =
      .ok graceInvitation := by
    have hfilter : (invitedAccounts.invitations.filter fun i => i.token == "token") =
        [graceInvitation] := rfl
    unfold loadInvitation
    rw [hfilter]
    dsimp only
    rw [if_neg (by decide), if_neg (by decide +kernel), if_neg (by decide +kernel)]
  have hmember : checkNewMember invitedAccounts grace graceInvitation = .ok () := rfl
  have hjoin : joinOrganization invitedAccounts grace graceInvitation (sampleTime 0 1) =
      .ok joinedAccounts := rfl
  have hmemAda : ada ∈ registeredAccounts.users := .head _
  have hmemGrace : grace ∈ invitedAccounts.users := .tail _ (.head _)
  exact (((((((registeredAccounts_reached.tail (.createOrganization [] [] hmemAda hcreate)).tail
    (.invite [] [] hpermitted horganization hdata)).tail
    (.checkInvitee (n := 0) [] rfl hinvitee)).tail (.issue (n := 0) [] rfl hissue)).tail
    (.load [] [] hmemGrace hload)).tail (.checkMember (n := 0) [] rfl hmember)).tail
    (.join (n := 0) [] rfl hjoin))

/-- The invited user is an administrator because of the invitation. -/
theorem membership_provenance_joined : ∃ m ∈ joinedAccounts.memberships, m.role = .admin ∧
    ∃ i ∈ joinedAccounts.invitations, i.organizationId = m.organizationId ∧ i.role = .admin := by
  obtain ⟨-, horigin, -⟩ := membership_provenance joinedAccounts_reached
  have hmem : (⟨2, 1, 2, .admin, sampleTime 0 1⟩ : OrganizationMembership) ∈
      joinedAccounts.memberships := Table.mem_insert_self
  obtain ⟨a, -, -, i, hi, u, -, -, -, horganization, hrole, -⟩ := horigin _ hmem (by decide)
  exact ⟨_, hmem, rfl, i, hi, horganization, hrole⟩

end Chargeflow
