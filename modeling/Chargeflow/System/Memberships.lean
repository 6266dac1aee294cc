import Chargeflow.Api.Accounts

/-!
# Memberships under concurrent requests

Any number of registrations, creations of organizations, invitations and acceptances run at once,
each of them between two of its statements.  A call that raises, or whose connection is lost, leaves
nothing behind.  The log remembers which acceptance made which membership.
-/

namespace Chargeflow

open Foundation

/-- A request to the account API that is under way, after some of its statements. -/
inductive ViewCall where
  /-- A registration whose email was accepted. -/
  | registering (email : String)
  /-- An invitation by an administrator of the organization, with valid data. -/
  | inviting (organizationId : ℕ) (email : String) (role : Role)
  /-- The invitee is not a member. -/
  | issuing (organizationId : ℕ) (email : String) (role : Role)
  /-- An acceptance that has read its invitation and found it valid. -/
  | accepting (user : User) (invitation : Invitation) (checkedAt : DateTime)
  /-- The user is not a member. -/
  | joining (user : User) (invitation : Invitation) (checkedAt : DateTime)

/-- An acceptance that was committed. -/
structure Acceptance where
  invitationId : ℕ
  membershipId : ℕ
  /-- When it was checked that the invitation had not expired. -/
  checkedAt : DateTime

/-- The accounts, the requests under way, and the acceptances that were committed. -/
structure AccountsSys where
  db : Accounts
  calls : List ViewCall
  acceptances : List Acceptance

/-- No request was made. -/
def AccountsSys.empty : AccountsSys := ⟨Accounts.empty, [], []⟩

variable {env : AccountsEnv}

/-- The next statements of a request. -/
inductive AccountsStep (env : AccountsEnv) : AccountsSys → AccountsSys → Prop
  | register {db : Accounts} (calls : List ViewCall) (log : List Acceptance) {data email : String}
      (h : validateEmail env db data = .ok email) :
      AccountsStep env ⟨db, calls, log⟩ ⟨db, calls ++ [.registering email], log⟩
  | createUser {db db' : Accounts} {calls : List ViewCall} (log : List Acceptance) {n : ℕ}
      {email tokenKey : String} {user : User} (hc : calls[n]? = some (.registering email))
      (h : createUser env db email tokenKey = .ok (db', user)) :
      AccountsStep env ⟨db, calls, log⟩ ⟨db', calls.eraseIdx n, log⟩
  | createOrganization {db db' : Accounts} (calls : List ViewCall) (log : List Acceptance)
      {user : User} {name rawKey : String} {now : DateTime} (huser : user ∈ db.users)
      (h : createOrganization env db user name rawKey now = .ok db') :
      AccountsStep env ⟨db, calls, log⟩ ⟨db', calls, log⟩
  | invite {db : Accounts} (calls : List ViewCall) (log : List Acceptance)
      {request request₁ request₂ : Request} {organizationId : ℕ} {data roleData email : String}
      {role : Role}
      (hpermitted : checkPermissions env db ViewSet.invitations.permissions request = .ok request₁)
      (horganization : getRequestOrganization env db request₁ = .ok (some organizationId, request₂))
      (hdata : invitationData env data roleData = .ok (email, role)) :
      AccountsStep env ⟨db, calls, log⟩ ⟨db, calls ++ [.inviting organizationId email role], log⟩
  | checkInvitee {db : Accounts} {calls : List ViewCall} (log : List Acceptance) {n : ℕ}
      {organizationId : ℕ} {email : String} {role : Role}
      (hc : calls[n]? = some (.inviting organizationId email role))
      (h : checkNotMember env db organizationId email = .ok ()) :
      AccountsStep env ⟨db, calls, log⟩ ⟨db, calls.set n (.issuing organizationId email role), log⟩
  | issue {db db' : Accounts} {calls : List ViewCall} (log : List Acceptance) {n : ℕ}
      {organizationId : ℕ} {email token : String} {role : Role} {now : DateTime}
      (hc : calls[n]? = some (.issuing organizationId email role))
      (h : Invitation.createForOrganization db organizationId email role token now = .ok db') :
      AccountsStep env ⟨db, calls, log⟩ ⟨db', calls.eraseIdx n, log⟩
  | load {db : Accounts} (calls : List ViewCall) (log : List Acceptance) {user : User}
      {token : String} {now : DateTime} {invitation : Invitation} (huser : user ∈ db.users)
      (h : loadInvitation env db user token now = .ok invitation) :
      AccountsStep env ⟨db, calls, log⟩ ⟨db, calls ++ [.accepting user invitation now], log⟩
  | checkMember {db : Accounts} {calls : List ViewCall} (log : List Acceptance) {n : ℕ}
      {user : User} {invitation : Invitation} {checkedAt : DateTime}
      (hc : calls[n]? = some (.accepting user invitation checkedAt))
      (h : checkNewMember db user invitation = .ok ()) :
      AccountsStep env ⟨db, calls, log⟩ ⟨db, calls.set n (.joining user invitation checkedAt), log⟩
  | join {db db' : Accounts} {calls : List ViewCall} (log : List Acceptance) {n : ℕ} {user : User}
      {invitation : Invitation} {checkedAt now : DateTime}
      (hc : calls[n]? = some (.joining user invitation checkedAt))
      (h : joinOrganization db user invitation now = .ok db') :
      AccountsStep env ⟨db, calls, log⟩
        ⟨db', calls.eraseIdx n, log ++ [⟨invitation.id, db.memberships.next, checkedAt⟩]⟩
  /-- A request raises, or its connection is lost. -/
  | stop (db : Accounts) (calls : List ViewCall) (log : List Acceptance) (n : ℕ) :
      AccountsStep env ⟨db, calls, log⟩ ⟨db, calls.eraseIdx n, log⟩

/-! ## What the insertions leave behind -/

/-- What the insertion of a membership has checked. -/
theorem insertMembership_eq_ok {db db' : Accounts} {m : OrganizationMembership}
    (h : insertMembership db m = .ok db') :
    db' = { db with memberships := db.memberships.insert m } ∧
      (∀ n ∈ db.memberships, n.organizationId = m.organizationId → n.userId ≠ m.userId) ∧
      (m.role = .owner → ∀ n ∈ db.memberships, n.organizationId = m.organizationId →
        n.role ≠ .owner) := by
  unfold insertMembership at h
  split_ifs at h with hmember howner
  refine ⟨(Except.ok.inj h).symm, ?_, ?_⟩
  · intro n hn horganization huser
    exact hmember (Table.any_eq_true.mpr ⟨n, hn, by simp [horganization, huser]⟩)
  · intro hrole n hn horganization hnrole
    refine howner ?_
    simp only [hrole, BEq.rfl, Bool.true_and, Table.any_eq_true]
    exact ⟨n, hn, by simp [horganization, hnrole]⟩

/-- What the insertion of a user has checked. -/
theorem insertUser_eq_ok {db db' : Accounts} {u : User} (h : insertUser db u = .ok db') :
    db' = { db with users := db.users.insert u } ∧ ∀ v ∈ db.users, v.email ≠ u.email := by
  unfold insertUser at h
  split_ifs at h with htaken
  refine ⟨(Except.ok.inj h).symm, ?_⟩
  intro v hv heq
  exact htaken (Table.any_eq_true.mpr ⟨v, hv, beq_iff_eq.mpr heq⟩)

/-- The terms of an invitation: everything but its acceptance. -/
structure Invitation.SameTerms (i j : Invitation) : Prop where
  id : j.id = i.id
  organizationId : j.organizationId = i.organizationId
  email : j.email = i.email
  role : j.role = i.role
  expiresAt : j.expiresAt = i.expiresAt

/-- An invitation has its own terms. -/
theorem Invitation.SameTerms.refl (i : Invitation) : i.SameTerms i := ⟨rfl, rfl, rfl, rfl, rfl⟩

/-- Equal terms are transitive. -/
theorem Invitation.SameTerms.trans {i j k : Invitation} (h : i.SameTerms j) (h' : j.SameTerms k) :
    i.SameTerms k :=
  ⟨h'.id.trans h.id, h'.organizationId.trans h.organizationId, h'.email.trans h.email,
    h'.role.trans h.role, h'.expiresAt.trans h.expiresAt⟩

/-- Users, organizations and memberships are only added, and invitations keep their terms. -/
structure Accounts.Grows (db db' : Accounts) : Prop where
  users : ∀ u ∈ db.users, u ∈ db'.users
  organizations : ∀ o ∈ db.organizations, o ∈ db'.organizations
  memberships : ∀ m ∈ db.memberships, m ∈ db'.memberships
  invitations : ∀ i ∈ db.invitations, ∃ j ∈ db'.invitations, i.SameTerms j

/-- The accounts grow by nothing. -/
theorem Accounts.Grows.refl (db : Accounts) : db.Grows db :=
  ⟨fun _ => id, fun _ => id, fun _ => id, fun i hi => ⟨i, hi, .refl i⟩⟩

/-! ## What the parts of a view leave behind -/

/-- Normalizing an address keeps it in lower case. -/
theorem small_normalizeEmail {email : String} (h : ∀ c ∈ email.toList, env.characters.Small c) :
    ∀ c ∈ (normalizeEmail env email).toList, env.characters.Small c := by
  intro c hc
  unfold normalizeEmail at hc
  dsimp only at hc
  split at hc
  case h_1 => exact h c hc
  case h_2 at_ name hrest =>
    rw [String.toList_append, String.toList_ofList] at hc
    rcases List.mem_append.mp hc with hname | hdomain
    · have hmem : c ∈ at_ :: name := by
        rcases List.mem_append.mp hname with hname | hat
        · exact List.mem_cons_of_mem _ (List.mem_reverse.mp hname)
        · rw [List.mem_singleton.mp hat]
          exact List.mem_cons_self
      rw [← hrest] at hmem
      have hreversed := (List.dropWhile_sublist _).mem hmem
      exact h c (CaseTable.mem_of_mem_strip (List.mem_reverse.mp hreversed))
    · exact CaseTable.small_of_mem_lower c hdomain

/-- What `create_user` inserts. -/
theorem createUser_eq_ok {db db' : Accounts} {email tokenKey : String} {user : User}
    (h : createUser env db email tokenKey = .ok (db', user)) : ∃ address tokens,
      db' = { db with users := db.users.insert ⟨0, address, true⟩, tokens := tokens } ∧
      address = normalizeEmail env email ∧ ∀ v ∈ db.users, v.email ≠ address := by
  obtain ⟨db₁, hinsert, h⟩ := bind_eq_ok_iff.mp h
  obtain ⟨rfl, hnew⟩ := insertUser_eq_ok hinsert
  dsimp only at hnew
  split at h
  · cases h
  · obtain ⟨hdb, -⟩ := Prod.mk.inj (pure_eq_ok_iff.mp h)
    exact ⟨normalizeEmail env email, _, hdb.symm, rfl, hnew⟩

/-- What `create_organization` inserts. -/
theorem createOrganization_eq_ok {db db' : Accounts} {user : User} {name rawKey : String}
    {now : DateTime} (h : createOrganization env db user name rawKey now = .ok db') : ∃ apiKeys,
      db' = { db with
        organizations := db.organizations.insert ⟨0, user.id, name⟩
        memberships := db.memberships.insert ⟨0, db.organizations.next, user.id, .owner, now⟩
        apiKeys := apiKeys } ∧
      (∀ m ∈ db.memberships, m.organizationId = db.organizations.next → m.userId ≠ user.id) ∧
      ∀ m ∈ db.memberships, m.organizationId = db.organizations.next → m.role ≠ .owner := by
  obtain ⟨db₁, hinsert, h⟩ := bind_eq_ok_iff.mp h
  obtain ⟨rfl, hmember, howner⟩ := insertMembership_eq_ok hinsert
  obtain rfl := pure_eq_ok_iff.mp h
  exact ⟨_, rfl, hmember, howner rfl⟩

/-- What `create_for_organization` inserts. -/
theorem Invitation.createForOrganization_eq_ok {db db' : Accounts} {organizationId : ℕ}
    {email token : String} {role : Role} {now : DateTime}
    (h : Invitation.createForOrganization db organizationId email role token now = .ok db') :
    ∃ i : Invitation, db' = { db with invitations := db.invitations.insert i } ∧ i.role = role := by
  unfold Invitation.createForOrganization insertInvitation at h
  split at h
  case h_1 => cases h
  split at h
  case isTrue => cases h
  exact ⟨_, (Except.ok.inj h).symm, rfl⟩

/-- What joining an organization writes. -/
theorem joinOrganization_eq_ok {db db' : Accounts} {user : User} {invitation : Invitation}
    {now : DateTime} (h : joinOrganization db user invitation now = .ok db') :
    ∃ row ∈ db.invitations, row.id = invitation.id ∧ db' = { db with
        memberships := db.memberships.insert
          ⟨0, invitation.organizationId, user.id, invitation.role, now⟩
        invitations := db.invitations.update { row with acceptedAt := some now } } ∧
      ∀ m ∈ db.memberships, m.organizationId = invitation.organizationId → m.userId ≠ user.id := by
  obtain ⟨db₁, hinsert, h⟩ := bind_eq_ok_iff.mp h
  obtain ⟨rfl, hmember, -⟩ := insertMembership_eq_ok hinsert
  split at h
  case h_2 => cases h
  rename_i row hrow
  obtain rfl := pure_eq_ok_iff.mp h
  obtain ⟨hmem, hid⟩ := Table.get?_eq_some_iff.mp hrow
  exact ⟨row, hmem, hid, rfl, hmember⟩

/-- The serializer admits no OWNER. -/
theorem invitationData_eq_ok {data roleData email : String} {role : Role}
    (h : invitationData env data roleData = .ok (email, role)) : role ≠ .owner := by
  unfold invitationData at h
  dsimp only at h
  split_ifs at h
  · obtain ⟨-, rfl⟩ := Prod.mk.inj (Except.ok.inj h)
    decide
  · obtain ⟨-, rfl⟩ := Prod.mk.inj (Except.ok.inj h)
    decide

/-- What `_load_invitation` has checked. -/
theorem loadInvitation_eq_ok {db : Accounts} {user : User} {token : String} {now : DateTime}
    {invitation : Invitation} (h : loadInvitation env db user token now = .ok invitation) :
    invitation ∈ db.invitations ∧ now ≤ invitation.expiresAt ∧
      env.characters.lower invitation.email = env.characters.lower user.email := by
  unfold loadInvitation at h
  split at h
  case h_1 => cases h
  case h_3 => cases h
  rename_i i hfilter
  split_ifs at h with haccepted hexpired hemail
  obtain rfl := Except.ok.inj h
  obtain ⟨hmem, -⟩ := Table.mem_filter.mp (hfilter ▸ List.mem_singleton_self i)
  exact ⟨hmem, not_lt.mp hexpired, not_not.mp hemail⟩

/-! ## The invariant -/

/-- An invitation that an acceptance has found valid for a user. -/
structure Valid (env : AccountsEnv) (db : Accounts) (user : User) (invitation : Invitation)
    (checkedAt : DateTime) : Prop where
  stored : user ∈ db.users
  issued : ∃ row ∈ db.invitations, invitation.SameTerms row
  email : env.characters.lower invitation.email = env.characters.lower user.email
  unexpired : checkedAt ≤ invitation.expiresAt

/-- What is known about a request that is under way. -/
def ViewCall.Sound (env : AccountsEnv) (db : Accounts) : ViewCall → Prop
  | registering email => ∀ c ∈ email.toList, env.characters.Small c
  | inviting _ _ role => role ≠ .owner
  | issuing _ _ role => role ≠ .owner
  | accepting user invitation checkedAt => Valid env db user invitation checkedAt
  | joining user invitation checkedAt => Valid env db user invitation checkedAt

/-- Where a membership comes from that an acceptance has made. -/
structure Acceptance.Explains (env : AccountsEnv) (db : Accounts) (a : Acceptance)
    (m : OrganizationMembership) (i : Invitation) (u : User) : Prop where
  membership : m ∈ db.memberships
  invitation : i ∈ db.invitations
  user : u ∈ db.users
  membershipId : m.id = a.membershipId
  invitationId : i.id = a.invitationId
  userId : u.id = m.userId
  organizationId : i.organizationId = m.organizationId
  role : i.role = m.role
  email : env.characters.lower i.email = env.characters.lower u.email
  unexpired : a.checkedAt ≤ i.expiresAt

/-- Memberships have an origin, and users have one address each, in lower case. -/
structure Accounts.Sound (env : AccountsEnv) (db : Accounts) (log : List Acceptance) : Prop where
  small : ∀ u ∈ db.users, ∀ c ∈ u.email.toList, env.characters.Small c
  emails : db.users.Unique User.email
  members : db.memberships.Unique fun m => (m.organizationId, m.userId)
  owner : ∀ o ∈ db.organizations, ∃ m ∈ db.memberships,
    m.organizationId = o.id ∧ m.role = .owner ∧ m.userId = o.ownerId
  oneOwner : ∀ m ∈ db.memberships, ∀ n ∈ db.memberships, m.organizationId = n.organizationId →
    m.role = .owner → n.role = .owner → m = n
  invited : ∀ i ∈ db.invitations, i.role ≠ .owner
  origin : ∀ m ∈ db.memberships, m.role ≠ .owner → ∃ a ∈ log, a.membershipId = m.id
  explained : ∀ a ∈ log, ∃ m i u, a.Explains env db m i u

/-- The database is sound, and so are the requests under way. -/
structure AccountsSys.Sound (env : AccountsEnv) (sys : AccountsSys) : Prop where
  db : sys.db.Sound env sys.acceptances
  calls : ∀ c ∈ sys.calls, c.Sound env sys.db

variable {sys sys' : AccountsSys} {db db' : Accounts}

/-- An invitation stays valid while the accounts grow. -/
theorem Valid.grows {user : User} {invitation : Invitation} {checkedAt : DateTime}
    (h : Valid env db user invitation checkedAt) (hgrows : db.Grows db') :
    Valid env db' user invitation checkedAt := by
  obtain ⟨row, hrow, hterms⟩ := h.issued
  obtain ⟨row', hrow', hterms'⟩ := hgrows.invitations row hrow
  exact ⟨hgrows.users user h.stored, ⟨row', hrow', hterms.trans hterms'⟩, h.email, h.unexpired⟩

/-- What is known about a request stays while the accounts grow. -/
theorem ViewCall.Sound.grows {c : ViewCall} (h : c.Sound env db) (hgrows : db.Grows db') :
    c.Sound env db' := by
  cases c with
  | registering | inviting | issuing => exact h
  | accepting | joining => exact Valid.grows h hgrows

/-- An acceptance explains its membership while the accounts grow. -/
theorem Acceptance.Explains.grows {a : Acceptance} {m : OrganizationMembership} {i : Invitation}
    {u : User} (h : a.Explains env db m i u) (hgrows : db.Grows db') :
    ∃ i', a.Explains env db' m i' u := by
  obtain ⟨i', hi', hterms⟩ := hgrows.invitations i h.invitation
  exact ⟨i', hgrows.memberships m h.membership, hi', hgrows.users u h.user, h.membershipId,
    hterms.id.trans h.invitationId, h.userId, hterms.organizationId.trans h.organizationId,
    hterms.role.trans h.role, hterms.email ▸ h.email, hterms.expiresAt ▸ h.unexpired⟩

/-! ## One view after the other -/

namespace Accounts.Sound

variable {log : List Acceptance}

/-- Without accounts, all is sound. -/
theorem empty (env : AccountsEnv) : Accounts.Sound env .empty [] := by
  constructor <;> simp [Accounts.empty, Table.Unique]

/-- The explanations of the memberships survive. -/
theorem explained_grows (h : db.Sound env log) (hgrows : db.Grows db') :
    ∀ a ∈ log, ∃ m i u, a.Explains env db' m i u := by
  intro a ha
  obtain ⟨m, i, u, hexplains⟩ := h.explained a ha
  obtain ⟨i', hexplains'⟩ := hexplains.grows hgrows
  exact ⟨m, i', u, hexplains'⟩

/-- `create_user` keeps the accounts sound. -/
theorem createUser (h : db.Sound env log) {email tokenKey : String} {user : User}
    (hemail : ∀ c ∈ email.toList, env.characters.Small c)
    (hrun : Chargeflow.createUser env db email tokenKey = .ok (db', user)) :
    db'.Sound env log ∧ db.Grows db' := by
  obtain ⟨address, tokens, rfl, haddress, hnew⟩ := createUser_eq_ok hrun
  have hsmall : ∀ c ∈ address.toList, env.characters.Small c := by
    rw [haddress]
    exact small_normalizeEmail hemail
  clear haddress
  have hgrows : db.Grows { db with
      users := db.users.insert ⟨0, address, true⟩
      tokens := tokens } :=
    ⟨fun _ => Table.mem_insert_of_mem, fun _ => id, fun _ => id, fun i hi => ⟨i, hi, .refl i⟩⟩
  refine ⟨⟨?_, h.emails.insert rfl hnew, h.members, h.owner, h.oneOwner, h.invited, h.origin,
    h.explained_grows hgrows⟩, hgrows⟩
  intro u hu
  rcases Table.mem_insert.mp hu with hu | rfl
  · exact h.small u hu
  · exact hsmall

/-- `create_organization` keeps the accounts sound. -/
theorem createOrganization (h : db.Sound env log) {user : User} {name rawKey : String}
    {now : DateTime} (hrun : Chargeflow.createOrganization env db user name rawKey now = .ok db') :
    db'.Sound env log ∧ db.Grows db' := by
  obtain ⟨apiKeys, rfl, hmember, howner⟩ := createOrganization_eq_ok hrun
  have hgrows : db.Grows { db with
      organizations := db.organizations.insert ⟨0, user.id, name⟩
      memberships := db.memberships.insert ⟨0, db.organizations.next, user.id, .owner, now⟩
      apiKeys := apiKeys } :=
    ⟨fun _ => id, fun _ => Table.mem_insert_of_mem, fun _ => Table.mem_insert_of_mem,
      fun i hi => ⟨i, hi, .refl i⟩⟩
  refine ⟨⟨h.small, h.emails, h.members.insert rfl ?_, ?_, ?_, h.invited, ?_,
    h.explained_grows hgrows⟩, hgrows⟩
  · intro m hm heq
    obtain ⟨horganization, huser⟩ := Prod.mk.inj heq
    exact hmember m hm horganization huser
  · intro o ho
    rcases Table.mem_insert.mp ho with ho | rfl
    · obtain ⟨m, hm, hrest⟩ := h.owner o ho
      exact ⟨m, Table.mem_insert_of_mem hm, hrest⟩
    · exact ⟨_, Table.mem_insert_self, rfl, rfl, rfl⟩
  · intro m hm n hn heq hmrole hnrole
    rcases Table.mem_insert.mp hm with hm | rfl <;> rcases Table.mem_insert.mp hn with hn | rfl
    · exact h.oneOwner m hm n hn heq hmrole hnrole
    · exact absurd hmrole (howner m hm heq)
    · exact absurd hnrole (howner n hn heq.symm)
    · rfl
  · intro m hm hrole
    rcases Table.mem_insert.mp hm with hm | rfl
    · exact h.origin m hm hrole
    · exact absurd rfl hrole

/-- An invitation of another role than OWNER keeps the accounts sound. -/
theorem issueInvitation (h : db.Sound env log) {organizationId : ℕ} {email token : String}
    {role : Role} {now : DateTime} (hrole : role ≠ .owner)
    (hrun : Invitation.createForOrganization db organizationId email role token now = .ok db') :
    db'.Sound env log ∧ db.Grows db' := by
  obtain ⟨i, rfl, rfl⟩ := Invitation.createForOrganization_eq_ok hrun
  have hgrows : db.Grows { db with invitations := db.invitations.insert i } :=
    ⟨fun _ => id, fun _ => id, fun _ => id,
      fun j hj => ⟨j, Table.mem_insert_of_mem hj, .refl j⟩⟩
  refine ⟨⟨h.small, h.emails, h.members, h.owner, h.oneOwner, ?_, h.origin,
    h.explained_grows hgrows⟩, hgrows⟩
  intro j hj
  rcases Table.mem_insert.mp hj with hj | rfl
  · exact h.invited j hj
  · exact hrole

/-- Joining with a valid invitation keeps the accounts sound and logs the acceptance. -/
theorem joinOrganization (h : db.Sound env log) {user : User} {invitation : Invitation}
    {checkedAt now : DateTime} (hvalid : Valid env db user invitation checkedAt)
    (hrun : Chargeflow.joinOrganization db user invitation now = .ok db') :
    db'.Sound env (log ++ [⟨invitation.id, db.memberships.next, checkedAt⟩]) ∧ db.Grows db' := by
  obtain ⟨row, hrow, hid, rfl, hmember⟩ := joinOrganization_eq_ok hrun
  obtain ⟨issued, hissued, hterms⟩ := hvalid.issued
  obtain rfl : row = issued := Table.eq_of_key_eq hrow hissued (hid.trans hterms.id.symm)
  have hkey : key { row with acceptedAt := some now } = key row := rfl
  have hrole : invitation.role ≠ .owner := hterms.role ▸ h.invited row hrow
  have hgrows : db.Grows { db with
      memberships := db.memberships.insert
        ⟨0, invitation.organizationId, user.id, invitation.role, now⟩
      invitations := db.invitations.update { row with acceptedAt := some now } } := by
    refine ⟨fun _ => id, fun _ => id, fun _ => Table.mem_insert_of_mem, ?_⟩
    intro i hi
    rcases Table.exists_mem_update hrow hkey hi with ⟨-, hold⟩ | ⟨rfl, hnew⟩
    · exact ⟨i, hold, .refl i⟩
    · exact ⟨_, hnew, rfl, rfl, rfl, rfl, rfl⟩
  refine ⟨⟨h.small, h.emails, h.members.insert rfl ?_, ?_, ?_, ?_, ?_, ?_⟩, hgrows⟩
  · intro m hm heq
    obtain ⟨horganization, huser⟩ := Prod.mk.inj heq
    exact hmember m hm horganization huser
  · intro o ho
    obtain ⟨m, hm, hrest⟩ := h.owner o ho
    exact ⟨m, Table.mem_insert_of_mem hm, hrest⟩
  · intro m hm n hn heq hmrole hnrole
    rcases Table.mem_insert.mp hm with hm | rfl <;> rcases Table.mem_insert.mp hn with hn | rfl
    · exact h.oneOwner m hm n hn heq hmrole hnrole
    · exact absurd hnrole hrole
    · exact absurd hmrole hrole
    · rfl
  · intro i hi
    rcases (Table.mem_update_of_mem hrow hkey).mp hi with rfl | ⟨hold, -⟩
    · exact h.invited row hrow
    · exact h.invited i hold
  · intro m hm hmrole
    rcases Table.mem_insert.mp hm with hm | rfl
    · obtain ⟨a, ha, hid⟩ := h.origin m hm hmrole
      exact ⟨a, List.mem_append_left _ ha, hid⟩
    · exact ⟨_, List.mem_append_right _ (List.mem_singleton_self _), rfl⟩
  · intro a ha
    rcases List.mem_append.mp ha with ha | ha
    · exact h.explained_grows hgrows a ha
    · obtain rfl := List.mem_singleton.mp ha
      obtain ⟨row', hrow', hterms'⟩ := hgrows.invitations row hrow
      have hall := hterms.trans hterms'
      exact ⟨_, row', user, Table.mem_insert_self, hrow', hvalid.stored, rfl, hall.id, rfl,
        hall.organizationId, hall.role, hall.email ▸ hvalid.email,
        hall.expiresAt ▸ hvalid.unexpired⟩

end Accounts.Sound

/-! ## Every interleaving -/

/-- What is known about the requests stays while the accounts grow. -/
theorem calls_grows {calls : List ViewCall} (h : ∀ c ∈ calls, c.Sound env db)
    (hgrows : db.Grows db') : ∀ c ∈ calls, c.Sound env db' :=
  fun c hc => (h c hc).grows hgrows

/-- A new request joins the others. -/
theorem calls_append {calls : List ViewCall} (h : ∀ c ∈ calls, c.Sound env db) {c' : ViewCall}
    (hc' : c'.Sound env db) : ∀ c ∈ calls ++ [c'], c.Sound env db := by
  intro c hc
  rcases List.mem_append.mp hc with hc | hc
  · exact h c hc
  · rwa [List.mem_singleton.mp hc]

/-- A request goes on beside the others. -/
theorem calls_set {calls : List ViewCall} (h : ∀ c ∈ calls, c.Sound env db) (n : ℕ) {c' : ViewCall}
    (hc' : c'.Sound env db) : ∀ c ∈ calls.set n c', c.Sound env db := by
  intro c hc
  rcases List.mem_or_eq_of_mem_set hc with hc | rfl
  · exact h c hc
  · exact hc'

/-- A request ends beside the others. -/
theorem calls_eraseIdx {calls : List ViewCall} (h : ∀ c ∈ calls, c.Sound env db) (n : ℕ) :
    ∀ c ∈ calls.eraseIdx n, c.Sound env db :=
  fun c hc => h c (List.mem_of_mem_eraseIdx hc)

/-- An address that the serializer returns is in lower case. -/
theorem small_of_validateEmail {data email : String}
    (h : validateEmail env db data = .ok email) :
    ∀ c ∈ email.toList, env.characters.Small c := by
  unfold validateEmail at h
  dsimp only at h
  split_ifs at h
  obtain rfl := Except.ok.inj h
  exact CaseTable.small_of_mem_lower

/-- A step of a request keeps the accounts sound. -/
theorem AccountsSys.Sound.step (h : sys.Sound env) (hstep : AccountsStep env sys sys') :
    sys'.Sound env := by
  obtain ⟨hdb, hcalls⟩ := h
  cases hstep with
  | register calls log hemail =>
    exact ⟨hdb, calls_append hcalls (small_of_validateEmail hemail)⟩
  | createUser log hc hrun =>
    have hemail := hcalls _ (List.mem_of_getElem? hc)
    obtain ⟨hdb', hgrows⟩ := hdb.createUser hemail hrun
    exact ⟨hdb', calls_eraseIdx (calls_grows hcalls hgrows) _⟩
  | createOrganization calls log huser hrun =>
    obtain ⟨hdb', hgrows⟩ := hdb.createOrganization hrun
    exact ⟨hdb', calls_grows hcalls hgrows⟩
  | invite calls log hpermitted horganization hdata =>
    exact ⟨hdb, calls_append hcalls (invitationData_eq_ok hdata)⟩
  | checkInvitee log hc hcheck =>
    have hrole := hcalls _ (List.mem_of_getElem? hc)
    exact ⟨hdb, calls_set hcalls _ hrole⟩
  | issue log hc hrun =>
    have hrole := hcalls _ (List.mem_of_getElem? hc)
    obtain ⟨hdb', hgrows⟩ := hdb.issueInvitation hrole hrun
    exact ⟨hdb', calls_eraseIdx (calls_grows hcalls hgrows) _⟩
  | load calls log huser hload =>
    obtain ⟨hissued, hunexpired, hemail⟩ := loadInvitation_eq_ok hload
    exact ⟨hdb, calls_append hcalls ⟨huser, ⟨_, hissued, .refl _⟩, hemail, hunexpired⟩⟩
  | checkMember log hc hcheck =>
    have hvalid := hcalls _ (List.mem_of_getElem? hc)
    exact ⟨hdb, calls_set hcalls _ hvalid⟩
  | join log hc hrun =>
    have hvalid := hcalls _ (List.mem_of_getElem? hc)
    obtain ⟨hdb', hgrows⟩ := hdb.joinOrganization hvalid hrun
    exact ⟨hdb', calls_eraseIdx (calls_grows hcalls hgrows) _⟩
  | stop db calls log n => exact ⟨hdb, calls_eraseIdx hcalls n⟩

/-- Along a run the accounts stay sound. -/
theorem AccountsSys.sound_of_reaches (h : Reaches (AccountsStep env) .empty sys) :
    sys.Sound env := by
  refine h.invariant ⟨Accounts.Sound.empty env, ?_⟩ fun _ _ _ hsound hstep => hsound.step hstep
  intro c hc
  cases hc

/-! ## One membership for an invitation -/

/-- Two acceptances of an invitation are one: the addresses of both users are the address of the
invitation in lower case, so it is one user, who is a member once. -/
theorem Accounts.Sound.membership_unique {log : List Acceptance} (h : db.Sound env log)
    {a b : Acceptance} (ha : a ∈ log) (hb : b ∈ log) (hid : a.invitationId = b.invitationId) :
    a.membershipId = b.membershipId := by
  obtain ⟨m, i, u, hm⟩ := h.explained a ha
  obtain ⟨n, j, v, hn⟩ := h.explained b hb
  obtain rfl : i = j := Table.eq_of_key_eq hm.invitation hn.invitation
    (hm.invitationId.trans (hid.trans hn.invitationId.symm))
  have hemail : u.email = v.email :=
    calc u.email = env.characters.lower u.email :=
          (CaseTable.lower_of_small (h.small u hm.user)).symm
      _ = env.characters.lower v.email := hm.email.symm.trans hn.email
      _ = v.email := CaseTable.lower_of_small (h.small v hn.user)
  obtain rfl : u = v := h.emails u hm.user v hn.user hemail
  have hmember : (m.organizationId, m.userId) = (n.organizationId, n.userId) := by
    rw [← hm.organizationId, ← hn.organizationId, ← hm.userId, ← hn.userId]
  obtain rfl : m = n := h.members m hm.membership n hn.membership hmember
  exact hm.membershipId.symm.trans hn.membershipId

end Chargeflow
