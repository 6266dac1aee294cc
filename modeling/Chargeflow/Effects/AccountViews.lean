import Chargeflow.Api.AccountViews

/-!
# What the views of users leave behind

Registration, login and the acceptance of an invitation issue no key, and a new organization gets
its first one.
-/

namespace Chargeflow

open Foundation

variable {env : AccountsEnv} {db db' : Accounts}

/-- No key was issued or revoked, and no organization was created. -/
structure SameKeys (db db' : Accounts) : Prop where
  apiKeys : db'.apiKeys = db.apiKeys
  organizations : db'.organizations = db.organizations

/-- A new membership leaves organizations and keys alone. -/
theorem insertMembership_sameKeys {m : OrganizationMembership}
    (h : insertMembership db m = .ok db') : SameKeys db db' := by
  unfold insertMembership at h
  split_ifs at h
  obtain rfl := Except.ok.inj h
  exact ⟨rfl, rfl⟩

/-- A registration leaves organizations and keys alone. -/
theorem RegisterView.post_sameKeys {data tokenKey : String} {result : Accounts × String × ℕ × String}
    (h : RegisterView.post env db data tokenKey = .ok result) : SameKeys db result.1 := by
  obtain ⟨email, -, h⟩ := bind_eq_ok_iff.mp h
  obtain ⟨⟨db₁, user⟩, hcreate, h⟩ := bind_eq_ok_iff.mp h
  obtain rfl := pure_eq_ok_iff.mp h
  obtain ⟨db₂, hinsert, hcreate⟩ := bind_eq_ok_iff.mp hcreate
  unfold insertUser at hinsert
  split_ifs at hinsert
  obtain rfl := Except.ok.inj hinsert
  split_ifs at hcreate
  obtain ⟨rfl, -⟩ := Prod.mk.inj (pure_eq_ok_iff.mp hcreate)
  exact ⟨rfl, rfl⟩

/-- A login leaves organizations and keys alone. -/
theorem LoginView.post_sameKeys {env : ServerEnv} {data password tokenKey : String}
    {result : Accounts × String} (h : LoginView.post env db data password tokenKey = .ok result) :
    SameKeys db result.1 := by
  unfold LoginView.post at h
  dsimp only at h
  split at h
  case isTrue => cases h
  split at h
  case h_1 => cases h
  obtain ⟨⟨db₁, token⟩, htoken, h⟩ := bind_eq_ok_iff.mp h
  obtain rfl := pure_eq_ok_iff.mp h
  unfold getOrCreateToken at htoken
  split at htoken
  case h_1 =>
    obtain ⟨rfl, -⟩ := Prod.mk.inj (Except.ok.inj htoken)
    exact ⟨rfl, rfl⟩
  split_ifs at htoken
  obtain ⟨rfl, -⟩ := Prod.mk.inj (Except.ok.inj htoken)
  exact ⟨rfl, rfl⟩

/-- A view for people runs for a user. -/
theorem asUser_eq_ok {α : Type} {request : Request} {view : User → Except ApiErr α} {a : α}
    (h : asUser request view = .ok a) : ∃ user, request.user = .user user ∧ view user = .ok a := by
  unfold asUser at h
  split at h
  case h_1 user huser => exact ⟨user, huser, h⟩
  case h_2 => cases h

/-- The acceptance of an invitation leaves organizations and keys alone. -/
theorem AcceptInvitationView.post_sameKeys {request : Request} {token : String} {now : DateTime}
    (h : AcceptInvitationView.post env db request token now = .ok db') : SameKeys db db' := by
  obtain ⟨request', -, h⟩ := bind_eq_ok_iff.mp h
  obtain ⟨user, -, h⟩ := asUser_eq_ok h
  obtain ⟨invitation, -, h⟩ := bind_eq_ok_iff.mp h
  obtain ⟨-, -, h⟩ := bind_eq_ok_iff.mp h
  obtain ⟨db₁, hinsert, h⟩ := bind_eq_ok_iff.mp h
  have hsame := insertMembership_sameKeys hinsert
  split at h
  case h_2 => cases h
  obtain rfl := pure_eq_ok_iff.mp h
  exact ⟨hsame.apiKeys, hsame.organizations⟩

/-- The first key of a new organization. -/
theorem OrganizationViewSet.create_keys {request : Request} {name rawKey : String} {now : DateTime}
    (h : OrganizationViewSet.create env db request name rawKey now = .ok db') :
    db'.apiKeys = (ApiKey.createForOrganization env db db.organizations.next "Default" none
        .readWrite rawKey now).1.apiKeys ∧
      db'.organizations.next = db.organizations.next + 1 := by
  obtain ⟨request', -, h⟩ := bind_eq_ok_iff.mp h
  obtain ⟨user, -, h⟩ := asUser_eq_ok h
  obtain ⟨db₁, hinsert, h⟩ := bind_eq_ok_iff.mp h
  obtain rfl := pure_eq_ok_iff.mp h
  have hsame := insertMembership_sameKeys hinsert
  refine ⟨?_, ?_⟩
  · simp only [ApiKey.createForOrganization, hsame.apiKeys]
  · simp only [ApiKey.createForOrganization, hsame.organizations]
    rfl

end Chargeflow
