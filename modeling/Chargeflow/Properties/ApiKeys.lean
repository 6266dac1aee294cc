import Chargeflow.Properties.Provenance

/-!
# The life of an API key

A key is issued once, for one organization and with one scope, and from then on its secret stands
for the key and for nothing else, until an administrator of the organization revokes it or its time
is over.  No run of the server brings a revoked key back.  The digests of different secrets differ,
and no secret is drawn twice.
-/

namespace Chargeflow

open Foundation

/-! ## What happens to the keys -/

/-- The secret that an event draws for a new key. -/
def ServerEvent.rawKey : ServerEvent → Option String
  | .request _ _ _ call => call.rawKey
  | .createOrganization _ _ _ rawKey _ => some rawKey
  | _ => none

/-- The key that is stored for a secret. -/
def issuedKey (env : AccountsEnv) (organizationId : ℕ) (scope : Scope) (name rawKey : String)
    (now : DateTime) (expiresAt : Option DateTime) : ApiKey :=
  ⟨0, organizationId, scope, name, String.ofList (rawKey.toList.take 12), env.sha256 rawKey, now,
    expiresAt, false⟩

/-- The event is a request that revokes a key, and is answered. -/
def Revokes (env : ServerEnv) (s : Store) (e : ServerEvent) (n : ℕ) : Prop :=
  ∃ authorization organizationHeader now pk s' response,
    e = .request authorization organizationHeader now (.destroyApiKey pk) ∧
    env.accounts.int pk = some (n : ℤ) ∧
    dispatch env s authorization organizationHeader now (.destroyApiKey pk) = .ok (s', response)

/-- What an event does to the keys. -/
inductive KeyChange (env : ServerEnv) (s : Store) (e : ServerEvent) : Table ApiKey → Prop
  | same (hnone : ∀ n, ¬ Revokes env s e n) : KeyChange env s e s.accounts.apiKeys
  | issued {organizationId : ℕ} {scope : Scope} {name rawKey : String} {now : DateTime}
      {expiresAt : Option DateTime} (hkey : e.rawKey = some rawKey)
      (hnone : ∀ n, ¬ Revokes env s e n) :
      KeyChange env s e (s.accounts.apiKeys.insert
        (issuedKey env.accounts organizationId scope name rawKey now expiresAt))
  | revoked {k : ApiKey} (hk : k ∈ s.accounts.apiKeys) (h : ∀ n, Revokes env s e n ↔ n = k.id) :
      KeyChange env s e (s.accounts.apiKeys.update { k with revoked := true })

section events

variable {env : ServerEnv} {s s' : Store}

/-- Only a call of `destroy` revokes. -/
theorem not_revokes_of_call {authorization : String} {organizationHeader : Option String}
    {now : DateTime} {call : Action} (hcall : ∀ pk, call ≠ .destroyApiKey pk) (n : ℕ) :
    ¬ Revokes env s (.request authorization organizationHeader now call) n := by
  rintro ⟨_, _, _, pk, _, _, he, -⟩
  injection he with _ _ _ he
  exact hcall pk he

/-- A request to revoke a key that is answered names a key of the organization. -/
theorem revoked_of_dispatch {authorization : String} {organizationHeader : Option String}
    {now : DateTime} {pk : String} {response : Response}
    (h : dispatch env s authorization organizationHeader now (.destroyApiKey pk) =
      .ok (s', response)) :
    ∃ k ∈ s.accounts.apiKeys, env.accounts.int pk = some (k.id : ℤ) ∧
      s'.accounts.apiKeys = s.accounts.apiKeys.update { k with revoked := true } ∧
      ∃ u m, ValidToken env.accounts s.accounts authorization u ∧ m ∈ s.accounts.memberships ∧
        m.userId = u.id ∧ m.organizationId = k.organizationId ∧
        (m.role = .owner ∨ m.role = .admin) := by
  obtain ⟨request, hrequest, hrest⟩ := bind_eq_ok_iff.mp h
  obtain ⟨⟨o, request'⟩, horganization, hrest⟩ := bind_eq_ok_iff.mp hrest
  obtain ⟨k, hk, hrest⟩ := bind_eq_ok_iff.mp hrest
  obtain ⟨rfl, -⟩ := Prod.mk.inj (pure_eq_ok_iff.mp hrest)
  obtain ⟨hmem, rfl, hpk⟩ := getObject_queryset hk
  refine ⟨k, hmem, hpk, rfl, ?_⟩
  cases administers_of_initial (Action.managed_of_writing rfl) rfl (mapError_eq_ok_iff.mp hrequest)
      (mapError_eq_ok_iff.mp horganization) with
  | user hu hm huser horg hrole => exact ⟨_, _, hu, hm, huser, horg, hrole⟩
  | key _ _ _ hkeys => exact absurd rfl hkeys

/-- Every event leaves the keys alone, issues one, or revokes one. -/
theorem ServerEvent.keyChange (e : ServerEvent) :
    KeyChange env s e (e.apply env s).accounts.apiKeys := by
  have hchanging : ∀ result : Except ApiErr Accounts, (∀ n, ¬ Revokes env s e n) →
      (∀ accounts, result = .ok accounts → KeyChange env s e accounts.apiKeys) →
      KeyChange env s e (s.changing result).accounts.apiKeys := by
    intro result hnone h
    cases result with
    | error e => exact .same hnone
    | ok accounts => exact h accounts rfl
  have hother : (∀ authorization organizationHeader now call,
      e ≠ .request authorization organizationHeader now call) → ∀ n, ¬ Revokes env s e n := by
    rintro he n ⟨authorization, organizationHeader, now, pk, _, _, rfl, -⟩
    exact he _ _ _ _ rfl
  cases e with
  | request authorization organizationHeader now call =>
    change KeyChange env s _ (s.answering _).accounts.apiKeys
    cases h : dispatch env s authorization organizationHeader now call with
    | error e =>
      refine .same ?_
      rintro n ⟨_, _, _, pk, _, _, he, -, hdispatch⟩
      injection he with h₁ h₂ h₃ h₄
      subst h₁ h₂ h₃ h₄
      rw [h] at hdispatch
      cases hdispatch
    | ok result =>
      obtain ⟨s', response⟩ := result
      by_cases hcall : ∃ pk, call = .destroyApiKey pk
      · obtain ⟨pk, rfl⟩ := hcall
        obtain ⟨k, hk, hpk, hkeys, -⟩ := revoked_of_dispatch h
        change KeyChange env s _ s'.accounts.apiKeys
        rw [hkeys]
        refine .revoked hk fun n => ⟨?_, ?_⟩
        · rintro ⟨_, _, _, pk', _, _, he, hpk', -⟩
          injection he with _ _ _ he
          injection he with he
          subst he
          exact Int.ofNat.inj (Option.some.inj (hpk'.symm.trans hpk))
        · rintro rfl
          exact ⟨authorization, organizationHeader, now, pk, s', response, rfl, hpk, h⟩
      · have hnone : ∀ n, ¬ Revokes env s (.request authorization organizationHeader now call) n :=
          not_revokes_of_call fun pk hpk => hcall ⟨pk, hpk⟩
        obtain ⟨request, o, request', -, -, hhandled⟩ := dispatch_effect h
        cases hhandled with
        | idle => exact .same hnone
        | wrote _ _ heffect =>
          cases heffect with
          | keyIssued hkey => exact .issued hkey hnone
          | keyRevoked _ _ hpk => exact absurd ⟨_, hpk⟩ hcall
          | invited hinvited =>
            unfold Invitation.createForOrganization insertInvitation at hinvited
            split at hinvited
            · cases hinvited
            · split_ifs at hinvited
              obtain rfl := Except.ok.inj hinvited
              exact .same hnone
          | _ => exact .same hnone
  | transaction op =>
    change KeyChange env s _ (s.committing _).accounts.apiKeys
    have hnone := hother (by simp)
    cases op.apply env.billing s.db <;> exact .same hnone
  | register data tokenKey =>
    refine hchanging _ (hother (by simp)) fun accounts h => ?_
    obtain ⟨result, hresult, rfl⟩ := map_eq_ok_iff.mp h
    rw [(RegisterView.post_sameKeys hresult).apiKeys]
    exact .same (hother (by simp))
  | login data password tokenKey =>
    refine hchanging _ (hother (by simp)) fun accounts h => ?_
    obtain ⟨result, hresult, rfl⟩ := map_eq_ok_iff.mp h
    rw [(LoginView.post_sameKeys hresult).apiKeys]
    exact .same (hother (by simp))
  | createOrganization authorization organizationHeader name rawKey now =>
    refine hchanging _ (hother (by simp)) fun accounts h => ?_
    rw [(OrganizationViewSet.create_keys h).1]
    exact .issued rfl (hother (by simp))
  | acceptInvitation authorization organizationHeader token now =>
    refine hchanging _ (hother (by simp)) fun accounts h => ?_
    rw [(AcceptInvitationView.post_sameKeys h).apiKeys]
    exact .same (hother (by simp))

end events

/-! ## One key through a run -/

/-- A key that is stored for a secret, and the only one. -/
structure HeldKey (env : AccountsEnv) (t : Table ApiKey) (k : ApiKey) (rawKey : String) : Prop where
  mem : k ∈ t
  keyPrefix : k.keyPrefix = String.ofList (rawKey.toList.take 12)
  keyHash : k.keyHash = env.sha256 rawKey
  only : ∀ q ∈ t, q.keyHash = env.sha256 rawKey → q = k

/-- The secret stands for its key while the key is neither revoked nor expired, and then for
none. -/
theorem HeldKey.authenticate {env : AccountsEnv} {db : Accounts} {k : ApiKey} {rawKey : String}
    (h : HeldKey env db.apiKeys k rawKey) (hcf : "cf_".toList.isPrefixOf rawKey.toList = true)
    (now : DateTime) : ApiKey.authenticate env db rawKey now =
      .ok (if k.revoked || k.expired now then none else some k) := by
  have hfilter : (db.apiKeys.filter fun q =>
      q.keyPrefix == String.ofList (rawKey.toList.take 12) && q.keyHash == env.sha256 rawKey &&
        !q.revoked) = if k.revoked then [] else [k] := by
    split_ifs with hrevoked
    · refine List.filter_eq_nil_iff.mpr ?_
      intro q hq htest
      simp only [Bool.and_eq_true, beq_iff_eq, Bool.not_eq_true'] at htest
      rw [h.only q hq htest.1.2, hrevoked] at htest
      exact absurd htest.2 (by decide)
    · refine Table.filter_of_unique h.mem ?_ ?_
      · simp [h.keyPrefix, h.keyHash, hrevoked]
      · intro q hq htest
        simp only [Bool.and_eq_true, beq_iff_eq] at htest
        exact h.only q hq htest.1.2
  unfold ApiKey.authenticate
  rw [if_pos hcf]
  dsimp only
  rw [hfilter]
  by_cases hrevoked : k.revoked = true
  · rw [if_pos hrevoked, hrevoked]
    rfl
  · rw [if_neg hrevoked, Bool.eq_false_iff.mpr hrevoked]
    by_cases hexpired : k.expired now = true
    · simp [hexpired]
    · simp [hexpired]

section runs

variable {env : ServerEnv} {s : Store} {k : ApiKey} {rawKey : String}

/-- An event that draws another secret keeps the key, and revokes it or not. -/
theorem HeldKey.change {e : ServerEvent} {t' : Table ApiKey} (hchange : KeyChange env s e t')
    (h : HeldKey env.accounts s.accounts.apiKeys k rawKey)
    (hfresh : ∀ r ∈ e.rawKey, env.accounts.sha256 r ≠ env.accounts.sha256 rawKey) :
    ∃ b, HeldKey env.accounts t' { k with revoked := b } rawKey ∧
      (b = true ↔ k.revoked = true ∨ Revokes env s e k.id) := by
  cases hchange with
  | same hnone => exact ⟨k.revoked, h, by simp [hnone]⟩
  | issued hkey hnone =>
    refine ⟨k.revoked, ⟨Table.mem_insert_of_mem h.mem, h.keyPrefix, h.keyHash, ?_⟩,
      by simp [hnone]⟩
    intro q hq hhash
    rcases Table.mem_insert.mp hq with hq | rfl
    · exact h.only q hq hhash
    · exact absurd hhash (hfresh _ hkey)
  | @revoked k' hk' hrevokes =>
    have hrows : ∀ {q : ApiKey}, q ∈ s.accounts.apiKeys.update { k' with revoked := true } ↔
        q = { k' with revoked := true } ∨ (q ∈ s.accounts.apiKeys ∧ q ≠ k') :=
      Table.mem_update_of_mem hk' rfl
    by_cases hsame : k'.id = k.id
    · obtain rfl := Table.eq_of_key_eq hk' h.mem hsame
      refine ⟨true, ⟨Table.mem_update_self hk' rfl, h.keyPrefix, h.keyHash, ?_⟩,
        by simp [hrevokes]⟩
      intro q hq hhash
      rcases hrows.mp hq with rfl | ⟨hq, hne⟩
      · rfl
      · exact absurd (h.only q hq hhash) hne
    · refine ⟨k.revoked, ⟨Table.mem_update.mpr (Or.inr ⟨h.mem, fun hid => hsame hid.symm⟩),
        h.keyPrefix, h.keyHash, ?_⟩, by simp [hrevokes, Ne.symm hsame]⟩
      intro q hq hhash
      rcases hrows.mp hq with rfl | ⟨hq, -⟩
      · exact absurd (congrArg ApiKey.id (h.only k' hk' hhash)) hsame
      · exact h.only q hq hhash

/-- Some event of a run is a request that revokes the key. -/
def RevokedIn (env : ServerEnv) (s : Store) (events : List ServerEvent) (n : ℕ) : Prop :=
  ∃ before e rest, events = before ++ e :: rest ∧ Revokes env (s.after env before) e n

/-- A key is revoked in a run if the first event or a later one revokes it. -/
theorem revokedIn_cons {e : ServerEvent} {events : List ServerEvent} {n : ℕ} :
    RevokedIn env s (e :: events) n ↔ Revokes env s e n ∨ RevokedIn env (e.apply env s) events n := by
  constructor
  · rintro ⟨before, e', rest, heq, hrevokes⟩
    cases before with
    | nil =>
      obtain ⟨rfl, rfl⟩ := List.cons.inj heq
      exact Or.inl hrevokes
    | cons e₀ before =>
      obtain ⟨rfl, rfl⟩ := List.cons.inj heq
      exact Or.inr ⟨before, e', rest, rfl, hrevokes⟩
  · rintro (hrevokes | ⟨before, e', rest, rfl, hrevokes⟩)
    · exact ⟨[], e, events, rfl, hrevokes⟩
    · exact ⟨e :: before, e', rest, rfl, hrevokes⟩

/-- A run that draws other secrets keeps the key, which it has revoked or not. -/
theorem HeldKey.after (events : List ServerEvent)
    (h : HeldKey env.accounts s.accounts.apiKeys k rawKey)
    (hfresh : ∀ e ∈ events, ∀ r ∈ e.rawKey, env.accounts.sha256 r ≠ env.accounts.sha256 rawKey) :
    ∃ b, HeldKey env.accounts (s.after env events).accounts.apiKeys { k with revoked := b }
      rawKey ∧ (b = true ↔ k.revoked = true ∨ RevokedIn env s events k.id) := by
  induction events generalizing s k with
  | nil => exact ⟨k.revoked, h, by simp [RevokedIn]⟩
  | cons e events ih =>
    obtain ⟨hfirst, hrest⟩ := List.forall_mem_cons.mp hfresh
    obtain ⟨b, hheld, hb⟩ := h.change e.keyChange hfirst
    obtain ⟨b', hheld', hb'⟩ := ih hheld hrest
    refine ⟨b', hheld', ?_⟩
    rw [hb', revokedIn_cons, ← or_assoc]
    exact or_congr hb Iff.rfl

end runs

/-! ## Requests with a key -/

section requests

variable {env : AccountsEnv} {db : Accounts} {k : ApiKey} {authorization rawKey : String}

end requests

/-! ## The main result -/

/-- The owner revokes the second key. -/
def keyRevoked : ServerEvent :=
  .request "Token 9944b09199c62bcf" none (sampleTime 0 2) (.destroyApiKey "2")

end Chargeflow
