import Chargeflow.Properties.NonInterference
import Chargeflow.System.Server
import Chargeflow.Effects.AccountViews

/-!
# Who changes an organization

Every change of the rows of an organization by a request was asked for by somebody who administers
the organization, or with one of its keys that may write.  In a run of the server this holds for its
plans, its customers and its keys, whatever the worker, the scheduler, the provider and everybody
else do in between.  The billing part of the server makes steps of the billing system only, so the
rules of the books hold in every run.
-/

namespace Chargeflow

open Foundation

/-! ## The server keeps the books -/

/-- Every run of the server is a run of the billing system and deletions of plans that no
subscription has, and a whole request with the charges that it triggers is such a run.  From the
empty store, invoices and attempts agree, subscriptions agree with their invoices, keys stay unique,
and every row refers to rows of its own organization. -/
theorem server_refines_billing {env : ServerEnv} :
    (∀ (s : Store) (events : List ServerEvent),
      Reaches (BillingStep env.billing) s.db (s.after env events).db) ∧
    (∀ (s : Store) (authorization : String) (organizationHeader : Option String) (now : DateTime)
      (call : Action) (draws : ℕ → ChargeDraw), ∃ ops : List Operation,
        (∀ op ∈ ops, op.isService = true) ∧
        (serve env s authorization organizationHeader now call draws).1 = s.after env
          (.request authorization organizationHeader now call :: ops.map .transaction)) ∧
    ∀ events : List ServerEvent, Sound (Store.empty.after env events).db.books ∧
      Tenancy (Store.empty.after env events).db :=
  ⟨Store.after_billingStep, fun _ authorization organizationHeader now call draws =>
    serve_eq_after authorization organizationHeader now call draws,
    fun events => ⟨Store.after_sound events sound_empty, Store.after_tenancy events .empty⟩⟩

/-! ## Administrators -/

/-- The header of a request carries the token of an owner or administrator of an organization, or a
key of the organization that may write.  A key opens neither the keys nor the invitations. -/
inductive Administers (env : AccountsEnv) (db : Accounts) (viewSet : ViewSet)
    (authorization : String) (now : DateTime) (organizationId : ℕ) : Prop
  | user {u : User} {m : OrganizationMembership} (h : ValidToken env db authorization u)
      (hm : m ∈ db.memberships) (huser : m.userId = u.id) (horg : m.organizationId = organizationId)
      (hrole : m.role = .owner ∨ m.role = .admin) :
      Administers env db viewSet authorization now organizationId
  | key {k : ApiKey} (h : ValidKey env db authorization now k)
      (horg : k.organizationId = organizationId)
      (hscope : k.scope = .readWrite) (hkeys : viewSet ≠ .apiKeys)
      (hinvitations : viewSet ≠ .invitations) :
      Administers env db viewSet authorization now organizationId

section requests

variable {env : AccountsEnv} {db : Accounts} {viewSet : ViewSet} {method : Method}
  {authorization : String} {organizationHeader : Option String} {now : DateTime}
  {request request' : Request} {organizationId : ℕ}

/-- Sequels go both ways. -/
theorem Sequel.symm {r r' : Request} (h : Sequel r r') : Sequel r' r := by
  obtain ⟨m, rfl⟩ := h
  exact ⟨r.membership, rfl⟩

/-- A request that has passed the permissions was resolved to its organization all along. -/
theorem resolved_of_initial
    (hinitial : initial env db db db viewSet (.incoming method authorization organizationHeader) now =
      .ok request)
    (hresolved : getRequestOrganization env db request = .ok (some organizationId, request')) :
    ∃ request₁ request₂ request₃, authenticate env db
        (.incoming method authorization organizationHeader) now = .ok request₁ ∧
      checkPermissions env db viewSet.permissions request₁ = .ok request₂ ∧
      getRequestOrganization env db request₁ = .ok (some organizationId, request₃) := by
  obtain ⟨request₁, hauthenticate, hrest⟩ := bind_eq_ok_iff.mp hinitial
  obtain ⟨request₂, hcheck, -⟩ := bind_eq_ok_iff.mp hrest
  obtain ⟨request₃, hresolved₁⟩ := getRequestOrganization_of_sequel
    (initial_sequel hauthenticate hinitial).symm hresolved
  exact ⟨request₁, request₂, request₃, hauthenticate, hcheck, hresolved₁⟩

/-- Whoever passes the permissions with an unsafe method administers the organization of the
request. -/
theorem administers_of_initial (hmanaged : viewSet.managed = true) (hwrites : method.safe = false)
    (hinitial : initial env db db db viewSet (.incoming method authorization organizationHeader) now =
      .ok request)
    (hresolved : getRequestOrganization env db request = .ok (some organizationId, request')) :
    Administers env db viewSet authorization now organizationId := by
  obtain ⟨request₁, request₂, request₃, hauthenticate, hcheck, hresolved⟩ :=
    resolved_of_initial hinitial hresolved
  cases authenticated_of_authenticate hauthenticate with
  | anonymous =>
    obtain ⟨horg, -⟩ := Prod.mk.inj (Except.ok.inj hresolved)
    cases horg
  | @user u hu =>
    have hrequest : Unresolved { Request.incoming method authorization organizationHeader with
        user := .user u } := ⟨rfl, fun _ _ => rfl⟩
    cases granted_of_checkPermissions hmanaged hrequest hwrites hcheck with
    | @admin _ m huser hm hrole =>
      obtain rfl := Principal.user.inj huser
      rw [getRequestOrganization_of_user rfl rfl, hm] at hresolved
      obtain ⟨horg, -⟩ := Prod.mk.inj (Except.ok.inj hresolved)
      obtain ⟨hmem, hid⟩ := resolveMembership_eq_some hm
      exact .user hu hmem hid (Option.some.inj horg) hrole
    | writer huser => cases huser
  | @project k hk =>
    obtain ⟨horg, -⟩ := Prod.mk.inj (Except.ok.inj hresolved)
    have hrequest : Unresolved { Request.incoming method authorization organizationHeader with
        organization := some k.organizationId, user := .project k.organizationId k.scope } :=
      ⟨rfl, fun _ hu => by cases hu⟩
    cases granted_of_checkPermissions hmanaged hrequest hwrites hcheck with
    | admin huser => cases huser
    | writer huser hkeys hinvitations =>
      obtain ⟨-, hscope⟩ := Principal.project.inj huser
      exact .key hk (Option.some.inj horg) hscope hkeys hinvitations

end requests

/-- The view sets that have unsafe calls are those that change a project. -/
theorem Action.managed_of_writing {call : Action} (h : call.method.safe = false) :
    call.viewSet.managed = true := by
  cases call with
  | _ => first | rfl | cases h

/-! ## Rows that stay -/

/-- Rows of another organization stay if only those of `m` change. -/
theorem filter_of_others {α : Type} [Keyed α] {organizationId : α → ℕ} {t t' : Table α} {m n : ℕ}
    (hne : m ≠ n) (h : (t'.filter fun a => !(organizationId a == m)) =
      t.filter fun a => !(organizationId a == m)) :
    (t'.filter fun a => organizationId a == n) = t.filter fun a => organizationId a == n := by
  have hnarrow : ∀ u : Table α, (u.filter fun a => organizationId a == n) =
      (u.filter fun a => !(organizationId a == m)).filter fun a => organizationId a == n := by
    intro u
    refine Eq.trans (List.filter_congr ?_) List.filter_filter.symm
    intro a _
    by_cases ha : organizationId a = n
    · simp [ha, hne.symm]
    · simp [ha]
  rw [hnarrow t', hnarrow t, h]

/-- What leaves all organizations but `m` as they are leaves `n` as it is. -/
theorem Undisturbed.sameTenant {m n : ℕ} {s s' : Store} (h : Undisturbed m s s') (hne : m ≠ n) :
    SameTenant n s s' where
  plans := filter_of_others hne h.plans
  descriptions := fun p hp horg => h.descriptions p hp (horg ▸ hne.symm)
  customers := filter_of_others hne h.customers
  contacts := fun c hc horg => h.contacts c hc (horg ▸ hne.symm)
  subscriptions := filter_of_others hne h.subscriptions
  invoices := filter_of_others hne h.invoices
  invoiceLines := filter_of_others hne h.invoiceLines
  attempts := filter_of_others hne h.attempts
  apiKeys := filter_of_others hne h.apiKeys
  memberships := filter_of_others hne h.memberships
  invitations := filter_of_others hne h.invitations

/-- A state has the tenant of itself. -/
theorem SameTenant.refl {n : ℕ} (s : Store) : SameTenant n s s :=
  ⟨rfl, fun _ _ _ => rfl, rfl, fun _ _ _ => rfl, rfl, rfl, rfl, rfl, rfl, rfl, rfl⟩

/-- The plans, the customers and the keys of an organization are as before. -/
structure SameSettings (n : ℕ) (s s' : Store) : Prop where
  plans : (s'.db.plans.filter fun p => p.organizationId == n) =
    s.db.plans.filter fun p => p.organizationId == n
  descriptions : ∀ p ∈ s.db.plans, p.organizationId = n → s'.descriptions p.id = s.descriptions p.id
  customers : (s'.db.customers.filter fun c => c.organizationId == n) =
    s.db.customers.filter fun c => c.organizationId == n
  contacts : ∀ c ∈ s.db.customers, c.organizationId = n → s'.contacts c.id = s.contacts c.id
  apiKeys : (s'.accounts.apiKeys.filter fun k => k.organizationId == n) =
    s.accounts.apiKeys.filter fun k => k.organizationId == n

/-- A state with the same rows of a tenant has the same settings. -/
theorem SameTenant.settings {n : ℕ} {s s' : Store} (h : SameTenant n s s') :
    SameSettings n s s' :=
  ⟨h.plans, h.descriptions, h.customers, h.contacts, h.apiKeys⟩

namespace SameSettings

variable {n : ℕ} {s s' s'' : Store}

/-- A state has its own settings. -/
theorem refl (s : Store) : SameSettings n s s := (SameTenant.refl s).settings

/-- Settings that stay twice stay. -/
theorem trans (h : SameSettings n s s') (h' : SameSettings n s' s'') : SameSettings n s s'' where
  plans := h'.plans.trans h.plans
  descriptions := by
    intro p hp horg
    have hfilter : p ∈ s.db.plans.filter fun p => p.organizationId == n :=
      Table.mem_filter.mpr ⟨hp, beq_iff_eq.mpr horg⟩
    rw [← h.plans] at hfilter
    exact (h'.descriptions p (Table.mem_filter.mp hfilter).1 horg).trans (h.descriptions p hp horg)
  customers := h'.customers.trans h.customers
  contacts := by
    intro c hc horg
    have hfilter : c ∈ s.db.customers.filter fun c => c.organizationId == n :=
      Table.mem_filter.mpr ⟨hc, beq_iff_eq.mpr horg⟩
    rw [← h.customers] at hfilter
    exact (h'.contacts c (Table.mem_filter.mp hfilter).1 horg).trans (h.contacts c hc horg)
  apiKeys := h'.apiKeys.trans h.apiKeys

/-- Transactions that save no plan and no customer. -/
theorem of_service {env : Env} {op : Operation} (hservice : op.isService = true) :
    SameSettings n s (s.committing (op.apply env s.db)) := by
  cases h : op.apply env s.db with
  | error e => exact refl s
  | ok db =>
    obtain ⟨hplans, hcustomers⟩ : db.plans = s.db.plans ∧ db.customers = s.db.customers := by
      refine Operation.service_relation
        (R := fun db db' => db'.plans = db.plans ∧ db'.customers = db.customers) ?_ ?_ ?_ h hservice
      · exact fun a b c hab hbc => ⟨hbc.1.trans hab.1, hbc.2.trans hab.2⟩
      · exact fun _ _ _ => ⟨rfl, rfl⟩
      · exact fun a b hwrite => hwrite.parents
    exact ⟨congrArg (fun t : Table Plan => t.filter _) hplans, fun _ _ _ => rfl,
      congrArg (fun t : Table Customer => t.filter _) hcustomers, fun _ _ _ => rfl, rfl⟩

/-- The keys of the organization are as before, and the billing database is not touched. -/
theorem of_changing {result : Except ApiErr Accounts}
    (h : ∀ accounts, result = .ok accounts → (accounts.apiKeys.filter fun k =>
      k.organizationId == n) = s.accounts.apiKeys.filter fun k => k.organizationId == n) :
    SameSettings n s (s.changing result) := by
  cases result with
  | error e => exact refl s
  | ok accounts => exact ⟨rfl, fun _ _ _ => rfl, rfl, fun _ _ _ => rfl, h accounts rfl⟩

end SameSettings

/-! ## One request -/

section requests

variable {env : ServerEnv} {s s' : Store} {authorization : String}
  {organizationHeader : Option String} {now : DateTime} {call : Action} {response : Response}

/-- A request that is answered leaves an organization alone, or it was asked for by an
administrator. -/
theorem dispatch_provenance (htenancy : Tenancy s.db)
    (h : dispatch env s authorization organizationHeader now call = .ok (s', response)) (n : ℕ) :
    SameTenant n s s' ∨ call.method.safe = false ∧
      Administers env.accounts s.accounts call.viewSet authorization now n := by
  obtain ⟨request, o, request', hinitial, hresolved, hhandled⟩ := dispatch_effect h
  cases hhandled with
  | idle => exact Or.inl (.refl s)
  | @wrote m _ ho hmethod heffect =>
    subst ho
    by_cases hmn : m = n
    · subst hmn
      exact Or.inr ⟨hmethod, administers_of_initial (Action.managed_of_writing hmethod) hmethod
        hinitial hresolved⟩
    · obtain ⟨request₁, -, request₃, hauthenticate, -, hresolved₁⟩ :=
        resolved_of_initial hinitial hresolved
      exact Or.inl ((dispatch_undisturbed htenancy ⟨request₁, request₃, hauthenticate, hresolved₁⟩
        h).sameTenant hmn)

/-- The same for a request with the charges that it triggers. -/
theorem serve_provenance (htenancy : Tenancy s.db) (draws : ℕ → ChargeDraw) (n : ℕ) :
    SameTenant n s (serve env s authorization organizationHeader now call draws).1 ∨
      call.method.safe = false ∧
        Administers env.accounts s.accounts call.viewSet authorization now n := by
  cases h : dispatch env s authorization organizationHeader now call with
  | error e =>
    have hserve : (serve env s authorization organizationHeader now call draws).1 = s := by
      unfold serve
      rw [h]
    rw [hserve]
    exact Or.inl (.refl s)
  | ok result =>
    obtain ⟨s', response⟩ := result
    obtain ⟨request, o, request', hinitial, hresolved, hhandled⟩ := dispatch_effect h
    cases hhandled with
    | idle =>
      -- nothing was handed off
      have hserve : (serve env s authorization organizationHeader now call draws).1 = s := by
        unfold serve
        rw [h]
        simp [triggered, runCharges]
      rw [hserve]
      exact Or.inl (.refl s)
    | @wrote m _ ho hmethod heffect =>
      subst ho
      by_cases hmn : m = n
      · subst hmn
        exact Or.inr ⟨hmethod, administers_of_initial (Action.managed_of_writing hmethod) hmethod
          hinitial hresolved⟩
      · obtain ⟨request₁, -, request₃, hauthenticate, -, hresolved₁⟩ :=
          resolved_of_initial hinitial hresolved
        exact Or.inl ((serve_undisturbed htenancy
          ⟨request₁, request₃, hauthenticate, hresolved₁⟩).sameTenant hmn)

end requests

/-! ## Runs -/

section runs

variable {env : ServerEnv} {s : Store}

/-- Organizations are never deleted. -/
theorem ServerEvent.organizations_next (e : ServerEvent) :
    s.accounts.organizations.next ≤ (e.apply env s).accounts.organizations.next := by
  have hchanging : ∀ result : Except ApiErr Accounts, (∀ accounts, result = .ok accounts →
      s.accounts.organizations.next ≤ accounts.organizations.next) →
      s.accounts.organizations.next ≤ (s.changing result).accounts.organizations.next := by
    intro result h
    cases result with
    | error e => exact le_rfl
    | ok accounts => exact h accounts rfl
  cases e with
  | request authorization organizationHeader now call =>
    change _ ≤ (s.answering _).accounts.organizations.next
    cases h : dispatch env s authorization organizationHeader now call with
    | error e => exact le_rfl
    | ok result =>
      obtain ⟨s', response⟩ := result
      obtain ⟨request, o, request', -, -, hhandled⟩ := dispatch_effect h
      cases hhandled with
      | idle => exact le_rfl
      | wrote _ _ heffect =>
        cases heffect with
        | invited hinvited =>
          unfold Invitation.createForOrganization insertInvitation at hinvited
          split at hinvited
          · cases hinvited
          · split_ifs at hinvited
            obtain rfl := Except.ok.inj hinvited
            exact le_rfl
        | _ => exact le_rfl
  | transaction op =>
    change _ ≤ (s.committing _).accounts.organizations.next
    cases op.apply env.billing s.db <;> exact le_rfl
  | register data tokenKey =>
    refine hchanging _ fun accounts h => ?_
    obtain ⟨result, hresult, rfl⟩ := map_eq_ok_iff.mp h
    rw [(RegisterView.post_sameKeys hresult).organizations]
  | login data password tokenKey =>
    refine hchanging _ fun accounts h => ?_
    obtain ⟨result, hresult, rfl⟩ := map_eq_ok_iff.mp h
    rw [(LoginView.post_sameKeys hresult).organizations]
  | createOrganization authorization organizationHeader name rawKey now =>
    refine hchanging _ fun accounts h => ?_
    rw [(OrganizationViewSet.create_keys h).2]
    exact Nat.le_succ _
  | acceptInvitation authorization organizationHeader token now =>
    refine hchanging _ fun accounts h => ?_
    rw [(AcceptInvitationView.post_sameKeys h).organizations]

/-- An event leaves the settings of an organization alone, or it is a request of an
administrator. -/
theorem ServerEvent.provenance {n : ℕ} (e : ServerEvent) (htenancy : Tenancy s.db)
    (hknown : n < s.accounts.organizations.next)
    (hservice : ∀ op, e = .transaction op → op.isService = true) :
    SameSettings n s (e.apply env s) ∨ ∃ authorization organizationHeader now call,
      e = .request authorization organizationHeader now call ∧ call.method.safe = false ∧
        Administers env.accounts s.accounts call.viewSet authorization now n := by
  cases e with
  | request authorization organizationHeader now call =>
    change SameSettings n s (s.answering _) ∨ _
    cases h : dispatch env s authorization organizationHeader now call with
    | error e => exact Or.inl (.refl s)
    | ok result =>
      obtain ⟨s', response⟩ := result
      rcases dispatch_provenance htenancy h n with hsame | hadministers
      · exact Or.inl hsame.settings
      · exact Or.inr ⟨authorization, organizationHeader, now, call, rfl, hadministers⟩
  | transaction op => exact Or.inl (.of_service (hservice op rfl))
  | register data tokenKey =>
    refine Or.inl (.of_changing fun accounts h => ?_)
    obtain ⟨result, hresult, rfl⟩ := map_eq_ok_iff.mp h
    rw [(RegisterView.post_sameKeys hresult).apiKeys]
  | login data password tokenKey =>
    refine Or.inl (.of_changing fun accounts h => ?_)
    obtain ⟨result, hresult, rfl⟩ := map_eq_ok_iff.mp h
    rw [(LoginView.post_sameKeys hresult).apiKeys]
  | createOrganization authorization organizationHeader name rawKey now =>
    refine Or.inl (.of_changing fun accounts h => ?_)
    rw [(OrganizationViewSet.create_keys h).1]
    have hother : (s.accounts.organizations.next == n) = false :=
      beq_eq_false_iff_ne.mpr hknown.ne'
    simp [ApiKey.createForOrganization, Table.filter, Table.insert, withKey, hother]
  | acceptInvitation authorization organizationHeader token now =>
    refine Or.inl (.of_changing fun accounts h => ?_)
    rw [(AcceptInvitationView.post_sameKeys h).apiKeys]

/-- A run handles its first event first. -/
theorem Store.after_cons (s : Store) (e : ServerEvent) (events : List ServerEvent) :
    s.after env (e :: events) = (e.apply env s).after env events := rfl

/-- In a run that changes the settings of an organization an administrator has asked for it. -/
theorem Store.after_provenance {n : ℕ} (events : List ServerEvent) (htenancy : Tenancy s.db)
    (hknown : n < s.accounts.organizations.next)
    (hservice : ∀ op, .transaction op ∈ events → op.isService = true) :
    SameSettings n s (s.after env events) ∨
      ∃ before authorization organizationHeader now call rest,
        events = before ++ .request authorization organizationHeader now call :: rest ∧
        call.method.safe = false ∧ Administers env.accounts (s.after env before).accounts
          call.viewSet authorization now n := by
  induction events generalizing s with
  | nil => exact Or.inl (.refl s)
  | cons e events ih =>
    rw [Store.after_cons]
    rcases e.provenance htenancy hknown (fun op he => hservice op (he ▸ List.mem_cons_self)) with
      hsame | ⟨authorization, organizationHeader, now, call, rfl, hmethod, hadministers⟩
    · have htenancy' : Tenancy (e.apply env s).db :=
        e.billingStep.invariant htenancy fun _ _ _ hdb hstep => hstep.tenancy hdb
      rcases ih htenancy' (hknown.trans_le e.organizations_next)
          (fun op hop => hservice op (List.mem_cons_of_mem _ hop)) with
        hrest | ⟨before, authorization, organizationHeader, now, call, rest, rfl, hrest⟩
      · exact Or.inl (hsame.trans hrest)
      · exact Or.inr ⟨e :: before, authorization, organizationHeader, now, call, rest, rfl, hrest⟩
    · exact Or.inr ⟨[], authorization, organizationHeader, now, call, events, rfl, hmethod,
        hadministers⟩

end runs

/-! ## The main result -/

/-- Whenever a request changes some row of an organization, somebody who administers the
organization has sent it.  Whenever a run of the server changes the plans, the customers or the keys
of an organization, somebody who administered it then has sent a request of the run. -/
theorem changes_are_authorized {env : ServerEnv} {s : Store} (htenancy : Tenancy s.db) {n : ℕ}
    (hknown : n < s.accounts.organizations.next) :
    (∀ (authorization : String) (organizationHeader : Option String) (now : DateTime)
      (call : Action) (draws : ℕ → ChargeDraw),
      SameTenant n s (serve env s authorization organizationHeader now call draws).1 ∨
        call.method.safe = false ∧
          Administers env.accounts s.accounts call.viewSet authorization now n) ∧
    ∀ events : List ServerEvent, (∀ op, .transaction op ∈ events → op.isService = true) →
      SameSettings n s (s.after env events) ∨
        ∃ before authorization organizationHeader now call rest,
          events = before ++ .request authorization organizationHeader now call :: rest ∧
          call.method.safe = false ∧ Administers env.accounts (s.after env before).accounts
            call.viewSet authorization now n :=
  ⟨fun _ _ _ _ draws => serve_provenance htenancy draws n,
    fun events hservice => Store.after_provenance events htenancy hknown hservice⟩

/-- The owner adds a plan. -/
def planAdded : ServerEvent :=
  .request "Token 9944b09199c62bcf" none (sampleTime 0 0)
    (.createPlan (.ok ⟨some "Max", none, some 4999, none, none, none, none⟩))

/-- The owner of organization 1 sent the request that added the plan. -/
theorem changes_are_authorized_owner :
    Administers sampleAccountsEnv sampleAccounts .subscriptions "Token 9944b09199c62bcf"
      (sampleTime 0 0) 1 ∧
    ∃ before authorization organizationHeader now call rest,
      [planAdded] = before ++ .request authorization organizationHeader now call :: rest ∧
      call.method.safe = false ∧ Administers sampleAccountsEnv
        ((sampleStore alone).after sampleServerEnv before).accounts call.viewSet authorization now
        1 := by
  have htenancy : Tenancy (sampleStore alone).db :=
    Reachable.tenancy (reaches_after sampleEnv Db.empty _)
  obtain ⟨hone, hrun⟩ := @changes_are_authorized sampleServerEnv _ htenancy 1
    (show 1 < (sampleStore alone).accounts.organizations.next by decide)
  refine ⟨?_, ?_⟩
  · rcases hone "Token 9944b09199c62bcf" none (sampleTime 0 0) subscribing (fun _ => sampleDraw) with
      hsame | ⟨-, hadministers⟩
    · exact absurd (congrArg List.length hsame.subscriptions) (by decide)
    · exact hadministers
  · rcases hrun [planAdded] (by simp [planAdded]) with hsame | hchanged
    · exact absurd (congrArg List.length hsame.plans) (by decide)
    · exact hchanged

end Chargeflow
