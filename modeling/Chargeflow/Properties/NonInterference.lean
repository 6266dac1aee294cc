import Chargeflow.Effects.TwinViewSets

/-!
# Tenants do not interfere

A request that is resolved to an organization leaves the rows of all other organizations as they
are, and its response does not depend on them.  Beside its own rows, an organization sees the email
addresses of its members, who may belong to other organizations too, and the receipts that the
gateway has recorded for its attempts.
-/

namespace Chargeflow

open Foundation

/-! ## Other organizations -/

/-- Every row of every other organization is as before. -/
structure Undisturbed (organizationId : ℕ) (s s' : Store) : Prop where
  plans : (s'.db.plans.filter fun p => !(p.organizationId == organizationId)) =
    s.db.plans.filter fun p => !(p.organizationId == organizationId)
  descriptions : ∀ p ∈ s.db.plans, p.organizationId ≠ organizationId →
    s'.descriptions p.id = s.descriptions p.id
  customers : (s'.db.customers.filter fun c => !(c.organizationId == organizationId)) =
    s.db.customers.filter fun c => !(c.organizationId == organizationId)
  contacts : ∀ c ∈ s.db.customers, c.organizationId ≠ organizationId →
    s'.contacts c.id = s.contacts c.id
  subscriptions : (s'.db.subscriptions.filter fun q => !(q.organizationId == organizationId)) =
    s.db.subscriptions.filter fun q => !(q.organizationId == organizationId)
  invoices : (s'.db.invoices.filter fun i => !(i.organizationId == organizationId)) =
    s.db.invoices.filter fun i => !(i.organizationId == organizationId)
  invoiceLines : (s'.db.invoiceLines.filter fun l => !(l.organizationId == organizationId)) =
    s.db.invoiceLines.filter fun l => !(l.organizationId == organizationId)
  attempts : (s'.db.attempts.filter fun p => !(p.organizationId == organizationId)) =
    s.db.attempts.filter fun p => !(p.organizationId == organizationId)
  webhookEvents : s'.db.webhookEvents = s.db.webhookEvents
  apiKeys : (s'.accounts.apiKeys.filter fun k => !(k.organizationId == organizationId)) =
    s.accounts.apiKeys.filter fun k => !(k.organizationId == organizationId)
  memberships : (s'.accounts.memberships.filter fun m => !(m.organizationId == organizationId)) =
    s.accounts.memberships.filter fun m => !(m.organizationId == organizationId)
  invitations : (s'.accounts.invitations.filter fun i => !(i.organizationId == organizationId)) =
    s.accounts.invitations.filter fun i => !(i.organizationId == organizationId)

/-- A request that both runs serve alike disturbs nobody else. -/
theorem Undisturbed.of_twins {w : Setting} {db₂ : Db} {s s' : Store} (hstart : w.start₁ = s.db)
    (h : Twins w s'.db db₂) (hconfined : Confined w.organizationId s s') :
    Undisturbed w.organizationId s s' where
  plans := h.plans.others₁.trans (congrArg (fun db : Db => db.plans.filter _) hstart)
  descriptions := hconfined.descriptions
  customers := h.customers.others₁.trans (congrArg (fun db : Db => db.customers.filter _) hstart)
  contacts := hconfined.contacts
  subscriptions :=
    h.subscriptions.others₁.trans (congrArg (fun db : Db => db.subscriptions.filter _) hstart)
  invoices := h.invoices.others₁.trans (congrArg (fun db : Db => db.invoices.filter _) hstart)
  invoiceLines :=
    h.invoiceLines.others₁.trans (congrArg (fun db : Db => db.invoiceLines.filter _) hstart)
  attempts := h.attempts.others₁.trans (congrArg (fun db : Db => db.attempts.filter _) hstart)
  webhookEvents := h.events₁.trans (congrArg Db.webhookEvents hstart)
  apiKeys := hconfined.apiKeys
  memberships := by rw [hconfined.memberships]
  invitations := hconfined.invitations

/-! ## What an organization sees -/

/-- The gateway has recorded the receipt for an attempt of the organization. -/
def ownsReceipt (s : Store) (organizationId : ℕ) (r : MockChargeReceipt) : Bool :=
  s.db.attempts.any fun p =>
    p.organizationId == organizationId && p.providerIdempotencyKey == r.providerIdempotencyKey

/-- The members of an organization have the same accounts. -/
def SameUsers (organizationId : ℕ) (s₁ s₂ : Store) : Prop :=
  ∀ m ∈ s₁.accounts.memberships, m.organizationId = organizationId →
    s₂.accounts.users.get? m.userId = s₁.accounts.users.get? m.userId

/-- The gateway has recorded the same receipts for the attempts of an organization. -/
def SameReceipts (organizationId : ℕ) (s₁ s₂ : Store) : Prop :=
  s₂.db.receipts.filter (ownsReceipt s₁ organizationId) =
    s₁.db.receipts.filter (ownsReceipt s₁ organizationId)

/-! ## Fresh identifiers -/

/-- The unique constraints on the columns of the provider. -/
structure ProviderUnique (attempts : Table PaymentAttempt) : Prop where
  key : ∀ p ∈ attempts, ∀ q ∈ attempts, p.provider = q.provider →
    p.providerIdempotencyKey = q.providerIdempotencyKey → p = q
  charge : ∀ p ∈ attempts, ∀ q ∈ attempts, p.provider = q.provider → p.providerChargeId ≠ "" →
    p.providerChargeId = q.providerChargeId → p = q

/-- The identifiers that a charge draws are new to a store. -/
structure FreshDraw (s : Store) (draw : ChargeDraw) : Prop where
  key : ∀ p ∈ s.db.attempts, p.providerIdempotencyKey ≠ draw.providerKey
  charge : ∀ p ∈ s.db.attempts, p.providerChargeId ≠ draw.chargeId
  receiptKey : ∀ r ∈ s.db.receipts, r.providerIdempotencyKey ≠ draw.providerKey
  receiptCharge : ∀ r ∈ s.db.receipts, r.providerChargeId ≠ draw.chargeId

/-- The identifiers that a request draws are new to a store, and the charge ids that the gateway has
recorded for attempts of the organization are with no other organization. -/
structure Fresh (env : Env) (organizationId : ℕ) (s : Store) (call : Action)
    (draws : ℕ → ChargeDraw) : Prop where
  request : ∀ draw ∈ call.draw, FreshDraw s draw
  worker : ∀ i, FreshDraw s (draws i)
  token : ∀ token ∈ call.token, ∀ i ∈ s.accounts.invitations, i.token ≠ token
  recorded : ∀ r ∈ s.db.receipts, ownsReceipt s organizationId r = true →
    ∀ q ∈ s.db.attempts, q.organizationId ≠ organizationId → q.providerChargeId ≠ "" →
      q.providerChargeId ≠
        env.columnText (PaymentService.incomingChargeId r.providerResponse r.providerChargeId)

section requests

variable {env : ServerEnv} {organizationId : ℕ} {authorization : String}
  {organizationHeader : Option String} {now : DateTime} {call : Action} {draws : ℕ → ChargeDraw}

/-- Two stores with structural tenancy that agree on the rows of an organization and on the
principal of a request, which is resolved to the organization and draws fresh identifiers. -/
structure Agreeing (env : ServerEnv) (organizationId : ℕ) (authorization : String)
    (organizationHeader : Option String) (now : DateTime) (call : Action) (draws : ℕ → ChargeDraw)
    (s₁ s₂ : Store) : Prop where
  tenancy₁ : Tenancy s₁.db
  tenancy₂ : Tenancy s₂.db
  unique₁ : ProviderUnique s₁.db.attempts
  unique₂ : ProviderUnique s₂.db.attempts
  tenant : SameTenant organizationId s₁ s₂
  principal : SamePrincipal env.accounts s₁.accounts s₂.accounts
    (.incoming call.method authorization organizationHeader) now
  resolves : Resolves env.accounts s₁.accounts
    (.incoming call.method authorization organizationHeader) now organizationId
  fresh₁ : Fresh env.billing organizationId s₁ call draws
  fresh₂ : Fresh env.billing organizationId s₂ call draws

/-- A store next to itself. -/
theorem Start.self {env : Env} {s : Store} (htenancy : Tenancy s.db) :
    Start (.between env organizationId Set.univ s s) s s :=
  .between rfl htenancy htenancy ⟨rfl, fun _ _ _ => rfl, rfl, fun _ _ _ => rfl, rfl, rfl, rfl, rfl,
    rfl, rfl, rfl⟩ (fun _ _ _ => rfl) rfl (fun _ _ _ => trivial) (fun _ _ _ => ⟨.refl, .refl⟩)
    fun _ _ _ _ => .refl

/-- Between a state and itself, every draw belongs to the tenant. -/
theorem drawn_self {env : Env} {s : Store} (draw : ChargeDraw) :
    DrawnKey (.between env organizationId Set.univ s s) draw.providerKey ∧
      DrawnCharge (.between env organizationId Set.univ s s) draw.chargeId :=
  ⟨⟨trivial, .refl⟩, fun _ => .refl, .refl⟩

/-- The other rows stay, as the run next to itself shows. -/
theorem serve_undisturbed {s : Store} (htenancy : Tenancy s.db)
    (hresolves : Resolves env.accounts s.accounts
      (.incoming call.method authorization organizationHeader) now organizationId) :
    Undisturbed organizationId s
      (serve env s authorization organizationHeader now call draws).1 := by
  have hserved := (@Start.self organizationId env.billing s htenancy).serve rfl
    ⟨rfl, fun _ _ _ _ => rfl⟩ hresolves (fun draw _ => drawn_self draw) (fun _ _ => rfl) draws
    fun i => drawn_self (draws i)
  exact Undisturbed.of_twins rfl hserved.twins hserved.confined₁

/-- A request that is served disturbs nobody else. -/
theorem dispatch_undisturbed {s s' : Store} {response : Response} (htenancy : Tenancy s.db)
    (hresolves : Resolves env.accounts s.accounts
      (.incoming call.method authorization organizationHeader) now organizationId)
    (h : dispatch env s authorization organizationHeader now call = .ok (s', response)) :
    Undisturbed organizationId s s' := by
  have hserved := (@Start.self organizationId env.billing s htenancy).dispatch rfl
    ⟨rfl, fun _ _ _ _ => rfl⟩ hresolves (fun draw _ => drawn_self draw) (fun _ _ => rfl)
  rw [h] at hserved
  cases hserved with
  | ok hserved => exact Undisturbed.of_twins rfl hserved.twins hserved.confined₁

/-- The provider keys that may occur in the runs of a request of an organization. -/
def providerKeys (s : Store) (organizationId : ℕ) (call : Action) (draws : ℕ → ChargeDraw) :
    Set String :=
  {k | (∃ p ∈ s.db.attempts, p.organizationId = organizationId ∧ p.providerIdempotencyKey = k) ∨
    (∃ draw ∈ call.draw, draw.providerKey = k) ∨ ∃ i, (draws i).providerKey = k}

/-- The receipts under these keys are those for the attempts of the organization. -/
theorem mem_providerKeys_iff {s₁ s : Store}
    (hfresh : Fresh env.billing organizationId s call draws) {r : MockChargeReceipt}
    (hr : r ∈ s.db.receipts) :
    r.providerIdempotencyKey ∈ providerKeys s₁ organizationId call draws ↔
      ownsReceipt s₁ organizationId r = true := by
  unfold ownsReceipt
  rw [Table.any_eq_true]
  simp only [Bool.and_eq_true, beq_iff_eq]
  constructor
  · rintro (hold | ⟨draw, hdraw, hkey⟩ | ⟨i, hkey⟩)
    · exact hold
    · exact absurd hkey.symm ((hfresh.request draw hdraw).receiptKey r hr)
    · exact absurd hkey.symm ((hfresh.worker i).receiptKey r hr)
  · exact Or.inl

/-- An attempt of the organization is in both stores. -/
theorem SameTenant.mem_attempts {s₁ s₂ : Store} (h : SameTenant organizationId s₁ s₂)
    {p : PaymentAttempt} (hp : p ∈ s₁.db.attempts) (horg : p.organizationId = organizationId) :
    p ∈ s₂.db.attempts := by
  have hmem : p ∈ s₁.db.attempts.filter fun p => p.organizationId == organizationId :=
    Table.mem_filter.mpr ⟨hp, beq_iff_eq.mpr horg⟩
  rw [← h.attempts] at hmem
  exact (Table.mem_filter.mp hmem).1

/-- The response is the renamed one of the other run. -/
theorem serve_response {s₁ s₂ : Store}
    (h : Agreeing env organizationId authorization organizationHeader now call draws s₁ s₂)
    (husers : SameUsers organizationId s₁ s₂) (hsameReceipts : SameReceipts organizationId s₁ s₂) :
    (serve env s₂ authorization organizationHeader now call draws).2 =
      (serve env s₁ authorization organizationHeader now call draws).2.rename
        (.between s₁ s₂) := by
  let w : Setting := .between env.billing organizationId
    (providerKeys s₁ organizationId call draws) s₁ s₂
  -- a drawn identifier is with nobody
  have hdrawn : ∀ draw : ChargeDraw, FreshDraw s₁ draw → FreshDraw s₂ draw →
      draw.providerKey ∈ providerKeys s₁ organizationId call draws →
      DrawnKey w draw.providerKey ∧ DrawnCharge w draw.chargeId := by
    intro draw h₁ h₂ hmem
    refine ⟨⟨hmem, .of_free ?_⟩, fun provider => .of_free ?_, .of_fails ?_ ?_⟩
    · rintro q (hq | hq) - -
      · exact h₁.key q hq
      · exact h₂.key q hq
    · rintro q (hq | hq) - - -
      · exact h₁.charge q hq
      · exact h₂.charge q hq
    · exact fun r hr _ => beq_eq_false_iff_ne.mpr (h₁.receiptCharge r hr)
    · exact fun r hr _ => beq_eq_false_iff_ne.mpr (h₂.receiptCharge r hr)
  have hreceipts : ∀ s : Store, Fresh env.billing organizationId s call draws →
      s.db.receipts.filter w.receipts.own =
        s.db.receipts.filter (ownsReceipt s₁ organizationId) := by
    intro s hfresh
    refine List.filter_congr ?_
    intro r hr
    rw [Bool.eq_iff_iff, own_receipt]
    exact mem_providerKeys_iff hfresh hr
  -- the columns of a stored attempt are unique in both stores
  have hneutral : ∀ p ∈ s₁.db.attempts, p.organizationId = organizationId →
      w.KeyNeutral p.provider p.providerIdempotencyKey ∧
        w.ChargeNeutral p.provider p.providerChargeId := by
    intro p hp horg
    have hp₂ := h.tenant.mem_attempts hp horg
    refine ⟨.of_free ?_, .of_free ?_⟩
    · rintro q (hq | hq) hother hprovider hkey
      · exact hother (h.unique₁.key q hq p hp hprovider hkey ▸ horg)
      · exact hother (h.unique₂.key q hq p hp₂ hprovider hkey ▸ horg)
    · rintro q (hq | hq) hother hprovider hne hcharge
      · exact hother (h.unique₁.charge q hq p hp hprovider (hcharge ▸ hne) hcharge ▸ horg)
      · exact hother (h.unique₂.charge q hq p hp₂ hprovider (hcharge ▸ hne) hcharge ▸ horg)
  have hcharge : ∀ r ∈ s₁.db.receipts,
      r.providerIdempotencyKey ∈ providerKeys s₁ organizationId call draws → ∀ provider,
      w.ChargeNeutral provider (w.chargeText r.providerResponse r.providerChargeId) := by
    intro r hr hmem provider
    have howns := (mem_providerKeys_iff h.fresh₁ hr).mp hmem
    have hr₂ : r ∈ s₂.db.receipts := by
      have hmem : r ∈ s₁.db.receipts.filter (ownsReceipt s₁ organizationId) :=
        Table.mem_filter.mpr ⟨hr, howns⟩
      rw [← show _ = _ from hsameReceipts] at hmem
      exact (Table.mem_filter.mp hmem).1
    have howns₂ : ownsReceipt s₂ organizationId r = true := by
      obtain ⟨p, hp, htest⟩ := Table.any_eq_true.mp howns
      have horg : p.organizationId = organizationId :=
        beq_iff_eq.mp (Bool.and_eq_true _ _ ▸ htest).1
      exact Table.any_eq_true.mpr ⟨p, h.tenant.mem_attempts hp horg, htest⟩
    refine .of_free ?_
    rintro q (hq | hq) hother - hne hsameId
    · exact h.fresh₁.recorded r hr howns q hq hother (hsameId ▸ hne) hsameId
    · exact h.fresh₂.recorded r hr₂ howns₂ q hq hother (hsameId ▸ hne) hsameId
  have hstart : Start w s₁ s₂ := .between rfl h.tenancy₁ h.tenancy₂ h.tenant husers
    ((hreceipts s₂ h.fresh₂).trans (hsameReceipts.trans (hreceipts s₁ h.fresh₁).symm))
    (fun p hp horg => Or.inl ⟨p, hp, horg, rfl⟩) hneutral hcharge
  have hserved := hstart.serve rfl h.principal h.resolves
    (fun draw hdraw => hdrawn draw (h.fresh₁.request draw hdraw) (h.fresh₂.request draw hdraw)
      (Or.inr (Or.inl ⟨draw, hdraw, rfl⟩)))
    (fun token htoken => by
      have hnone : ∀ s : Store, Fresh env.billing organizationId s call draws →
          (s.accounts.invitations.any fun j => j.token == token) = false := by
        intro s hfresh
        refine Table.any_eq_false.mpr ?_
        intro i hi
        simpa using hfresh.token token htoken i hi
      rw [hnone s₁ h.fresh₁, hnone s₂ h.fresh₂])
    draws fun i =>
      hdrawn (draws i) (h.fresh₁.worker i) (h.fresh₂.worker i) (Or.inr (Or.inr ⟨i, rfl⟩))
  exact hserved.response

end requests

/-! ## The main result -/

/-- A request that is resolved to an organization leaves the rows of every other organization as
they are.  On two stores that agree on the rows of the organization, on the accounts of its members
and on the receipts for its attempts, and on the principal of the request, the responses are equal
up to the keys of new rows. -/
theorem tenants_do_not_interfere {env : ServerEnv} {organizationId : ℕ} {authorization : String}
    {organizationHeader : Option String} {now : DateTime} {call : Action}
    {draws : ℕ → ChargeDraw} :
    (∀ s : Store, Tenancy s.db →
      Resolves env.accounts s.accounts (.incoming call.method authorization organizationHeader) now
        organizationId →
      Undisturbed organizationId s
        (serve env s authorization organizationHeader now call draws).1) ∧
    ∀ s₁ s₂ : Store,
      Agreeing env organizationId authorization organizationHeader now call draws s₁ s₂ →
      SameUsers organizationId s₁ s₂ → SameReceipts organizationId s₁ s₂ →
      (serve env s₂ authorization organizationHeader now call draws).2 =
        (serve env s₁ authorization organizationHeader now call draws).2.rename
          (.between s₁ s₂) :=
  ⟨fun _ htenancy hresolves => serve_undisturbed htenancy hresolves,
    fun _ _ h husers hreceipts => serve_response h husers hreceipts⟩

/-! ## Samples -/

/-- The sample environment of the server. -/
def sampleServerEnv : ServerEnv :=
  ⟨sampleAccountsEnv, sampleEnv, fun _ password => password == "secret"⟩

/-- The first organization is the one of the owner who is logged in. -/
def sampleStore (db : Db) : Store := ⟨sampleAccounts, db, fun _ => "", fun _ => ⟨"", ""⟩⟩

/-- The key, the times and the outcome that the sample request draws. -/
def sampleDraw : ChargeDraw := ⟨"key_2", sampleTime 0 3, true, "ch_2", sampleTime 0 4⟩

/-- Nothing has been charged yet. -/
theorem fresh_of_empty {env : Env} {organizationId : ℕ} {s : Store} {call : Action}
    {draws : ℕ → ChargeDraw} (hattempts : ∀ p, p ∉ s.db.attempts)
    (hreceipts : ∀ r, r ∉ s.db.receipts) (htoken : call.token = none) :
    Fresh env organizationId s call draws := by
  have hdraw : ∀ draw, FreshDraw s draw := fun draw =>
    ⟨fun p hp => absurd hp (hattempts p), fun p hp => absurd hp (hattempts p),
      fun r hr => absurd hr (hreceipts r), fun r hr => absurd hr (hreceipts r)⟩
  refine ⟨fun draw _ => hdraw draw, fun i => hdraw (draws i), ?_,
    fun r hr => absurd hr (hreceipts r)⟩
  intro token hmem
  rw [htoken] at hmem
  cases hmem

/-- Without attempts, the charge ids are unique. -/
theorem providerUnique_of_empty {attempts : Table PaymentAttempt} (h : ∀ p, p ∉ attempts) :
    ProviderUnique attempts :=
  ⟨fun p hp => absurd hp (h p), fun p hp => absurd hp (h p)⟩

/-- A plan and a customer. -/
def alone : Db := Db.empty.after sampleEnv [.savePlan samplePlan, .saveCustomer sampleCustomer]

/-- Another organization has a plan, a customer and a subscription. -/
def crowded : Db :=
  alone.after sampleEnv [.savePlan { samplePlan with organizationId := 2 },
    .saveCustomer { sampleCustomer with organizationId := 2 },
    .create 2 2 (sampleTime 0 0) (sampleTime 0 1)]

/-- The owner subscribes the customer to the plan. -/
def subscribing : Action := .createSubscription (.ok (1, 1)) (sampleTime 0 2) (sampleTime 0 3)

/-- Tenant 1 subscribes a customer beside the rows of tenant 2, as if it were alone. -/
theorem tenants_do_not_interfere_crowded :
    Undisturbed 1 (sampleStore crowded) (serve sampleServerEnv (sampleStore crowded)
      "Token 9944b09199c62bcf" none (sampleTime 0 0) subscribing fun _ => sampleDraw).1 ∧
    (serve sampleServerEnv (sampleStore crowded) "Token 9944b09199c62bcf" none (sampleTime 0 0)
        subscribing fun _ => sampleDraw).2 =
      (serve sampleServerEnv (sampleStore alone) "Token 9944b09199c62bcf" none (sampleTime 0 0)
        subscribing fun _ => sampleDraw).2.rename
        (.between (sampleStore alone) (sampleStore crowded)) ∧
    (serve sampleServerEnv (sampleStore crowded) "Token 9944b09199c62bcf" none (sampleTime 0 0)
      subscribing fun _ => sampleDraw).2.status = 201 := by
  have halone : Tenancy alone := Reachable.tenancy (reaches_after sampleEnv Db.empty _)
  have hcrowded : Tenancy crowded := by
    have hrun : crowded = Db.empty.after sampleEnv ([.savePlan samplePlan,
        .saveCustomer sampleCustomer, .savePlan { samplePlan with organizationId := 2 },
        .saveCustomer { sampleCustomer with organizationId := 2 },
        .create 2 2 (sampleTime 0 0) (sampleTime 0 1)]) := rfl
    rw [hrun]
    exact Reachable.tenancy (reaches_after sampleEnv Db.empty _)
  have hresolves : ∀ db, Resolves sampleServerEnv.accounts (sampleStore db).accounts
      (.incoming subscribing.method "Token 9944b09199c62bcf" none) (sampleTime 0 0) 1 :=
    fun db => ⟨_, _, rfl, rfl⟩
  have hattempts : ∀ p, p ∉ alone.attempts ∧ p ∉ crowded.attempts :=
    fun p => ⟨List.not_mem_nil, List.not_mem_nil⟩
  have hreceipts : ∀ r, r ∉ alone.receipts ∧ r ∉ crowded.receipts :=
    fun r => ⟨List.not_mem_nil, List.not_mem_nil⟩
  have hagreeing : Agreeing sampleServerEnv 1 "Token 9944b09199c62bcf" none (sampleTime 0 0)
      subscribing (fun _ => sampleDraw) (sampleStore alone) (sampleStore crowded) := {
    tenancy₁ := halone
    tenancy₂ := hcrowded
    unique₁ := providerUnique_of_empty fun p => (hattempts p).1
    unique₂ := providerUnique_of_empty fun p => (hattempts p).2
    tenant := ⟨rfl, fun _ _ _ => rfl, rfl, fun _ _ _ => rfl, rfl, rfl, rfl, rfl, rfl, rfl, rfl⟩
    principal := ⟨rfl, fun _ _ _ _ => rfl⟩
    resolves := hresolves alone
    fresh₁ := fresh_of_empty (fun p => (hattempts p).1) (fun r => (hreceipts r).1) rfl
    fresh₂ := fresh_of_empty (fun p => (hattempts p).2) (fun r => (hreceipts r).2) rfl }
  exact ⟨tenants_do_not_interfere.1 _ hcrowded (hresolves crowded),
    tenants_do_not_interfere.2 _ _ hagreeing (fun _ _ _ => rfl) rfl, by decide⟩

/-- A second member, who has an email address. -/
def twoMembers (email : String) : Store :=
  { sampleStore Db.empty with
    accounts := { sampleAccounts with
      users := sampleAccounts.users.insert ⟨0, email, true⟩
      memberships := sampleAccounts.memberships.insert ⟨0, 1, 2, .member, sampleTime 0 0⟩ } }

/-- The gateway has declined the prepared charge, which it has not been able to report. -/
def declined : Db :=
  { preparedRun with
    receipts := preparedRun.receipts.insert
      ⟨0, "key_1", sampleEnv.sha256 "", false, "ch_1", MockPaymentGateway.outcomeResponse false⟩ }

/-- Neither the accounts of the members nor the receipts of the gateway belong to the rows of the
organization, and the response shows both. -/
theorem tenants_do_not_interfere_shared :
    (¬ ∀ (env : ServerEnv) (organizationId : ℕ) (authorization : String)
      (organizationHeader : Option String) (now : DateTime) (call : Action)
      (draws : ℕ → ChargeDraw) (s₁ s₂ : Store),
      Agreeing env organizationId authorization organizationHeader now call draws s₁ s₂ →
      SameReceipts organizationId s₁ s₂ →
      ∃ ν, (serve env s₂ authorization organizationHeader now call draws).2 =
        (serve env s₁ authorization organizationHeader now call draws).2.rename ν) ∧
    ¬ ∀ (env : ServerEnv) (organizationId : ℕ) (authorization : String)
      (organizationHeader : Option String) (now : DateTime) (call : Action)
      (draws : ℕ → ChargeDraw) (s₁ s₂ : Store),
      Agreeing env organizationId authorization organizationHeader now call draws s₁ s₂ →
      SameUsers organizationId s₁ s₂ →
      ∃ ν, (serve env s₂ authorization organizationHeader now call draws).2 =
        (serve env s₁ authorization organizationHeader now call draws).2.rename ν := by
  constructor
  · intro h
    have hnone : ∀ {α : Type} [Keyed α] (a : α), a ∉ (Table.empty : Table α) :=
      fun a => Table.not_mem_empty
    obtain ⟨ν, hν⟩ := h sampleServerEnv 1 "Token 9944b09199c62bcf" none (sampleTime 0 0)
      .listMembers (fun _ => sampleDraw) (twoMembers "bob@example.com") (twoMembers "bob@example.org")
      { tenancy₁ := .empty
        tenancy₂ := .empty
        unique₁ := providerUnique_of_empty hnone
        unique₂ := providerUnique_of_empty hnone
        tenant := ⟨rfl, fun _ _ _ => rfl, rfl, fun _ _ _ => rfl, rfl, rfl, rfl, rfl, rfl, rfl, rfl⟩
        principal := ⟨rfl, fun _ _ _ _ => rfl⟩
        resolves := ⟨_, _, rfl, rfl⟩
        fresh₁ := fresh_of_empty hnone hnone rfl
        fresh₂ := fresh_of_empty hnone hnone rfl }
      rfl
    have hresponse : ∀ email : String, (serve sampleServerEnv (twoMembers email)
        "Token 9944b09199c62bcf" none (sampleTime 0 0) .listMembers fun _ => sampleDraw).2 =
        ⟨200, .list [.member ⟨1, some "ada@example.com", .owner, sampleTime 0 0⟩,
          .member ⟨2, some email, .member, sampleTime 0 0⟩]⟩ := fun _ => rfl
    rw [hresponse, hresponse] at hν
    simp [Response.rename, Body.rename, Item.rename] at hν
  · intro h
    have htenancy : Tenancy preparedRun := Reachable.tenancy reachable_preparedRun
    have hone : ∀ p ∈ preparedRun.attempts, p.id = 1 ∧ p.organizationId = 1 := by decide
    have hunique : ProviderUnique preparedRun.attempts := by
      have hsame : ∀ p ∈ preparedRun.attempts, ∀ q ∈ preparedRun.attempts, p = q :=
        fun p hp q hq => Table.eq_of_key_eq hp hq ((hone p hp).1.trans (hone q hq).1.symm)
      exact ⟨fun p hp q hq _ _ => hsame p hp q hq, fun p hp q hq _ _ _ => hsame p hp q hq⟩
    have hfresh : ∀ receipts : Table MockChargeReceipt,
        (∀ r ∈ receipts, r.providerIdempotencyKey ≠ "key_2" ∧ r.providerChargeId ≠ "ch_2") →
        Fresh sampleEnv 1 (sampleStore { preparedRun with receipts := receipts })
          (.createAttempt (.ok 1) none sampleDraw) fun _ => sampleDraw := by
      intro receipts hreceipts
      have hdraw : FreshDraw (sampleStore { preparedRun with receipts := receipts }) sampleDraw := {
        key := show ∀ p ∈ preparedRun.attempts, p.providerIdempotencyKey ≠ "key_2" by decide
        charge := show ∀ p ∈ preparedRun.attempts, p.providerChargeId ≠ "ch_2" by decide
        receiptKey := fun r hr => (hreceipts r hr).1
        receiptCharge := fun r hr => (hreceipts r hr).2 }
      refine ⟨?_, fun _ => hdraw, ?_, ?_⟩
      · intro draw hmem
        obtain rfl := Option.some.inj hmem
        exact hdraw
      · intro token hmem
        cases hmem
      · exact fun r _ _ q hq hother => absurd (hone q hq).2 hother
    obtain ⟨ν, hν⟩ := h sampleServerEnv 1 "Token 9944b09199c62bcf" none (sampleTime 0 0)
      (.createAttempt (.ok 1) none sampleDraw) (fun _ => sampleDraw) (sampleStore preparedRun)
      (sampleStore declined)
      { tenancy₁ := htenancy
        tenancy₂ := { htenancy with }
        unique₁ := hunique
        unique₂ := hunique
        tenant := ⟨rfl, fun _ _ _ => rfl, rfl, fun _ _ _ => rfl, rfl, rfl, rfl, rfl, rfl, rfl, rfl⟩
        principal := ⟨rfl, fun _ _ _ _ => rfl⟩
        resolves := ⟨_, _, rfl, rfl⟩
        fresh₁ := hfresh preparedRun.receipts (by decide)
        fresh₂ := hfresh declined.receipts (by decide) }
      fun _ _ _ => rfl
    have hsuccess : (serve sampleServerEnv (sampleStore preparedRun) "Token 9944b09199c62bcf" none
        (sampleTime 0 0) (.createAttempt (.ok 1) none sampleDraw) fun _ => sampleDraw).2 =
        ⟨201, .item (.attempt ⟨1, 1, .success, 1999, "USD", "mock", "ch_2", sampleTime 0 2,
          false⟩)⟩ := by decide
    have hfailure : (serve sampleServerEnv (sampleStore declined) "Token 9944b09199c62bcf" none
        (sampleTime 0 0) (.createAttempt (.ok 1) none sampleDraw) fun _ => sampleDraw).2 =
        ⟨201, .item (.attempt ⟨1, 1, .failed, 1999, "USD", "mock", "ch_1", sampleTime 0 2,
          false⟩)⟩ := by decide
    rw [hsuccess, hfailure] at hν
    simp [Response.rename, Body.rename, Item.rename] at hν

end Chargeflow
