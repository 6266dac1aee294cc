import Chargeflow.Foundation.Ownership
import Chargeflow.System.Writes

/-!
# Rows and their organizations

Every row belongs to the organization of its parent: a subscription to the one of its customer and
its plan, an invoice to the one of its subscription, a line or an attempt to the one of its invoice.
An attempt also passes the checks the database made when it was written.  Every write of a service
keeps both rules, so they hold in every reachable database.
-/

namespace Chargeflow

open Foundation PaymentService

/-! ## Organizations -/

/-- Every row refers to a parent of its own organization. -/
structure Tenancy (db : Db) : Prop where
  customer : Belongs Subscription.customerId Subscription.organizationId Customer.organizationId
    db.subscriptions db.customers
  plan : Belongs Subscription.planId Subscription.organizationId Plan.organizationId
    db.subscriptions db.plans
  subscription : Belongs Invoice.subscriptionId Invoice.organizationId Subscription.organizationId
    db.invoices db.subscriptions
  line : Belongs InvoiceLine.invoiceId InvoiceLine.organizationId Invoice.organizationId
    db.invoiceLines db.invoices
  attempt : Belongs PaymentAttempt.invoiceId PaymentAttempt.organizationId Invoice.organizationId
    db.attempts db.invoices

namespace Tenancy

variable {db : Db}

/-- The empty database keeps its tenants apart. -/
theorem empty : Tenancy Db.empty :=
  ⟨.empty, .empty, .empty, .empty, .empty⟩

/-- A new subscription. -/
theorem insertSubscription (h : Tenancy db) {s : Subscription}
    (hcustomer : RefersTo Subscription.customerId Subscription.organizationId
      Customer.organizationId db.customers s)
    (hplan : RefersTo Subscription.planId Subscription.organizationId Plan.organizationId
      db.plans s) :
    Tenancy { db with subscriptions := db.subscriptions.insert s } where
  customer := h.customer.insert hcustomer
  plan := h.plan.insert hplan
  subscription := h.subscription.insert_parent s
  line := h.line
  attempt := h.attempt

/-- A subscription changes without another customer, plan or organization. -/
theorem updateSubscription (h : Tenancy db) {s s' : Subscription} (hs : s ∈ db.subscriptions)
    (hid : s'.id = s.id) (horg : s'.organizationId = s.organizationId)
    (hcustomer : s'.customerId = s.customerId) (hplan : s'.planId = s.planId) :
    Tenancy { db with subscriptions := db.subscriptions.update s' } where
  customer := h.customer.update_same hs hcustomer horg
  plan := h.plan.update_same hs hplan horg
  subscription := by
    refine h.subscription.update_parent ?_
    intro s₀ hs₀ hkey hmoved
    obtain rfl := Table.eq_of_key_eq hs₀ hs (hkey.trans hid)
    exact absurd horg.symm hmoved
  line := h.line
  attempt := h.attempt

/-- A new invoice. -/
theorem insertInvoice (h : Tenancy db) {i : Invoice}
    (hsubscription : RefersTo Invoice.subscriptionId Invoice.organizationId
      Subscription.organizationId db.subscriptions i) :
    Tenancy { db with invoices := db.invoices.insert i } where
  customer := h.customer
  plan := h.plan
  subscription := h.subscription.insert hsubscription
  line := h.line.insert_parent i
  attempt := h.attempt.insert_parent i

/-- An invoice changes without another subscription or organization. -/
theorem updateInvoice (h : Tenancy db) {i i' : Invoice} (hi : i ∈ db.invoices)
    (hid : i'.id = i.id) (horg : i'.organizationId = i.organizationId)
    (hsubscription : i'.subscriptionId = i.subscriptionId) :
    Tenancy { db with invoices := db.invoices.update i' } := by
  have hkept : ∀ i₀ ∈ db.invoices, key i₀ = key i' → i₀.organizationId = i'.organizationId := by
    intro i₀ hi₀ hkey
    obtain rfl := Table.eq_of_key_eq hi₀ hi (hkey.trans hid)
    exact horg.symm
  refine ⟨h.customer, h.plan, h.subscription.update_same hi hsubscription horg, ?_, ?_⟩
  · exact h.line.update_parent fun i₀ hi₀ hkey hmoved => absurd (hkept i₀ hi₀ hkey) hmoved
  · exact h.attempt.update_parent fun i₀ hi₀ hkey hmoved => absurd (hkept i₀ hi₀ hkey) hmoved

end Tenancy

/-- A plan moves to another organization only while no subscription refers to it. -/
theorem Plan.save_tenancy {db db' : Db} {p : Plan} (h : p.save db = .ok db') (hdb : Tenancy db) :
    Tenancy db' := by
  simp only [Plan.save, bind_eq_ok_iff, pure_eq_ok_iff, ensure_eq_ok_iff] at h
  obtain ⟨-, hguard, -, -, -, -, -, -, rfl⟩ := h
  have hstays : ∀ q ∈ db.plans, q.id = p.id → q.organizationId ≠ p.organizationId →
      ∀ s ∈ db.subscriptions, s.planId ≠ p.id := by
    intro q hq hid hmoved s hs hsp
    have hmove : db.plans.any (fun q => q.id == p.id && q.organizationId != p.organizationId) =
        true := Table.any_eq_true.mpr ⟨q, hq, by simp [hid, hmoved]⟩
    have hrefers : db.subscriptions.any (fun s => s.planId == p.id) = true :=
      Table.any_eq_true.mpr ⟨s, hs, by simp [hsp]⟩
    simp [hmove, hrefers] at hguard
  cases db.plans.get? p.id with
  | none =>
    exact ⟨hdb.customer, hdb.plan.insert_parent p, hdb.subscription, hdb.line, hdb.attempt⟩
  | some q =>
    exact ⟨hdb.customer, hdb.plan.update_parent hstays, hdb.subscription, hdb.line, hdb.attempt⟩

/-- The save of a customer keeps the tenants apart. -/
theorem Customer.save_tenancy {db db' : Db} {c : Customer} (h : c.save db = .ok db')
    (hdb : Tenancy db) : Tenancy db' := by
  simp only [Customer.save, bind_eq_ok_iff, pure_eq_ok_iff, ensure_eq_ok_iff] at h
  obtain ⟨-, hguard, -, -, -, -, rfl⟩ := h
  have hstays : ∀ q ∈ db.customers, q.id = c.id → q.organizationId ≠ c.organizationId →
      ∀ s ∈ db.subscriptions, s.customerId ≠ c.id := by
    intro q hq hid hmoved s hs hsc
    have hmove : db.customers.any
        (fun q => q.id == c.id && q.organizationId != c.organizationId) = true :=
      Table.any_eq_true.mpr ⟨q, hq, by simp [hid, hmoved]⟩
    have hrefers : db.subscriptions.any (fun s => s.customerId == c.id) = true :=
      Table.any_eq_true.mpr ⟨s, hs, by simp [hsc]⟩
    simp [hmove, hrefers] at hguard
  cases db.customers.get? c.id with
  | none =>
    exact ⟨hdb.customer.insert_parent c, hdb.plan, hdb.subscription, hdb.line, hdb.attempt⟩
  | some q =>
    exact ⟨hdb.customer.update_parent hstays, hdb.plan, hdb.subscription, hdb.line, hdb.attempt⟩

/-- The creation of a subscription keeps the tenants apart. -/
theorem Subscription.create_tenancy {db db' : Db} {s s' : Subscription}
    (h : Subscription.create db s = .ok (db', s')) (hdb : Tenancy db) : Tenancy db' := by
  simp only [Subscription.create, bind_eq_ok_iff, pure_eq_ok_iff, Prod.mk.injEq] at h
  obtain ⟨-, -, s₁, hclean, rfl, rfl⟩ := h
  obtain ⟨customer, hc, plan, hp, hcid, hpid, horg, -, rfl⟩ := Subscription.clean_eq_ok hclean
  exact hdb.insertSubscription ⟨customer, hc, hcid, rfl⟩ ⟨plan, hp, hpid, horg⟩

/-- A write keeps the tenants apart. -/
theorem Write.tenancy {db db' : Db} (h : Write db db') (hdb : Tenancy db) : Tenancy db' := by
  cases h with
  | plan h => exact Plan.save_tenancy h hdb
  | customer h => exact Customer.save_tenancy h hdb
  | subscription h => exact Subscription.create_tenancy h hdb
  | subscriptionFields h =>
    obtain ⟨stored, hs, -, rfl⟩ := Subscription.save_eq_ok h
    exact hdb.updateSubscription hs rfl rfl rfl rfl
  | subscriptionStatus h =>
    obtain ⟨row, hrow, -, -, -, rfl⟩ := Subscription.transitionTo_writes h
    exact hdb.updateSubscription hrow rfl rfl rfl rfl
  | invoice h =>
    obtain ⟨s, hs, hid, rfl, -⟩ := Invoice.create_eq_ok h
    exact hdb.insertInvoice ⟨s, hs, hid, rfl⟩
  | invoiceStatus h =>
    obtain ⟨row, hrow, -, -, -, rfl⟩ := Invoice.transitionTo_writes h
    exact hdb.updateInvoice hrow rfl rfl rfl
  | line h =>
    obtain ⟨i, hi, hid, rfl⟩ := InvoiceLine.create_eq_ok h
    exact ⟨hdb.customer, hdb.plan, hdb.subscription, hdb.line.insert ⟨i, hi, hid, rfl⟩,
      hdb.attempt⟩
  | attempt hid h =>
    obtain ⟨i, hi, hid, row, rfl, -, rfl, -⟩ := PaymentAttempt.create_eq_ok h
    exact ⟨hdb.customer, hdb.plan, hdb.subscription, hdb.line,
      hdb.attempt.insert ⟨i, hi, hid, rfl⟩⟩
  | attemptFields hfields h =>
    obtain ⟨stored, hp, -, -, rfl⟩ := PaymentAttempt.save_eq_ok hfields h
    have hsame := PaymentAttempt.merge_sameSnapshot hfields stored
    exact ⟨hdb.customer, hdb.plan, hdb.subscription, hdb.line,
      hdb.attempt.update_same hp (hsame _).invoiceId (hsame _).organizationId⟩
  | handOff tasks => exact ⟨hdb.customer, hdb.plan, hdb.subscription, hdb.line, hdb.attempt⟩

/-- A run keeps the tenants apart. -/
theorem Reaches.tenancy {env : Env} {db db' : Db} (h : Reaches (Step env) db db')
    (hdb : Tenancy db) : Tenancy db' := by
  refine Reaches.preserves (I := Tenancy) ?_ (fun a b ha hab => hab.tenancy ha) h hdb
  exact fun db events receipts hdb =>
    ⟨hdb.customer, hdb.plan, hdb.subscription, hdb.line, hdb.attempt⟩

/-! ## Attempts -/

/-- The attempts fit their columns, their client keys are not empty texts, and no two of them share
a charge id. -/
structure Admitted (attempts : Table PaymentAttempt) : Prop where
  lengths : ∀ p ∈ attempts, p.checkLengths = .ok ()
  key : ∀ p ∈ attempts, normalizeKey p.idempotencyKey = p.idempotencyKey
  charge : ∀ p ∈ attempts, ∀ q ∈ attempts, p.provider = q.provider → p.providerChargeId ≠ "" →
    p.providerChargeId = q.providerChargeId → p = q

/-- The empty table meets the constraints of the attempts. -/
theorem Admitted.empty : Admitted Table.empty :=
  ⟨fun _ hp => absurd hp Table.not_mem_empty, fun _ hp => absurd hp Table.not_mem_empty,
    fun _ hp => absurd hp Table.not_mem_empty⟩

/-- The creation of an attempt meets the constraints of the table. -/
theorem PaymentAttempt.create_admitted {db db' : Db} {p p' : PaymentAttempt} (hid : p.id = 0)
    (h : PaymentAttempt.create db p = .ok (db', p')) (hdb : Admitted db.attempts) :
    Admitted db'.attempts := by
  have hlengths := PaymentAttempt.create_lengths h
  obtain ⟨i, -, -, row, hrow, hunique, rfl, rfl⟩ := PaymentAttempt.create_eq_ok h
  have hother : ∀ q ∈ db.attempts, q.provider = row.provider → q.providerChargeId ≠ "" →
      q.providerChargeId ≠ row.providerChargeId := by
    intro q hq hprovider hcharge heq
    have hne : q.id ≠ row.id := by
      have hpos : 0 < q.id := db.attempts.key_pos q hq
      rw [hrow]
      change q.id ≠ p.id
      omega
    exact hunique.charge q hq hne hprovider (heq ▸ hcharge) heq
  refine ⟨?_, ?_, ?_⟩
  · intro q hq
    rcases Table.mem_insert.mp hq with hq | rfl
    · exact hdb.lengths q hq
    · exact hlengths
  · intro q hq
    rcases Table.mem_insert.mp hq with hq | rfl
    · exact hdb.key q hq
    · rw [hrow]
      exact normalizeKey_normalizeKey p.idempotencyKey
  · intro q hq q' hq' hprovider hcharge heq
    rcases Table.mem_insert.mp hq with hq | rfl <;> rcases Table.mem_insert.mp hq' with hq' | rfl
    · exact hdb.charge q hq q' hq' hprovider hcharge heq
    · exact absurd heq (hother q hq hprovider hcharge)
    · exact absurd heq.symm (hother q' hq' hprovider.symm (heq ▸ hcharge))
    · rfl

/-- The save of an attempt meets the constraints of the table. -/
theorem PaymentAttempt.save_admitted {db db' : Db} {fields : List PaymentField}
    {p : PaymentAttempt} (hfields : ∀ f ∈ fields, f ∈ settlementFields)
    (h : PaymentAttempt.save db fields p = .ok db') (hdb : Admitted db.attempts) :
    Admitted db'.attempts := by
  have hlengths := fun q hq => PaymentAttempt.save_lengths h (q := q) hq
  obtain ⟨stored, hstored, hid, hunique, rfl⟩ := PaymentAttempt.save_eq_ok hfields h
  have hrows : ∀ q, q ∈ db.attempts.update (stored.merge fields p) ↔
      q = stored.merge fields p ∨ (q ∈ db.attempts ∧ q ≠ stored) :=
    fun q => Table.mem_update_of_mem hstored rfl
  have hother : ∀ q ∈ db.attempts, q ≠ stored → q.provider = (stored.merge fields p).provider →
      q.providerChargeId ≠ "" →
      q.providerChargeId ≠ (stored.merge fields p).providerChargeId := by
    intro q hq hne hprovider hcharge heq
    refine hunique.charge q hq ?_ hprovider (heq ▸ hcharge) heq
    intro hsame
    exact hne (Table.eq_of_key_eq hq hstored hsame)
  refine ⟨?_, ?_, ?_⟩
  · intro q hq
    rcases hlengths q hq with hold | hnew
    · exact hdb.lengths q hold
    · exact hnew
  · intro q hq
    rcases (hrows q).mp hq with rfl | ⟨hq, -⟩
    · rw [(PaymentAttempt.merge_sameSnapshot hfields stored p).idempotencyKey]
      exact hdb.key stored hstored
    · exact hdb.key q hq
  · intro q hq q' hq' hprovider hcharge heq
    rcases (hrows q).mp hq with rfl | ⟨hq₀, hne⟩ <;>
      rcases (hrows q').mp hq' with rfl | ⟨hq₀', hne'⟩
    · rfl
    · exact absurd heq.symm (hother q' hq₀' hne' hprovider.symm (heq ▸ hcharge))
    · exact absurd heq (hother q hq₀ hne hprovider hcharge)
    · exact hdb.charge q hq₀ q' hq₀' hprovider hcharge heq

/-- A write meets the constraints of the attempts. -/
theorem Write.admitted {db db' : Db} (h : Write db db') (hdb : Admitted db.attempts) :
    Admitted db'.attempts := by
  rcases h.attempts with hsame | ⟨p, p', hid, hcreate⟩ | ⟨fields, p, hfields, hsave⟩
  · rwa [hsame]
  · exact PaymentAttempt.create_admitted hid hcreate hdb
  · exact PaymentAttempt.save_admitted hfields hsave hdb

/-- A run meets the constraints of the attempts. -/
theorem Reaches.admitted {env : Env} {db db' : Db} (h : Reaches (Step env) db db')
    (hdb : Admitted db.attempts) : Admitted db'.attempts :=
  Reaches.preserves (I := fun db => Admitted db.attempts) (fun _ _ _ hdb => hdb)
    (fun _ _ ha hab => hab.admitted ha) h hdb

/-- In every reachable state the tenants are apart. -/
theorem Reachable.tenancy {env : Env} {db : Db} (h : Reachable env db) : Tenancy db :=
  Reaches.tenancy h .empty

/-- In every reachable state the attempts meet their constraints. -/
theorem Reachable.admitted {env : Env} {db : Db} (h : Reachable env db) : Admitted db.attempts :=
  Reaches.admitted h .empty

end Chargeflow
