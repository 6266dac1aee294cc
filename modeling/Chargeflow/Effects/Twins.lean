import Chargeflow.Foundation.TwoRuns
import Chargeflow.System.Tenancy

/-!
# Two runs of the services

Two databases that agree on the rows of one organization, after the same service has run on both.
The rows of the organization correspond up to the keys that the runs have handed out, and all other
rows are as they were.
-/

namespace Chargeflow

open Foundation

/-! ## Renaming -/

/-- The keys of the two runs, for each table. -/
structure Numbering where
  plans : Shift
  customers : Shift
  subscriptions : Shift
  invoices : Shift
  invoiceLines : Shift
  attempts : Shift
  receipts : Shift
  apiKeys : Shift
  invitations : Shift

/-- A plan under the other numbering. -/
def Plan.rename (ν : Numbering) (p : Plan) : Plan := { p with id := ν.plans.map p.id }

/-- A customer under the other numbering. -/
def Customer.rename (ν : Numbering) (c : Customer) : Customer :=
    { c with id := ν.customers.map c.id }

/-- A subscription under the other numbering, with its references. -/
def Subscription.rename (ν : Numbering) (s : Subscription) : Subscription :=
  { s with
    id := ν.subscriptions.map s.id
    customerId := ν.customers.map s.customerId
    planId := ν.plans.map s.planId }

/-- An invoice under the other numbering, with its reference. -/
def Invoice.rename (ν : Numbering) (i : Invoice) : Invoice :=
  { i with
    id := ν.invoices.map i.id
    subscriptionId := ν.subscriptions.map i.subscriptionId }

/-- An invoice line under the other numbering, with its reference. -/
def InvoiceLine.rename (ν : Numbering) (l : InvoiceLine) : InvoiceLine :=
  { l with
    id := ν.invoiceLines.map l.id
    invoiceId := ν.invoices.map l.invoiceId }

/-- An attempt under the other numbering, with its reference. -/
def PaymentAttempt.rename (ν : Numbering) (p : PaymentAttempt) : PaymentAttempt :=
  { p with
    id := ν.attempts.map p.id
    invoiceId := ν.invoices.map p.invoiceId }

/-- A receipt under the other numbering. -/
def MockChargeReceipt.rename (ν : Numbering) (r : MockChargeReceipt) : MockChargeReceipt :=
  { r with id := ν.receipts.map r.id }

/-- What the two runs have in common: the organization, the provider keys of its attempts, the names
of the keys, and the databases that the runs began with. -/
structure Setting where
  env : Env
  organizationId : ℕ
  providerKeys : Set String
  names : Numbering
  start₁ : Db
  start₂ : Db

namespace Setting

variable (w : Setting)

/-- The plans of the tenant. -/
def plans : Renaming Plan where
  own p := p.organizationId == w.organizationId
  row := Plan.rename w.names
  keys := w.names.plans
  key_row _ := rfl
  own_row _ := rfl

/-- The customers of the tenant. -/
def customers : Renaming Customer where
  own c := c.organizationId == w.organizationId
  row := Customer.rename w.names
  keys := w.names.customers
  key_row _ := rfl
  own_row _ := rfl

/-- The subscriptions of the tenant. -/
def subscriptions : Renaming Subscription where
  own s := s.organizationId == w.organizationId
  row := Subscription.rename w.names
  keys := w.names.subscriptions
  key_row _ := rfl
  own_row _ := rfl

/-- The invoices of the tenant. -/
def invoices : Renaming Invoice where
  own i := i.organizationId == w.organizationId
  row := Invoice.rename w.names
  keys := w.names.invoices
  key_row _ := rfl
  own_row _ := rfl

/-- The invoice lines of the tenant. -/
def invoiceLines : Renaming InvoiceLine where
  own l := l.organizationId == w.organizationId
  row := InvoiceLine.rename w.names
  keys := w.names.invoiceLines
  key_row _ := rfl
  own_row _ := rfl

/-- The attempts of the tenant. -/
def attempts : Renaming PaymentAttempt where
  own p := p.organizationId == w.organizationId
  row := PaymentAttempt.rename w.names
  keys := w.names.attempts
  key_row _ := rfl
  own_row _ := rfl

open Classical in
/-- The receipts for the attempts of the organization. -/
noncomputable def receipts : Renaming MockChargeReceipt where
  own r := decide (r.providerIdempotencyKey ∈ w.providerKeys)
  row := MockChargeReceipt.rename w.names
  keys := w.names.receipts
  key_row _ := rfl
  own_row _ := rfl

/-- A provider key is taken by another organization in both databases, or in none. -/
def KeyNeutral (provider key : String) : Prop :=
  Neutral w.attempts w.start₁.attempts w.start₂.attempts fun q =>
    q.provider == provider && q.providerIdempotencyKey == key

/-- A charge id is taken by another organization in both databases, or in none. -/
def ChargeNeutral (provider chargeId : String) : Prop :=
  Neutral w.attempts w.start₁.attempts w.start₂.attempts fun q =>
    chargeId != "" && q.provider == provider && q.providerChargeId == chargeId

/-- The charge id of a provider result, as a column stores it. -/
def chargeText (response : List (String × Json)) (chargeId : String) : String :=
  w.env.columnText (PaymentService.incomingChargeId response chargeId)

end Setting

variable {w : Setting}

/-- A plan is the tenant's if its organization is. -/
@[simp] theorem own_plan {p : Plan} :
    w.plans.own p = true ↔ p.organizationId = w.organizationId := beq_iff_eq

/-- A customer is the tenant's if their organization is. -/
@[simp] theorem own_customer {c : Customer} :
    w.customers.own c = true ↔ c.organizationId = w.organizationId := beq_iff_eq

/-- A subscription is the tenant's if its organization is. -/
@[simp] theorem own_subscription {s : Subscription} :
    w.subscriptions.own s = true ↔ s.organizationId = w.organizationId := beq_iff_eq

/-- An invoice is the tenant's if its organization is. -/
@[simp] theorem own_invoice {i : Invoice} :
    w.invoices.own i = true ↔ i.organizationId = w.organizationId := beq_iff_eq

/-- A line is the tenant's if its organization is. -/
@[simp] theorem own_line {l : InvoiceLine} :
    w.invoiceLines.own l = true ↔ l.organizationId = w.organizationId := beq_iff_eq

/-- An attempt is the tenant's if its organization is. -/
@[simp] theorem own_attempt {p : PaymentAttempt} :
    w.attempts.own p = true ↔ p.organizationId = w.organizationId := beq_iff_eq

/-- A receipt is the tenant's if the tenant drew its key. -/
@[simp] theorem own_receipt {r : MockChargeReceipt} :
    w.receipts.own r = true ↔ r.providerIdempotencyKey ∈ w.providerKeys := by
  simp [Setting.receipts]

/-- A provider key that no other organization has. -/
theorem Setting.KeyNeutral.of_free {provider k : String}
    (h : ∀ q, q ∈ w.start₁.attempts ∨ q ∈ w.start₂.attempts →
      q.organizationId ≠ w.organizationId → q.provider = provider →
      q.providerIdempotencyKey ≠ k) : w.KeyNeutral provider k := by
  have hfails : ∀ q, q ∈ w.start₁.attempts ∨ q ∈ w.start₂.attempts → w.attempts.own q ≠ true →
      (q.provider == provider && q.providerIdempotencyKey == k) = false := by
    intro q hq hown
    refine Bool.eq_false_iff.mpr fun htest => ?_
    rw [Bool.and_eq_true, beq_iff_eq, beq_iff_eq] at htest
    exact h q hq (mt own_attempt.mpr hown) htest.1 htest.2
  exact Neutral.of_fails (fun q hq => hfails q (Or.inl hq)) fun q hq => hfails q (Or.inr hq)

/-- A charge id that no other organization has. -/
theorem Setting.ChargeNeutral.of_free {provider chargeId : String}
    (h : ∀ q, q ∈ w.start₁.attempts ∨ q ∈ w.start₂.attempts →
      q.organizationId ≠ w.organizationId → q.provider = provider → chargeId ≠ "" →
      q.providerChargeId ≠ chargeId) : w.ChargeNeutral provider chargeId := by
  have hfails : ∀ q, q ∈ w.start₁.attempts ∨ q ∈ w.start₂.attempts → w.attempts.own q ≠ true →
      (chargeId != "" && q.provider == provider && q.providerChargeId == chargeId) = false := by
    intro q hq hown
    refine Bool.eq_false_iff.mpr fun htest => ?_
    rw [Bool.and_eq_true, Bool.and_eq_true, bne_iff_ne, beq_iff_eq, beq_iff_eq] at htest
    exact h q hq (mt own_attempt.mpr hown) htest.1.2 htest.1.1 htest.2
  exact Neutral.of_fails (fun q hq => hfails q (Or.inl hq)) fun q hq => hfails q (Or.inr hq)

/-- The two databases, as far as the runs have come. -/
structure Twins (w : Setting) (db₁ db₂ : Db) : Prop where
  plans : Twin w.plans w.start₁.plans w.start₂.plans db₁.plans db₂.plans
  customers : Twin w.customers w.start₁.customers w.start₂.customers db₁.customers db₂.customers
  subscriptions : Twin w.subscriptions w.start₁.subscriptions w.start₂.subscriptions
    db₁.subscriptions db₂.subscriptions
  invoices : Twin w.invoices w.start₁.invoices w.start₂.invoices db₁.invoices db₂.invoices
  invoiceLines : Twin w.invoiceLines w.start₁.invoiceLines w.start₂.invoiceLines db₁.invoiceLines
    db₂.invoiceLines
  attempts : Twin w.attempts w.start₁.attempts w.start₂.attempts db₁.attempts db₂.attempts
  receipts : Twin w.receipts w.start₁.receipts w.start₂.receipts db₁.receipts db₂.receipts
  tenancy₁ : Tenancy db₁
  tenancy₂ : Tenancy db₂
  /-- The provider keys of the organization. -/
  providerKey : ∀ p ∈ db₁.attempts, p.organizationId = w.organizationId →
    p.providerIdempotencyKey ∈ w.providerKeys
  /-- The unique columns of the provider. -/
  neutral : ∀ p ∈ db₁.attempts, p.organizationId = w.organizationId →
    w.KeyNeutral p.provider p.providerIdempotencyKey ∧
      w.ChargeNeutral p.provider p.providerChargeId
  /-- The charge ids that the gateway answers with. -/
  charge : ∀ r ∈ db₁.receipts, r.providerIdempotencyKey ∈ w.providerKeys → ∀ provider,
    w.ChargeNeutral provider (w.chargeText r.providerResponse r.providerChargeId)
  /-- Both runs have handed off the same charges. -/
  tasks : ∃ l, db₁.chargeTasks = w.start₁.chargeTasks ++ l ∧
    db₂.chargeTasks = w.start₂.chargeTasks ++ l.map w.names.invoices.map ∧
    ∀ n ∈ l, HasRow w.invoices.own db₁.invoices n
  /-- The runs record no webhook event. -/
  events₁ : db₁.webhookEvents = w.start₁.webhookEvents

/-- A row of the organization is fetched in both runs. -/
theorem fetch_alike {α : Type} [Keyed α] {ρ : Renaming α} {u₁ u₂ t₁ t₂ : Table α}
    (h : Twin ρ u₁ u₂ t₁ t₂) {n : ℕ} (hn : HasRow ρ.own t₁ n) (model : String) :
    Alike (fun a b => b = ρ.row a ∧ a ∈ t₁ ∧ ρ.own a = true ∧ key a = n)
      (fetch t₁ model n) (fetch t₂ model (ρ.keys.map n)) := by
  obtain ⟨a, ha, hown, hkey, hget₁, hget₂⟩ := h.get? hn
  unfold fetch
  rw [hget₁, hget₂]
  exact .ok ⟨rfl, ha, hown, hkey⟩

/-- A check that both runs make on the same data. -/
theorem ensure_alike {c c' : Bool} (h : c' = c) (e : Err) :
    Alike (fun _ _ => c = true) (ensure c e) (ensure c' e) := by
  rw [h]
  cases c with
  | false => exact .error e
  | true => exact .ok rfl

/-! ## References -/

/-- Rows that agree with their parents on the organization are attached to them. -/
theorem attached_of_belongs {α β : Type} [Keyed α] [Keyed β] {ρ : Renaming α} {ρ' : Renaming β}
    {parent owner : α → ℕ} {owner' : β → ℕ} {t : Table α} {u : Table β} {organizationId : ℕ}
    (h : Belongs parent owner owner' t u) (hρ : ∀ a, ρ.own a = (owner a == organizationId))
    (hρ' : ∀ b, ρ'.own b = (owner' b == organizationId)) : Attached ρ ρ' parent t u := by
  intro a ha
  obtain ⟨b, hb, hkey, howner⟩ := h a ha
  exact ⟨b, hb, hkey, by rw [hρ, hρ', howner]⟩

section links

variable {db : Db}

/-- A subscription and its customer belong to one tenant. -/
theorem Tenancy.customers (h : Tenancy db) :
    Attached w.subscriptions w.customers Subscription.customerId db.subscriptions db.customers :=
  attached_of_belongs h.customer (fun _ => rfl) fun _ => rfl

/-- A subscription and its plan belong to one tenant. -/
theorem Tenancy.plans (h : Tenancy db) :
    Attached w.subscriptions w.plans Subscription.planId db.subscriptions db.plans :=
  attached_of_belongs h.plan (fun _ => rfl) fun _ => rfl

/-- An invoice and its subscription belong to one tenant. -/
theorem Tenancy.subscriptions (h : Tenancy db) :
    Attached w.invoices w.subscriptions Invoice.subscriptionId db.invoices db.subscriptions :=
  attached_of_belongs h.subscription (fun _ => rfl) fun _ => rfl

/-- A line and its invoice belong to one tenant. -/
theorem Tenancy.lines (h : Tenancy db) :
    Attached w.invoiceLines w.invoices InvoiceLine.invoiceId db.invoiceLines db.invoices :=
  attached_of_belongs h.line (fun _ => rfl) fun _ => rfl

/-- An attempt and its invoice belong to one tenant. -/
theorem Tenancy.attempts (h : Tenancy db) :
    Attached w.attempts w.invoices PaymentAttempt.invoiceId db.attempts db.invoices :=
  attached_of_belongs h.attempt (fun _ => rfl) fun _ => rfl

end links

/-- The rows of the organization stay, under their keys. -/
structure Persists (w : Setting) (db db' : Db) : Prop where
  plans : ∀ n, HasRow w.plans.own db.plans n → HasRow w.plans.own db'.plans n
  customers : ∀ n, HasRow w.customers.own db.customers n → HasRow w.customers.own db'.customers n
  subscriptions : ∀ n, HasRow w.subscriptions.own db.subscriptions n →
    HasRow w.subscriptions.own db'.subscriptions n
  invoices : ∀ n, HasRow w.invoices.own db.invoices n → HasRow w.invoices.own db'.invoices n
  attempts : ∀ n, HasRow w.attempts.own db.attempts n → HasRow w.attempts.own db'.attempts n

/-- The rows of a database persist in it. -/
theorem Persists.refl (db : Db) : Persists w db db :=
  ⟨fun _ h => h, fun _ h => h, fun _ h => h, fun _ h => h, fun _ h => h⟩

/-- Rows that persist twice persist. -/
theorem Persists.trans {db db' db'' : Db} (h : Persists w db db') (h' : Persists w db' db'') :
    Persists w db db'' :=
  ⟨fun n hn => h'.plans n (h.plans n hn), fun n hn => h'.customers n (h.customers n hn),
    fun n hn => h'.subscriptions n (h.subscriptions n hn),
    fun n hn => h'.invoices n (h.invoices n hn), fun n hn => h'.attempts n (h.attempts n hn)⟩

/-- The runs have come from `db` in the first run to `db₁` and `db₂`. -/
structure Kept (w : Setting) (db db₁ db₂ : Db) : Prop where
  twins : Twins w db₁ db₂
  persists : Persists w db db₁

/-- Twin databases keep their rows. -/
theorem Twins.kept {db₁ db₂ : Db} (h : Twins w db₁ db₂) : Kept w db₁ db₁ db₂ :=
  ⟨h, Persists.refl db₁⟩

/-- What is kept after more writes is kept from the first state. -/
theorem Kept.after {db db' db₁ db₂ : Db} (h : Kept w db' db₁ db₂) (hdb : Persists w db db') :
    Kept w db db₁ db₂ :=
  ⟨h.twins, hdb.trans h.persists⟩

namespace Twins

variable {db₁ db₂ : Db}

/-! ## Plans and customers -/

/-- A row under its key is of the organization, so it has not been moved. -/
theorem not_moved {α : Type} [Keyed α] {owner : α → ℕ} {organizationId : ℕ} {t : Table α} {n : ℕ}
    (h : ∀ q ∈ t, key q = n → owner q = organizationId) :
    t.any (fun q => key q == n && owner q != organizationId) = false := by
  refine Table.any_eq_false.mpr ?_
  intro q hq
  by_cases hkey : key q = n
  · simp [hkey, h q hq hkey]
  · simp [hkey]

/-- A new plan. -/
theorem insertPlan (h : Twins w db₁ db₂) {p : Plan} (hid : p.id = 0)
    (horg : p.organizationId = w.organizationId) :
    Alike (Kept w db₁) (p.save db₁) (p.save db₂) := by
  have hnone : ∀ {t : Table Plan}, t.any (fun q => q.id == p.id &&
      q.organizationId != p.organizationId) = false := by
    intro t
    refine not_moved fun q hq hkey => absurd (hkey.trans hid) ?_
    exact Nat.pos_iff_ne_zero.mp (t.key_pos q hq)
  have hrun : Alike (fun a b => a = { db₁ with plans := db₁.plans.insert p } ∧
      b = { db₂ with plans := db₂.plans.insert p }) (p.save db₁) (p.save db₂) := by
    unfold Plan.save
    rw [hnone, hnone]
    refine (ensure_alike rfl _).bind ?_
    rintro _ _ -
    refine .same rfl ?_
    rintro _ -
    refine .same rfl ?_
    rintro _ -
    refine .same rfl ?_
    rintro _ -
    rw [hid, Table.get?_zero, Table.get?_zero]
    exact .ok ⟨rfl, rfl⟩
  refine hrun.ended.mono ?_
  rintro _ _ ⟨⟨rfl, rfl⟩, h₁, h₂⟩
  refine ⟨{ h with
    plans := h.plans.insert (own_plan.mpr horg)
      (congrArg (fun n => { p with id := n }) h.plans.map_next.symm)
    tenancy₁ := Plan.save_tenancy h₁ h.tenancy₁
    tenancy₂ := Plan.save_tenancy h₂ h.tenancy₂ }, ?_⟩
  exact { Persists.refl db₁ with plans := fun n hn => hn.insert _ }

/-- A plan of the organization changes. -/
theorem updatePlan (h : Twins w db₁ db₂) {p : Plan} (hp : HasRow w.plans.own db₁.plans p.id)
    (horg : p.organizationId = w.organizationId) :
    Alike (Kept w db₁) (p.save db₁) ((p.rename w.names).save db₂) := by
  obtain ⟨stored, hstored, hown, hid, hget₁, hget₂⟩ := h.plans.get? hp
  have hmoved₁ : db₁.plans.any (fun q => q.id == p.id &&
      q.organizationId != p.organizationId) = false := by
    refine not_moved fun q hq hkey => ?_
    rw [Table.eq_of_key_eq hq hstored (hkey.trans hid.symm), own_plan.mp hown, horg]
  have hmoved₂ : db₂.plans.any (fun q => q.id == (p.rename w.names).id &&
      q.organizationId != (p.rename w.names).organizationId) = false := by
    refine not_moved fun q hq hkey => ?_
    have hkey₂ : key q = key (w.plans.row stored) :=
      hkey.trans (congrArg w.names.plans.map hid.symm)
    rw [Table.eq_of_key_eq hq (h.plans.mem hstored hown) hkey₂]
    exact (own_plan.mp hown).trans horg.symm
  have hget : db₂.plans.get? (p.rename w.names).id = some (stored.rename w.names) := hget₂
  have hrun : Alike (fun a b => a = { db₁ with plans := db₁.plans.update p } ∧
      b = { db₂ with plans := db₂.plans.update (p.rename w.names) })
      (p.save db₁) ((p.rename w.names).save db₂) := by
    unfold Plan.save
    rw [hmoved₁, hmoved₂]
    refine (ensure_alike rfl _).bind ?_
    rintro _ _ -
    refine .same rfl ?_
    rintro _ -
    refine .same rfl ?_
    rintro _ -
    refine .same rfl ?_
    rintro _ -
    rw [hget₁, hget]
    exact .ok ⟨rfl, rfl⟩
  refine hrun.ended.mono ?_
  rintro _ _ ⟨⟨rfl, rfl⟩, h₁, h₂⟩
  refine ⟨{ h with
    plans := h.plans.update hstored hid hown (own_plan.mpr horg)
    tenancy₁ := Plan.save_tenancy h₁ h.tenancy₁
    tenancy₂ := Plan.save_tenancy h₂ h.tenancy₂ }, ?_⟩
  exact { Persists.refl db₁ with plans := fun n hn => hn.update (own_plan.mpr horg) }

/-- A plan without subscriptions is deleted. -/
theorem deletePlan (h : Twins w db₁ db₂) {n : ℕ} (hn : HasRow w.plans.own db₁.plans n)
    (h₁ : ∀ s ∈ db₁.subscriptions, s.planId ≠ n)
    (h₂ : ∀ s ∈ db₂.subscriptions, s.planId ≠ w.names.plans.map n) :
    Twins w { db₁ with plans := db₁.plans.delete n }
      { db₂ with plans := db₂.plans.delete (w.names.plans.map n) } := by
  have htenancy : ∀ {db : Db} {m : ℕ}, Tenancy db → (∀ s ∈ db.subscriptions, s.planId ≠ m) →
      Tenancy { db with plans := db.plans.delete m } := by
    intro db m hdb hm
    refine { hdb with plan := ?_ }
    intro s hs
    obtain ⟨p, hp, hkey, horg⟩ := hdb.plan s hs
    exact ⟨p, Table.mem_delete.mpr ⟨hp, hkey ▸ hm s hs⟩, hkey, horg⟩
  exact { h with
    plans := h.plans.delete hn
    tenancy₁ := htenancy h.tenancy₁ h₁
    tenancy₂ := htenancy h.tenancy₂ h₂ }

/-- A new customer. -/
theorem insertCustomer (h : Twins w db₁ db₂) {c : Customer} (hid : c.id = 0)
    (horg : c.organizationId = w.organizationId) :
    Alike (Kept w db₁) (c.save db₁) (c.save db₂) := by
  have hnone : ∀ {t : Table Customer}, t.any (fun q => q.id == c.id &&
      q.organizationId != c.organizationId) = false := by
    intro t
    refine not_moved fun q hq hkey => absurd (hkey.trans hid) ?_
    exact Nat.pos_iff_ne_zero.mp (t.key_pos q hq)
  have hrun : Alike (fun a b => a = { db₁ with customers := db₁.customers.insert c } ∧
      b = { db₂ with customers := db₂.customers.insert c }) (c.save db₁) (c.save db₂) := by
    unfold Customer.save
    rw [hnone, hnone]
    refine (ensure_alike rfl _).bind ?_
    rintro _ _ -
    refine .same rfl ?_
    rintro _ -
    refine .same rfl ?_
    rintro _ -
    rw [hid, Table.get?_zero, Table.get?_zero]
    exact .ok ⟨rfl, rfl⟩
  refine hrun.ended.mono ?_
  rintro _ _ ⟨⟨rfl, rfl⟩, h₁, h₂⟩
  refine ⟨{ h with
    customers := h.customers.insert (own_customer.mpr horg)
      (congrArg (fun n => { c with id := n }) h.customers.map_next.symm)
    tenancy₁ := Customer.save_tenancy h₁ h.tenancy₁
    tenancy₂ := Customer.save_tenancy h₂ h.tenancy₂ }, ?_⟩
  exact { Persists.refl db₁ with customers := fun n hn => hn.insert _ }

/-- A customer of the organization changes. -/
theorem updateCustomer (h : Twins w db₁ db₂) {c : Customer}
    (hc : HasRow w.customers.own db₁.customers c.id)
    (horg : c.organizationId = w.organizationId) :
    Alike (Kept w db₁) (c.save db₁) ((c.rename w.names).save db₂) := by
  obtain ⟨stored, hstored, hown, hid, hget₁, hget₂⟩ := h.customers.get? hc
  have hmoved₁ : db₁.customers.any (fun q => q.id == c.id &&
      q.organizationId != c.organizationId) = false := by
    refine not_moved fun q hq hkey => ?_
    rw [Table.eq_of_key_eq hq hstored (hkey.trans hid.symm), own_customer.mp hown, horg]
  have hmoved₂ : db₂.customers.any (fun q => q.id == (c.rename w.names).id &&
      q.organizationId != (c.rename w.names).organizationId) = false := by
    refine not_moved fun q hq hkey => ?_
    have hkey₂ : key q = key (w.customers.row stored) :=
      hkey.trans (congrArg w.names.customers.map hid.symm)
    rw [Table.eq_of_key_eq hq (h.customers.mem hstored hown) hkey₂]
    exact (own_customer.mp hown).trans horg.symm
  have hget : db₂.customers.get? (c.rename w.names).id = some (stored.rename w.names) := hget₂
  have hrun : Alike (fun a b => a = { db₁ with customers := db₁.customers.update c } ∧
      b = { db₂ with customers := db₂.customers.update (c.rename w.names) })
      (c.save db₁) ((c.rename w.names).save db₂) := by
    unfold Customer.save
    rw [hmoved₁, hmoved₂]
    refine (ensure_alike rfl _).bind ?_
    rintro _ _ -
    refine .same rfl ?_
    rintro _ -
    refine .same rfl ?_
    rintro _ -
    rw [hget₁, hget]
    exact .ok ⟨rfl, rfl⟩
  refine hrun.ended.mono ?_
  rintro _ _ ⟨⟨rfl, rfl⟩, h₁, h₂⟩
  refine ⟨{ h with
    customers := h.customers.update hstored hid hown (own_customer.mpr horg)
    tenancy₁ := Customer.save_tenancy h₁ h.tenancy₁
    tenancy₂ := Customer.save_tenancy h₂ h.tenancy₂ }, ?_⟩
  exact { Persists.refl db₁ with customers := fun n hn => hn.update (own_customer.mpr horg) }

/-! ## Subscriptions -/

/-- The customer and the plan of a subscription. -/
theorem lockParents (h : Twins w db₁ db₂) {customerId planId : ℕ}
    (hc : HasRow w.customers.own db₁.customers customerId)
    (hp : HasRow w.plans.own db₁.plans planId) :
    Alike (fun a b => b = (a.1.rename w.names, a.2.rename w.names) ∧
        a.1.organizationId = w.organizationId ∧ a.2.organizationId = w.organizationId)
      (Subscription.lockParents db₁ customerId planId)
      (Subscription.lockParents db₂ (w.names.customers.map customerId)
        (w.names.plans.map planId)) := by
  refine (fetch_alike h.customers hc "Customer").bind ?_
  rintro c _ ⟨rfl, hc, hco, rfl⟩
  refine (fetch_alike h.plans hp "Plan").bind ?_
  rintro p _ ⟨rfl, hp, hpo, rfl⟩
  exact .ok ⟨rfl, own_customer.mp hco, own_plan.mp hpo⟩

/-- A row that is not in another organization. -/
theorem clean (h : Twins w db₁ db₂) {s : Subscription} {n : ℕ} (organization : Option ℕ)
    (hc : HasRow w.customers.own db₁.customers s.customerId)
    (hp : HasRow w.plans.own db₁.plans s.planId)
    (hn₁ : ∀ q ∈ db₁.subscriptions, q.id = s.id → q.organizationId = w.organizationId)
    (hn₂ : ∀ q ∈ db₂.subscriptions, q.id = n → q.organizationId = w.organizationId) :
    Alike (fun a b => a = { s with organizationId := w.organizationId } ∧
        b = { s.rename w.names with id := n, organizationId := w.organizationId })
      (Subscription.clean db₁ organization s)
      (Subscription.clean db₂ organization { s.rename w.names with id := n }) := by
  refine (fetch_alike h.customers hc "Customer").bind ?_
  rintro c _ ⟨rfl, hc, hco, hcid⟩
  refine (fetch_alike h.plans hp "Plan").bind ?_
  rintro p _ ⟨rfl, hp, hpo, hpid⟩
  refine (ensure_alike rfl _).bind ?_
  rintro _ _ -
  refine (ensure_alike rfl _).bind ?_
  rintro _ _ -
  rw [own_customer] at hco
  have hstays : ∀ {t : Table Subscription} {m : ℕ},
      (∀ q ∈ t, q.id = m → q.organizationId = w.organizationId) →
      (!t.any fun q => q.id == m && q.organizationId != c.organizationId) = true := by
    intro t m ht
    rw [Bool.not_eq_true', Table.any_eq_false]
    intro q hq
    by_cases hqm : q.id = m
    · simp [hqm, ht q hq hqm, hco]
    · simp [hqm]
  refine (ensure_alike ((hstays hn₂).trans (hstays hn₁).symm) _).bind ?_
  rintro _ _ -
  refine .ok ⟨?_, ?_⟩
  · rw [hco]
  · exact congrArg (fun o => { s.rename w.names with id := n, organizationId := o }) hco

/-- A new subscription. -/
theorem createSubscription (h : Twins w db₁ db₂) {s : Subscription} (hid : s.id = 0)
    (hc : HasRow w.customers.own db₁.customers s.customerId)
    (hp : HasRow w.plans.own db₁.plans s.planId) :
    Alike (fun a b => Kept w db₁ a.1 b.1 ∧ b.2 = a.2.rename w.names ∧
        HasRow w.subscriptions.own a.1.subscriptions a.2.id)
      (Subscription.create db₁ s) (Subscription.create db₂ { s.rename w.names with id := 0 }) := by
  have hnone : ∀ {t : Table Subscription}, ∀ q ∈ t, q.id = 0 →
      q.organizationId = w.organizationId :=
    fun {t} q hq hq0 => absurd hq0 (Nat.pos_iff_ne_zero.mp (t.key_pos q hq))
  have hrun : Alike (fun a b =>
      let row : Subscription := { s with organizationId := w.organizationId }
      a = ({ db₁ with subscriptions := db₁.subscriptions.insert row },
        withKey db₁.subscriptions.next row) ∧
      b = ({ db₂ with
          subscriptions := db₂.subscriptions.insert { row.rename w.names with id := 0 } },
        withKey db₂.subscriptions.next (row.rename w.names)))
      (Subscription.create db₁ s) (Subscription.create db₂ { s.rename w.names with id := 0 }) := by
    refine (h.lockParents hc hp).bind ?_
    rintro _ _ -
    refine (h.clean _ hc hp (hid ▸ hnone) hnone).bind ?_
    rintro _ _ ⟨rfl, rfl⟩
    exact .ok ⟨rfl, rfl⟩
  refine hrun.ended.mono ?_
  rintro _ _ ⟨⟨rfl, rfl⟩, h₁, h₂⟩
  have htwin := h.subscriptions.insert (a := { s with organizationId := w.organizationId })
    (b := { s.rename w.names with id := 0, organizationId := w.organizationId })
    (own_subscription.mpr rfl)
    (congrArg (fun n => { s.rename w.names with id := n, organizationId := w.organizationId })
      h.subscriptions.map_next.symm)
  refine ⟨⟨{ h with
    subscriptions := htwin
    tenancy₁ := (Write.subscription h₁).tenancy h.tenancy₁
    tenancy₂ := (Write.subscription h₂).tenancy h.tenancy₂ }, ?_⟩, ?_, ?_⟩
  · exact { Persists.refl db₁ with subscriptions := fun n hn => hn.insert _ }
  · exact congrArg (fun n => { s.rename w.names with id := n, organizationId := w.organizationId })
      h.subscriptions.map_next.symm
  · exact ⟨_, Table.mem_insert_self, own_subscription.mpr rfl, rfl⟩

/-- A row of the organization changes in both runs. -/
theorem updateSubscription (h : Twins w db₁ db₂) {s : Subscription}
    (hs : HasRow w.subscriptions.own db₁.subscriptions s.id)
    (horg : s.organizationId = w.organizationId)
    (htenancy₁ : Tenancy { db₁ with subscriptions := db₁.subscriptions.update s })
    (htenancy₂ : Tenancy { db₂ with
      subscriptions := db₂.subscriptions.update (s.rename w.names) }) :
    Kept w db₁ { db₁ with subscriptions := db₁.subscriptions.update s }
      { db₂ with subscriptions := db₂.subscriptions.update (s.rename w.names) } := by
  obtain ⟨row, hrow, hown, hkey⟩ := hs
  refine ⟨{ h with
    subscriptions := h.subscriptions.update hrow hkey hown (own_subscription.mpr horg)
    tenancy₁ := htenancy₁
    tenancy₂ := htenancy₂ }, ?_⟩
  exact { Persists.refl db₁ with
    subscriptions := fun n hn => hn.update (own_subscription.mpr horg) }

/-- Both runs do alike in the save of a subscription. -/
theorem saveSubscription (h : Twins w db₁ db₂) {s : Subscription} {fields : List SubscriptionField}
    (hs : HasRow w.subscriptions.own db₁.subscriptions s.id)
    (hc : HasRow w.customers.own db₁.customers s.customerId)
    (hp : HasRow w.plans.own db₁.plans s.planId) :
    Alike (Kept w db₁) (Subscription.save db₁ fields s)
      (Subscription.save db₂ fields (s.rename w.names)) := by
  obtain ⟨stored, hstored, hown, hid⟩ := hs
  have hn₁ : ∀ q ∈ db₁.subscriptions, q.id = s.id → q.organizationId = w.organizationId := by
    intro q hq hqid
    rw [Table.eq_of_key_eq hq hstored (hqid.trans hid.symm)]
    exact own_subscription.mp hown
  have hn₂ : ∀ q ∈ db₂.subscriptions, q.id = w.names.subscriptions.map s.id →
      q.organizationId = w.organizationId := by
    intro q hq hqid
    have hkey : key q = key (stored.rename w.names) :=
      hqid.trans (congrArg w.names.subscriptions.map hid.symm)
    rw [Table.eq_of_key_eq hq (h.subscriptions.mem hstored hown) hkey]
    exact own_subscription.mp hown
  have hrun : Alike (fun a b => ∃ row ∈ db₁.subscriptions, row.organizationId = w.organizationId ∧
      row.id = s.id ∧
      a = { db₁ with subscriptions := db₁.subscriptions.update (row.merge fields s) } ∧
      b = { db₂ with subscriptions :=
        db₂.subscriptions.update ((row.merge fields s).rename w.names) })
      (Subscription.save db₁ fields s) (Subscription.save db₂ fields (s.rename w.names)) := by
    refine (fetch_alike h.subscriptions ⟨stored, hstored, hown, hid⟩ "Subscription").bind ?_
    rintro row _ ⟨rfl, hrow, hrown, hrid⟩
    have hclean := h.clean (some s.organizationId) hc hp hn₁ hn₂
    refine .ite ?_ (fun _ => (h.lockParents hc hp).bind fun _ _ _ => hclean.bind ?_)
      fun _ => hclean.bind ?_
    · have hcid := h.customers.map_eq_map_iff (h.tenancy₁.customers.hasRow hrow hrown) hc
      have hpid := h.plans.map_eq_map_iff (h.tenancy₁.plans.hasRow hrow hrown) hp
      exact or_congr (not_congr hcid.symm) (not_congr hpid.symm)
    all_goals
      rintro _ _ ⟨rfl, rfl⟩
      exact .ok ⟨row, hrow, own_subscription.mp hrown, hrid, rfl, rfl⟩
  refine hrun.ended.mono ?_
  rintro _ _ ⟨⟨row, hrow, horg, hid, rfl, rfl⟩, h₁, h₂⟩
  exact h.updateSubscription (s := row.merge fields s) ⟨row, hrow, own_subscription.mpr horg, rfl⟩
    horg ((Write.subscriptionFields h₁).tenancy h.tenancy₁)
    ((Write.subscriptionFields h₂).tenancy h.tenancy₂)

/-- Both runs do alike in the transition of a subscription. -/
theorem transitionSubscription (h : Twins w db₁ db₂) {s : Subscription}
    (hs : HasRow w.subscriptions.own db₁.subscriptions s.id) (newStatus : SubscriptionStatus)
    (now : DateTime) :
    Alike (fun a b => Kept w db₁ a.1 b.1 ∧ a.2 = s.stamp newStatus now ∧
        b.2 = (s.stamp newStatus now).rename w.names)
      (s.transitionTo db₁ newStatus now) ((s.rename w.names).transitionTo db₂ newStatus now) := by
  obtain ⟨row, hrow, hown, -, hget₁, hget₂⟩ := h.subscriptions.get? hs
  have hrun : Alike (fun a b =>
      a = ({ db₁ with subscriptions := db₁.subscriptions.update (row.stamp newStatus now) },
        s.stamp newStatus now) ∧
      b = ({ db₂ with subscriptions :=
        db₂.subscriptions.update ((row.stamp newStatus now).rename w.names) },
        (s.stamp newStatus now).rename w.names))
      (s.transitionTo db₁ newStatus now) ((s.rename w.names).transitionTo db₂ newStatus now) := by
    have hget : db₂.subscriptions.get? (s.rename w.names).id = some (row.rename w.names) := hget₂
    unfold Subscription.transitionTo
    rw [hget₁, hget]
    refine .ite Iff.rfl (fun _ => ?_) fun _ => .error _
    exact .ite Iff.rfl (fun _ => .ok ⟨rfl, rfl⟩) fun _ => .error _
  refine hrun.ended.mono ?_
  rintro _ _ ⟨⟨rfl, rfl⟩, h₁, h₂⟩
  refine ⟨?_, rfl, rfl⟩
  exact h.updateSubscription (s := row.stamp newStatus now) ⟨row, hrow, hown, rfl⟩
    (own_subscription.mp hown) ((Write.subscriptionStatus h₁).tenancy h.tenancy₁)
    ((Write.subscriptionStatus h₂).tenancy h.tenancy₂)

/-! ## Invoices -/

/-- The tests on the invoices of a subscription. -/
theorem any_invoices (h : Twins w db₁ db₂) {n : ℕ}
    (hn : HasRow w.subscriptions.own db₁.subscriptions n) {p q : Invoice → Bool}
    (hpq : ∀ i ∈ db₁.invoices, w.invoices.own i = true → q (i.rename w.names) = p i) :
    db₂.invoices.any (fun i => i.subscriptionId == w.names.subscriptions.map n && q i) =
      db₁.invoices.any fun i => i.subscriptionId == n && p i :=
  h.invoices.any_children h.subscriptions h.tenancy₁.subscriptions h.tenancy₂.subscriptions
    (fun _ => rfl) hn hpq

/-- The invoices of a subscription are the renamed ones in the other run. -/
theorem filter_invoices (h : Twins w db₁ db₂) {n : ℕ}
    (hn : HasRow w.subscriptions.own db₁.subscriptions n) {p q : Invoice → Bool}
    (hpq : ∀ i ∈ db₁.invoices, w.invoices.own i = true → q (i.rename w.names) = p i) :
    db₂.invoices.filter (fun i => i.subscriptionId == w.names.subscriptions.map n && q i) =
      (db₁.invoices.filter fun i => i.subscriptionId == n && p i).map (Invoice.rename w.names) :=
  h.invoices.filter_children h.subscriptions h.tenancy₁.subscriptions h.tenancy₂.subscriptions
    (fun _ => rfl) hn hpq

/-- A new invoice. -/
theorem createInvoice (h : Twins w db₁ db₂) {i : Invoice} (hid : i.id = 0)
    (hs : HasRow w.subscriptions.own db₁.subscriptions i.subscriptionId) :
    Alike (fun a b => Kept w db₁ a.1 b.1 ∧ b.2 = a.2.rename w.names ∧
        HasRow w.invoices.own a.1.invoices a.2.id)
      (Invoice.create db₁ i) (Invoice.create db₂ { i.rename w.names with id := 0 }) := by
  have hnone : ∀ {t : Table Invoice} {o : ℕ},
      (!t.any fun q => q.id == 0 && q.organizationId != o) = true := by
    intro t o
    rw [Bool.not_eq_true', Table.any_eq_false]
    intro q hq
    have hne : q.id ≠ 0 := Nat.pos_iff_ne_zero.mp (t.key_pos q hq)
    simp [hne]
  have hrun : Alike (fun a b =>
      let row : Invoice := { i with organizationId := w.organizationId }
      a = ({ db₁ with invoices := db₁.invoices.insert row }, withKey db₁.invoices.next row) ∧
      b = ({ db₂ with invoices := db₂.invoices.insert { row.rename w.names with id := 0 } },
        withKey db₂.invoices.next (row.rename w.names)))
      (Invoice.create db₁ i) (Invoice.create db₂ { i.rename w.names with id := 0 }) := by
    have hclean : Alike (fun a b => a = { i with organizationId := w.organizationId } ∧
        b = { i.rename w.names with id := 0, organizationId := w.organizationId })
        (Invoice.clean db₁ none i) (Invoice.clean db₂ none { i.rename w.names with id := 0 }) := by
      refine (fetch_alike h.subscriptions hs "Subscription").bind ?_
      rintro s _ ⟨rfl, -, hown, -⟩
      have horg := own_subscription.mp hown
      refine (ensure_alike rfl _).bind ?_
      rintro _ _ -
      refine (ensure_alike (hnone.trans (by rw [hid]; exact hnone.symm)) _).bind ?_
      rintro _ _ -
      refine .ok ⟨?_, ?_⟩
      · rw [horg]
      · exact congrArg (fun o => { i.rename w.names with id := 0, organizationId := o }) horg
    refine hclean.bind ?_
    rintro _ _ ⟨rfl, rfl⟩
    have hany := h.any_invoices hs (q := fun q => q.periodStart == i.periodStart &&
      q.periodEnd == i.periodEnd) fun _ _ _ => rfl
    simp only [← Bool.and_assoc] at hany
    refine (ensure_alike (congrArg (!·) hany) _).bind ?_
    rintro _ _ -
    exact .ok ⟨rfl, rfl⟩
  refine hrun.ended.mono ?_
  rintro _ _ ⟨⟨rfl, rfl⟩, h₁, h₂⟩
  have hrow : withKey db₂.invoices.next
      ({ i.rename w.names with id := 0, organizationId := w.organizationId } : Invoice) =
      Invoice.rename w.names
        (withKey db₁.invoices.next { i with organizationId := w.organizationId }) :=
    congrArg (fun n => { i.rename w.names with id := n, organizationId := w.organizationId })
      h.invoices.map_next.symm
  refine ⟨⟨{ h with
    invoices := h.invoices.insert (own_invoice.mpr rfl) hrow
    tenancy₁ := (Write.invoice h₁).tenancy h.tenancy₁
    tenancy₂ := (Write.invoice h₂).tenancy h.tenancy₂
    tasks := ?_ }, ?_⟩, hrow, ?_⟩
  · obtain ⟨l, hl₁, hl₂, hl⟩ := h.tasks
    exact ⟨l, hl₁, hl₂, fun n hn => (hl n hn).insert _⟩
  · exact { Persists.refl db₁ with invoices := fun n hn => hn.insert _ }
  · exact ⟨_, Table.mem_insert_self, own_invoice.mpr rfl, rfl⟩

/-- Both runs do alike in the transition of an invoice. -/
theorem transitionInvoice (h : Twins w db₁ db₂) {i : Invoice}
    (hi : HasRow w.invoices.own db₁.invoices i.id) (newStatus : InvoiceStatus) (now : DateTime) :
    Alike (fun a b => Kept w db₁ a.1 b.1 ∧ a.2 = i.stamp newStatus now ∧
        b.2 = (i.stamp newStatus now).rename w.names)
      (i.transitionTo db₁ newStatus now) ((i.rename w.names).transitionTo db₂ newStatus now) := by
  obtain ⟨row, hrow, hown, hid, hget₁, hget₂⟩ := h.invoices.get? hi
  have hrun : Alike (fun a b =>
      a = ({ db₁ with invoices := db₁.invoices.update (row.stamp newStatus now) },
        i.stamp newStatus now) ∧
      b = ({ db₂ with invoices :=
        db₂.invoices.update ((row.stamp newStatus now).rename w.names) },
        (i.stamp newStatus now).rename w.names))
      (i.transitionTo db₁ newStatus now) ((i.rename w.names).transitionTo db₂ newStatus now) := by
    have hget : db₂.invoices.get? (i.rename w.names).id = some (row.rename w.names) := hget₂
    unfold Invoice.transitionTo
    rw [hget₁, hget]
    refine .ite Iff.rfl (fun _ => ?_) fun _ => .error _
    exact .ite Iff.rfl (fun _ => .ok ⟨rfl, rfl⟩) fun _ => .error _
  refine hrun.ended.mono ?_
  rintro _ _ ⟨⟨rfl, rfl⟩, h₁, h₂⟩
  refine ⟨⟨{ h with
    invoices := h.invoices.update hrow rfl hown hown
    tenancy₁ := (Write.invoiceStatus h₁).tenancy h.tenancy₁
    tenancy₂ := (Write.invoiceStatus h₂).tenancy h.tenancy₂
    tasks := ?_ }, ?_⟩, rfl, rfl⟩
  · obtain ⟨l, hl₁, hl₂, hl⟩ := h.tasks
    exact ⟨l, hl₁, hl₂, fun n hn => (hl n hn).update hown⟩
  · exact { Persists.refl db₁ with invoices := fun n hn => hn.update hown }

/-- A new line of an invoice. -/
theorem createLine (h : Twins w db₁ db₂) {l : InvoiceLine}
    (hi : HasRow w.invoices.own db₁.invoices l.invoiceId) :
    Alike (Kept w db₁) (InvoiceLine.create db₁ l)
      (InvoiceLine.create db₂ { l.rename w.names with id := 0 }) := by
  have hrun : Alike (fun a b =>
      let row : InvoiceLine := { l with organizationId := w.organizationId }
      a = { db₁ with invoiceLines := db₁.invoiceLines.insert row } ∧
      b = { db₂ with invoiceLines :=
        db₂.invoiceLines.insert { row.rename w.names with id := 0 } })
      (InvoiceLine.create db₁ l) (InvoiceLine.create db₂ { l.rename w.names with id := 0 }) := by
    refine (fetch_alike h.invoices hi "Invoice").bind ?_
    rintro i _ ⟨rfl, -, hown, -⟩
    refine .same rfl ?_
    rintro _ -
    have horg := own_invoice.mp hown
    refine .ok ⟨?_, ?_⟩
    · rw [horg]
    · exact congrArg (fun o => { db₂ with
        invoiceLines := db₂.invoiceLines.insert { l.rename w.names with
          id := 0
          organizationId := o } }) horg
  refine hrun.ended.mono ?_
  rintro _ _ ⟨⟨rfl, rfl⟩, h₁, h₂⟩
  have hrow : withKey db₂.invoiceLines.next
      ({ l.rename w.names with id := 0, organizationId := w.organizationId } : InvoiceLine) =
      InvoiceLine.rename w.names
        (withKey db₁.invoiceLines.next { l with organizationId := w.organizationId }) :=
    congrArg (fun n => { l.rename w.names with id := n, organizationId := w.organizationId })
      h.invoiceLines.map_next.symm
  refine ⟨{ h with
    invoiceLines := h.invoiceLines.insert (own_line.mpr rfl) hrow
    tenancy₁ := (Write.line h₁).tenancy h.tenancy₁
    tenancy₂ := (Write.line h₂).tenancy h.tenancy₂ }, ?_⟩
  exact { Persists.refl db₁ with plans := fun n hn => hn }

/-- The same charge is handed off. -/
theorem handOff (h : Twins w db₁ db₂) {n : ℕ} (hn : HasRow w.invoices.own db₁.invoices n) :
    Kept w db₁ (InvoiceService.handOff db₁ n)
      (InvoiceService.handOff db₂ (w.names.invoices.map n)) := by
  obtain ⟨l, hl₁, hl₂, hl⟩ := h.tasks
  refine ⟨{ h with
    tenancy₁ := (Write.handOff _).tenancy h.tenancy₁
    tenancy₂ := (Write.handOff _).tenancy h.tenancy₂
    tasks := ⟨l ++ [n], ?_, ?_, ?_⟩ }, ?_⟩
  · rw [← List.append_assoc, ← hl₁]
    rfl
  · rw [List.map_append, ← List.append_assoc, ← hl₂]
    rfl
  · intro m hm
    rcases List.mem_append.mp hm with hm | hm
    · exact hl m hm
    · rw [List.mem_singleton.mp hm]
      exact hn
  · exact { Persists.refl db₁ with plans := fun n hn => hn }

/-! ## Payment attempts -/

/-- The tests on the attempts of an invoice. -/
theorem any_attempts (h : Twins w db₁ db₂) {n : ℕ} (hn : HasRow w.invoices.own db₁.invoices n)
    {p q : PaymentAttempt → Bool}
    (hpq : ∀ a ∈ db₁.attempts, w.attempts.own a = true → q (a.rename w.names) = p a) :
    db₂.attempts.any (fun a => a.invoiceId == w.names.invoices.map n && q a) =
      db₁.attempts.any fun a => a.invoiceId == n && p a :=
  h.attempts.any_children h.invoices h.tenancy₁.attempts h.tenancy₂.attempts (fun _ => rfl) hn hpq

/-- The attempts of an invoice are the renamed ones in the other run. -/
theorem filter_attempts (h : Twins w db₁ db₂) {n : ℕ} (hn : HasRow w.invoices.own db₁.invoices n)
    {p q : PaymentAttempt → Bool}
    (hpq : ∀ a ∈ db₁.attempts, w.attempts.own a = true → q (a.rename w.names) = p a) :
    db₂.attempts.filter (fun a => a.invoiceId == w.names.invoices.map n && q a) =
      (db₁.attempts.filter fun a => a.invoiceId == n && p a).map
        (PaymentAttempt.rename w.names) :=
  h.attempts.filter_children h.invoices h.tenancy₁.attempts h.tenancy₂.attempts (fun _ => rfl) hn
    hpq

/-- The unique constraints do not look into other organizations. -/
theorem checkConstraints (h : Twins w db₁ db₂) (row : PaymentAttempt) {n : ℕ}
    (horg : row.organizationId = w.organizationId)
    (hi : HasRow w.invoices.own db₁.invoices row.invoiceId)
    (hid : ∀ q ∈ db₁.attempts, q.organizationId = w.organizationId →
      (w.names.attempts.map q.id = n ↔ q.id = row.id))
    (hid₁ : ∀ q ∈ db₁.attempts, q.id = row.id → q.organizationId = w.organizationId)
    (hid₂ : ∀ q ∈ db₂.attempts, q.id = n → q.organizationId = w.organizationId)
    (hkey : w.KeyNeutral row.provider row.providerIdempotencyKey)
    (hcharge : w.ChargeNeutral row.provider row.providerChargeId) :
    PaymentAttempt.checkConstraints db₂ { row.rename w.names with id := n } =
      PaymentAttempt.checkConstraints db₁ row := by
  have hother : ∀ q ∈ db₁.attempts, w.attempts.own q = true →
      ((q.rename w.names).id != n) = (q.id != row.id) := by
    intro q hq hown
    rw [Bool.eq_iff_iff, bne_iff_ne, bne_iff_ne]
    exact not_congr (hid q hq (own_attempt.mp hown))
  -- a test that the rows of other organizations pass in both databases or in none
  have hneutral : ∀ {f g r : PaymentAttempt → Bool},
      Neutral w.attempts w.start₁.attempts w.start₂.attempts r →
      (∀ q ∈ db₁.attempts, w.attempts.own q ≠ true → f q = r q) →
      (∀ q ∈ db₂.attempts, w.attempts.own q ≠ true → g q = r q) →
      (∀ q ∈ db₁.attempts, w.attempts.own q = true → g (q.rename w.names) = f q) →
      (!(db₂.attempts.filter fun q => q.id != n).any g) =
        !(db₁.attempts.filter fun q => q.id != row.id).any f := by
    intro f g r hr hf hg hfg
    unfold Table.filter
    rw [List.any_filter, List.any_filter]
    refine congrArg (!·) (h.attempts.any_neutral hr ?_ ?_ ?_)
    · intro q hq hown
      have hne : q.id ≠ row.id := fun hsame => hown (own_attempt.mpr (hid₁ q hq hsame))
      rw [bne_iff_ne.mpr hne, Bool.true_and, hf q hq hown]
    · intro q hq hown
      have hne : q.id ≠ n := fun hsame => hown (own_attempt.mpr (hid₂ q hq hsame))
      rw [bne_iff_ne.mpr hne, Bool.true_and, hg q hq hown]
    · intro q hq hown
      exact congrArg₂ (· && ·) (hother q hq hown) (hfg q hq hown)
  -- a test that only passes rows of the organization
  have hany : ∀ {f g : PaymentAttempt → Bool},
      (∀ q ∈ db₁.attempts, f q = true → w.attempts.own q = true) →
      (∀ q ∈ db₂.attempts, g q = true → w.attempts.own q = true) →
      (∀ q ∈ db₁.attempts, w.attempts.own q = true → g (q.rename w.names) = f q) →
      (!(db₂.attempts.filter fun q => q.id != n).any g) =
        !(db₁.attempts.filter fun q => q.id != row.id).any f := by
    intro f g hf hg hfg
    refine hneutral Neutral.never ?_ ?_ hfg
    · intro q hq hown
      exact Bool.eq_false_iff.mpr (mt (hf q hq) hown)
    · intro q hq hown
      exact Bool.eq_false_iff.mpr (mt (hg q hq) hown)
  have hthen : ∀ {x y x' y' : Except Err Unit}, x = x' → y = y' →
      (x >>= fun _ => y) = (x' >>= fun _ => y') := fun hx hy => by rw [hx, hy]
  refine hthen (congrArg (ensure · _) (hany ?_ ?_ fun _ _ _ => rfl)) (hthen (congrArg (ensure · _)
    (hany ?_ ?_ ?_)) (hthen (congrArg (ensure · _) (hneutral hkey ?_ ?_ fun _ _ _ => rfl))
    (congrArg (ensure · _) (hneutral hcharge ?_ ?_ fun _ _ _ => rfl))))
  case refine_1 | refine_2 =>
    -- the client key
    intro q _ htest
    simp only [Bool.and_eq_true, beq_iff_eq] at htest
    exact own_attempt.mpr (htest.1.2.trans horg)
  case refine_3 =>
    -- the success of the invoice
    obtain ⟨i, hi, hown, hikey⟩ := hi
    intro q hq htest
    simp only [Bool.and_eq_true, beq_iff_eq] at htest
    exact (h.tenancy₁.attempts.own hq hi (htest.1.2.trans hikey.symm)).trans hown
  case refine_4 =>
    obtain ⟨i, hi, hown, hikey⟩ := hi
    intro q hq htest
    simp only [Bool.and_eq_true, beq_iff_eq] at htest
    have hkey : q.invoiceId = key (i.rename w.names) :=
      htest.1.2.trans (congrArg w.names.invoices.map hikey.symm)
    exact (h.tenancy₂.attempts.own hq (h.invoices.mem hi hown) hkey).trans hown
  case refine_5 =>
    intro q hq hown
    have hinvoice := h.invoices.map_eq_map_iff (h.tenancy₁.attempts.hasRow hq hown) hi
    have hsame : ((q.rename w.names).invoiceId == w.names.invoices.map row.invoiceId) =
        (q.invoiceId == row.invoiceId) := by
      rw [Bool.eq_iff_iff, beq_iff_eq, beq_iff_eq]
      exact hinvoice
    exact congrArg (fun b => row.status == .success && b && q.status == .success) hsame
  all_goals exact fun _ _ _ => rfl

/-- The snapshot of an attempt is compared with the one that is stored. -/
theorem cleanAttempt (h : Twins w db₁ db₂) {p : PaymentAttempt} {n : ℕ} (organization : Option ℕ)
    (hi : HasRow w.invoices.own db₁.invoices p.invoiceId)
    (hsnapshot : ((db₂.attempts.get? n).all fun q =>
        q.snapshot == ({ p.rename w.names with id := n } : PaymentAttempt).snapshot) =
      (db₁.attempts.get? p.id).all fun q => q.snapshot == p.snapshot) :
    Alike (fun a b => (a = { p with organizationId := w.organizationId } ∧
        b = { p.rename w.names with id := n, organizationId := w.organizationId }) ∧
        ((db₁.attempts.get? p.id).all fun q => q.snapshot == p.snapshot) = true)
      (PaymentAttempt.clean db₁ organization p)
      (PaymentAttempt.clean db₂ organization { p.rename w.names with id := n }) := by
  refine (fetch_alike h.invoices hi "Invoice").bind ?_
  rintro i _ ⟨rfl, -, hown, -⟩
  have horg := own_invoice.mp hown
  refine (ensure_alike rfl _).bind ?_
  rintro _ _ -
  refine (ensure_alike hsnapshot _).bind ?_
  rintro _ _ hstored
  refine .ok ⟨⟨?_, ?_⟩, hstored⟩
  · rw [horg]
  · exact congrArg (fun o => { p.rename w.names with id := n, organizationId := o }) horg

/-- A new attempt, with a key for the provider. -/
theorem createAttempt (h : Twins w db₁ db₂) {p : PaymentAttempt} (hid : p.id = 0)
    (hi : HasRow w.invoices.own db₁.invoices p.invoiceId)
    (hmem : p.providerIdempotencyKey ∈ w.providerKeys)
    (hkey : w.KeyNeutral p.provider p.providerIdempotencyKey)
    (hcharge : w.ChargeNeutral p.provider p.providerChargeId) :
    Alike (fun a b => Kept w db₁ a.1 b.1 ∧ b.2 = a.2.rename w.names ∧
        HasRow w.attempts.own a.1.attempts a.2.id)
      (PaymentAttempt.create db₁ p)
      (PaymentAttempt.create db₂ { p.rename w.names with id := 0 }) := by
  let row : PaymentAttempt := { p with
    idempotencyKey := normalizeKey p.idempotencyKey
    organizationId := w.organizationId }
  have hnone : ∀ {t : Table PaymentAttempt}, ∀ q ∈ t, q.id = 0 →
      q.organizationId = w.organizationId :=
    fun {t} q hq hq0 => absurd hq0 (Nat.pos_iff_ne_zero.mp (t.key_pos q hq))
  have hrun : Alike (fun a b =>
      a = ({ db₁ with attempts := db₁.attempts.insert row }, withKey db₁.attempts.next row) ∧
      b = ({ db₂ with attempts := db₂.attempts.insert { row.rename w.names with id := 0 } },
        withKey db₂.attempts.next (row.rename w.names)))
      (PaymentAttempt.create db₁ p)
      (PaymentAttempt.create db₂ { p.rename w.names with id := 0 }) := by
    have hclean := h.cleanAttempt
      (p := { p with idempotencyKey := normalizeKey p.idempotencyKey }) (n := 0) none hi
      (by rw [hid, Table.get?_zero, Table.get?_zero]; rfl)
    have hrow : row.id = 0 := hid
    have hconstraints := h.checkConstraints row (n := 0) rfl hi (fun q hq hown => by
      have hpos₁ : 0 < q.id := db₁.attempts.key_pos q hq
      have hpos₂ : 0 < w.names.attempts.map q.id :=
        db₂.attempts.key_pos _ (h.attempts.mem hq (own_attempt.mpr hown))
      omega) (hrow ▸ hnone) hnone hkey hcharge
    refine hclean.bind ?_
    rintro _ _ ⟨⟨rfl, rfl⟩, -⟩
    refine .same rfl ?_
    rintro _ -
    refine .same hconstraints ?_
    rintro _ -
    exact .ok ⟨rfl, rfl⟩
  refine hrun.ended.mono ?_
  rintro _ _ ⟨⟨rfl, rfl⟩, h₁, h₂⟩
  have hrow : withKey db₂.attempts.next ({ row.rename w.names with id := 0 } : PaymentAttempt) =
      (withKey db₁.attempts.next row).rename w.names :=
    congrArg (fun n => { row.rename w.names with id := n }) h.attempts.map_next.symm
  refine ⟨⟨{ h with
    attempts := h.attempts.insert (own_attempt.mpr rfl) hrow
    tenancy₁ := (Write.attempt hid h₁).tenancy h.tenancy₁
    tenancy₂ := (Write.attempt rfl h₂).tenancy h.tenancy₂
    providerKey := ?_
    neutral := ?_ }, ?_⟩, hrow, ?_⟩
  · intro q hq hown
    rcases Table.mem_insert.mp hq with hq | rfl
    · exact h.providerKey q hq hown
    · exact hmem
  · intro q hq hown
    rcases Table.mem_insert.mp hq with hq | rfl
    · exact h.neutral q hq hown
    · exact ⟨hkey, hcharge⟩
  · exact { Persists.refl db₁ with attempts := fun n hn => hn.insert _ }
  · exact ⟨_, Table.mem_insert_self, own_attempt.mpr rfl, rfl⟩

/-- Snapshots agree in both runs, or in none. -/
theorem snapshot_rename {ν : Numbering} {p q : PaymentAttempt}
    (h : ν.invoices.map p.invoiceId = ν.invoices.map q.invoiceId ↔ p.invoiceId = q.invoiceId) :
    ((p.rename ν).snapshot == (q.rename ν).snapshot) = (p.snapshot == q.snapshot) := by
  rw [Bool.eq_iff_iff, beq_iff_eq, beq_iff_eq]
  simp only [PaymentAttempt.snapshot, PaymentAttempt.rename, Prod.mk.injEq, h]

/-- A merge of saved fields commutes with the other numbering. -/
theorem merge_rename {ν : Numbering} {fields : List PaymentField} {p q : PaymentAttempt} :
    (q.rename ν).merge fields (p.rename ν) = (q.merge fields p).rename ν := by
  simp only [PaymentAttempt.merge, PaymentAttempt.rename, apply_ite ν.invoices.map]

/-- An attempt settles with the same data in both runs. -/
theorem saveAttempt (h : Twins w db₁ db₂) {p : PaymentAttempt} (fields : List PaymentField)
    (hfields : ∀ f ∈ fields, f ∈ settlementFields) (hp : HasRow w.attempts.own db₁.attempts p.id)
    (hi : HasRow w.invoices.own db₁.invoices p.invoiceId)
    (hcharge : w.ChargeNeutral p.provider p.providerChargeId) :
    Alike (Kept w db₁) (PaymentAttempt.save db₁ fields p)
      (PaymentAttempt.save db₂ fields (p.rename w.names)) := by
  obtain ⟨stored, hstored, hown, hid, hget₁, hget₂⟩ := h.attempts.get? hp
  have hsame := PaymentAttempt.merge_sameSnapshot hfields stored p
  have hinvoice := h.tenancy₁.attempts.hasRow hstored hown
  have horg := own_attempt.mp hown
  have hget : db₂.attempts.get? (w.names.attempts.map p.id) = some (stored.rename w.names) := hget₂
  have hrow : p.provider = stored.provider →
      w.KeyNeutral (stored.merge fields p).provider (stored.merge fields p).providerIdempotencyKey ∧
        w.ChargeNeutral (stored.merge fields p).provider
          (stored.merge fields p).providerChargeId := by
    intro hprovider
    rw [hsame.provider, hsame.providerIdempotencyKey]
    refine ⟨(h.neutral stored hstored horg).1, ?_⟩
    by_cases hfield : PaymentField.providerChargeId ∈ fields
    · have hnew : (stored.merge fields p).providerChargeId = p.providerChargeId := if_pos hfield
      rw [hnew, ← hprovider]
      exact hcharge
    · have hold : (stored.merge fields p).providerChargeId = stored.providerChargeId :=
        if_neg hfield
      rw [hold]
      exact (h.neutral stored hstored horg).2
  have hrun : Alike (fun a b =>
      (a = { db₁ with attempts := db₁.attempts.update (stored.merge fields p) } ∧
      b = { db₂ with attempts :=
        db₂.attempts.update ((stored.merge fields p).rename w.names) }) ∧
      p.provider = stored.provider)
      (PaymentAttempt.save db₁ fields p) (PaymentAttempt.save db₂ fields (p.rename w.names)) := by
    have hclean := h.cleanAttempt
      (p := { p with idempotencyKey := normalizeKey p.idempotencyKey })
      (n := w.names.attempts.map p.id) (some p.organizationId) hi (by
        rw [hget₁, hget]
        exact snapshot_rename (q := { p with idempotencyKey := normalizeKey p.idempotencyKey })
          (h.invoices.map_eq_map_iff hinvoice hi))
    refine hclean.bind ?_
    rintro _ _ ⟨⟨rfl, rfl⟩, hsnapshot⟩
    have hprovider : p.provider = stored.provider := by
      rw [hget₁, Option.all_some, beq_iff_eq] at hsnapshot
      exact (congrArg (fun snapshot => snapshot.2.1) hsnapshot).symm
    refine (fetch_alike h.attempts hp "PaymentAttempt").bind ?_
    rintro q _ ⟨rfl, hq, -, hqid⟩
    obtain rfl := Table.eq_of_key_eq hq hstored (hqid.trans hid.symm)
    have hmerge₁ := PaymentAttempt.merge_settlement hfields q p w.organizationId
      (normalizeKey p.idempotencyKey)
    have hmerge₂ : (q.rename w.names).merge fields { p.rename w.names with
        idempotencyKey := normalizeKey p.idempotencyKey
        organizationId := w.organizationId } = (q.merge fields p).rename w.names :=
      (PaymentAttempt.merge_settlement hfields _ (p.rename w.names) _ _).trans merge_rename
    have hconstraints := h.checkConstraints (q.merge fields p)
      (n := w.names.attempts.map q.id) (hsame.organizationId.trans horg)
      (by rw [hsame.invoiceId]; exact hinvoice)
      (fun r hr hrown => h.attempts.map_eq_map_iff (.of_mem hr (own_attempt.mpr hrown))
        (.of_mem hq hown))
      (fun r hr hrid => Table.eq_of_key_eq hr hq hrid ▸ horg)
      (fun r hr hrid => by
        rw [Table.eq_of_key_eq hr (h.attempts.mem hq hown) hrid]
        exact horg)
      (hrow hprovider).1 (hrow hprovider).2
    refine .same ((congrArg PaymentAttempt.checkLengths hmerge₂).trans
      (congrArg PaymentAttempt.checkLengths hmerge₁).symm) ?_
    rintro _ -
    refine .same ((congrArg (PaymentAttempt.checkConstraints db₂) hmerge₂).trans
      (hconstraints.trans (congrArg (PaymentAttempt.checkConstraints db₁) hmerge₁).symm)) ?_
    rintro _ -
    refine .ok ⟨⟨?_, ?_⟩, hprovider⟩
    · rw [hmerge₁]
    · exact congrArg (fun r => { db₂ with attempts := db₂.attempts.update r }) hmerge₂
  refine hrun.ended.mono ?_
  rintro _ _ ⟨⟨⟨rfl, rfl⟩, hprovider⟩, h₁, h₂⟩
  refine ⟨{ h with
    attempts := h.attempts.update hstored rfl hown
      (own_attempt.mpr (hsame.organizationId.trans horg))
    tenancy₁ := (Write.attemptFields hfields h₁).tenancy h.tenancy₁
    tenancy₂ := (Write.attemptFields hfields h₂).tenancy h.tenancy₂
    providerKey := ?_
    neutral := ?_ }, ?_⟩
  · intro q hq hqown
    rcases Table.mem_update.mp hq with ⟨rfl, -⟩ | ⟨hq, -⟩
    · rw [hsame.providerIdempotencyKey]
      exact h.providerKey stored hstored horg
    · exact h.providerKey q hq hqown
  · intro q hq hqown
    rcases Table.mem_update.mp hq with ⟨rfl, -⟩ | ⟨hq, -⟩
    · exact hrow hprovider
    · exact h.neutral q hq hqown
  · exact { Persists.refl db₁ with
      attempts := fun n hn => hn.update (own_attempt.mpr (hsame.organizationId.trans horg)) }

end Twins

end Chargeflow
