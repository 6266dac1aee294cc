import Chargeflow.Effects.TwinServices
import Chargeflow.Effects.Requests

/-!
# The view sets in two runs

The same request on two stores that agree on the rows of one organization.  Every handler finds the
same rows in both, so it refuses both requests with the same words, or it answers with the same data
up to the keys of new rows.
-/

namespace Chargeflow

open Foundation

/-! ## Renaming of responses -/

/-- The keys that two stores hand out next. -/
def Numbering.between (s₁ s₂ : Store) : Numbering where
  plans := ⟨s₁.db.plans.next, s₂.db.plans.next⟩
  customers := ⟨s₁.db.customers.next, s₂.db.customers.next⟩
  subscriptions := ⟨s₁.db.subscriptions.next, s₂.db.subscriptions.next⟩
  invoices := ⟨s₁.db.invoices.next, s₂.db.invoices.next⟩
  invoiceLines := ⟨s₁.db.invoiceLines.next, s₂.db.invoiceLines.next⟩
  attempts := ⟨s₁.db.attempts.next, s₂.db.attempts.next⟩
  receipts := ⟨s₁.db.receipts.next, s₂.db.receipts.next⟩
  apiKeys := ⟨s₁.accounts.apiKeys.next, s₂.accounts.apiKeys.next⟩
  invitations := ⟨s₁.accounts.invitations.next, s₂.accounts.invitations.next⟩

/-- The data of a line under the other numbering. -/
def InvoiceLineData.rename (ν : Numbering) (l : InvoiceLineData) : InvoiceLineData :=
  { l with id := ν.invoiceLines.map l.id }

/-- The keys that a serialized row names.  Memberships are never created by these requests. -/
def Item.rename (ν : Numbering) : Item → Item
  | .plan p => .plan { p with id := ν.plans.map p.id }
  | .customer c => .customer { c with id := ν.customers.map c.id }
  | .subscription s => .subscription { s with
      id := ν.subscriptions.map s.id
      customer := ν.customers.map s.customer
      plan := ν.plans.map s.plan }
  | .invoice i => .invoice { i with
      id := ν.invoices.map i.id
      subscription := ν.subscriptions.map i.subscription
      lines := i.lines.map (InvoiceLineData.rename ν) }
  | .attempt p => .attempt { p with
      id := ν.attempts.map p.id
      invoice := ν.invoices.map p.invoice }
  | .apiKey k => .apiKey { k with id := ν.apiKeys.map k.id }
  | .member m => .member m
  | .invitation i => .invitation { i with id := ν.invitations.map i.id }

/-- The body of a response under the other numbering. -/
def Body.rename (ν : Numbering) : Body → Body
  | .item row => .item (row.rename ν)
  | .list rows => .list (rows.map (Item.rename ν))
  | .created row secret => .created (row.rename ν) secret
  | body => body

/-- A response under the other numbering. -/
def Response.rename (ν : Numbering) (r : Response) : Response :=
  { r with body := r.body.rename ν }

/-- A refusal names no key. -/
theorem respond_rename (ν : Numbering) (e : Fault) : (respond e).rename ν = respond e := by
  unfold respond
  split <;> rfl

/-- A response to an exception names no row. -/
theorem notAttempted_rename (ν : Numbering) (e : Err) :
    (notAttempted e).rename ν = notAttempted e := by
  unfold notAttempted
  split
  case h_1 => rfl
  case h_2 => rfl
  case h_3 => exact respond_rename ν _

/-! ## Two stores -/

/-- Two stores agree on the rows of an organization. -/
structure SameTenant (organizationId : ℕ) (s₁ s₂ : Store) : Prop where
  plans : (s₂.db.plans.filter fun p => p.organizationId == organizationId) =
    s₁.db.plans.filter fun p => p.organizationId == organizationId
  descriptions : ∀ p ∈ s₁.db.plans, p.organizationId = organizationId →
    s₂.descriptions p.id = s₁.descriptions p.id
  customers : (s₂.db.customers.filter fun c => c.organizationId == organizationId) =
    s₁.db.customers.filter fun c => c.organizationId == organizationId
  contacts : ∀ c ∈ s₁.db.customers, c.organizationId = organizationId →
    s₂.contacts c.id = s₁.contacts c.id
  subscriptions : (s₂.db.subscriptions.filter fun s => s.organizationId == organizationId) =
    s₁.db.subscriptions.filter fun s => s.organizationId == organizationId
  invoices : (s₂.db.invoices.filter fun i => i.organizationId == organizationId) =
    s₁.db.invoices.filter fun i => i.organizationId == organizationId
  invoiceLines : (s₂.db.invoiceLines.filter fun l => l.organizationId == organizationId) =
    s₁.db.invoiceLines.filter fun l => l.organizationId == organizationId
  attempts : (s₂.db.attempts.filter fun p => p.organizationId == organizationId) =
    s₁.db.attempts.filter fun p => p.organizationId == organizationId
  apiKeys : (s₂.accounts.apiKeys.filter fun k => k.organizationId == organizationId) =
    s₁.accounts.apiKeys.filter fun k => k.organizationId == organizationId
  memberships : (s₂.accounts.memberships.filter fun m => m.organizationId == organizationId) =
    s₁.accounts.memberships.filter fun m => m.organizationId == organizationId
  invitations : (s₂.accounts.invitations.filter fun i => i.organizationId == organizationId) =
    s₁.accounts.invitations.filter fun i => i.organizationId == organizationId

/-- What a request leaves alone beside the billing tables. -/
structure Confined (organizationId : ℕ) (s s' : Store) : Prop where
  apiKeys : (s'.accounts.apiKeys.filter fun k => !(k.organizationId == organizationId)) =
    s.accounts.apiKeys.filter fun k => !(k.organizationId == organizationId)
  memberships : s'.accounts.memberships = s.accounts.memberships
  invitations : (s'.accounts.invitations.filter fun i => !(i.organizationId == organizationId)) =
    s.accounts.invitations.filter fun i => !(i.organizationId == organizationId)
  descriptions : ∀ p ∈ s.db.plans, p.organizationId ≠ organizationId →
    s'.descriptions p.id = s.descriptions p.id
  contacts : ∀ c ∈ s.db.customers, c.organizationId ≠ organizationId →
    s'.contacts c.id = s.contacts c.id

/-- Only billing tables have changed. -/
theorem Confined.of_db {organizationId : ℕ} (s : Store) (db : Db) :
    Confined organizationId s { s with db := db } :=
  ⟨rfl, rfl, rfl, fun _ _ _ => rfl, fun _ _ _ => rfl⟩

/-- Only billing tables and the description of one plan have changed. -/
theorem Confined.of_description {organizationId : ℕ} (s : Store) (db : Db) {n : ℕ} (d : String)
    (hn : ∀ p ∈ s.db.plans, p.organizationId ≠ organizationId → p.id ≠ n) :
    Confined organizationId s
      { s with db := db, descriptions := Function.update s.descriptions n d } :=
  { Confined.of_db s db with
    descriptions := fun p hp hother => Function.update_of_ne (hn p hp hother) _ _ }

/-- Only billing tables and the contact of one customer have changed. -/
theorem Confined.of_contact {organizationId : ℕ} (s : Store) (db : Db) {n : ℕ} (d : Contact)
    (hn : ∀ c ∈ s.db.customers, c.organizationId ≠ organizationId → c.id ≠ n) :
    Confined organizationId s { s with db := db, contacts := Function.update s.contacts n d } :=
  { Confined.of_db s db with
    contacts := fun c hc hother => Function.update_of_ne (hn c hc hother) _ _ }

/-- A request that writes nothing is confined. -/
theorem Confined.refl {organizationId : ℕ} (s : Store) : Confined organizationId s s :=
  .of_db s s.db

/-- The stores after a handler, and its answers. -/
structure Served (w : Setting) (s₁ s₂ : Store) (a b : Store × Response) : Prop where
  response : b.2 = a.2.rename w.names
  twins : Twins w a.1.db b.1.db
  confined₁ : Confined w.organizationId s₁ a.1
  confined₂ : Confined w.organizationId s₂ b.1

/-- The keys of the two runs are those that the stores hand out, and the rows of the first store
refer to its rows. -/
structure Numbered (w : Setting) (s₁ s₂ : Store) : Prop where
  names : w.names = .between s₁ s₂
  tenancy : Tenancy s₁.db

variable {w : Setting} {s₁ s₂ : Store}

namespace Numbered

/-! ## Rows at the start -/

/-- A plan of the tenant has one number in both runs. -/
theorem plan (h : Numbered w s₁ s₂) {p : Plan} (hp : p ∈ s₁.db.plans) :
    w.names.plans.map p.id = p.id :=
  h.names ▸ Shift.map_of_lt (Table.key_lt hp)

/-- A customer of the tenant has one number in both runs. -/
theorem customer (h : Numbered w s₁ s₂) {c : Customer} (hc : c ∈ s₁.db.customers) :
    w.names.customers.map c.id = c.id :=
  h.names ▸ Shift.map_of_lt (Table.key_lt hc)

/-- A subscription of the tenant is one row in both runs. -/
theorem subscription (h : Numbered w s₁ s₂) {s : Subscription} (hs : s ∈ s₁.db.subscriptions) :
    w.names.subscriptions.map s.id = s.id ∧ s.rename w.names = s := by
  have hid : w.names.subscriptions.map s.id = s.id := h.names ▸ Shift.map_of_lt (Table.key_lt hs)
  obtain ⟨c, hc, hcid, -⟩ := h.tenancy.customer s hs
  obtain ⟨p, hp, hpid, -⟩ := h.tenancy.plan s hs
  have hcustomer : w.names.customers.map s.customerId = s.customerId := hcid ▸ h.customer hc
  have hplan : w.names.plans.map s.planId = s.planId := hpid ▸ h.plan hp
  refine ⟨hid, ?_⟩
  unfold Subscription.rename
  rw [hid, hcustomer, hplan]

/-- An invoice of the tenant is one row in both runs. -/
theorem invoice (h : Numbered w s₁ s₂) {i : Invoice} (hi : i ∈ s₁.db.invoices) :
    w.names.invoices.map i.id = i.id ∧ i.rename w.names = i := by
  have hid : w.names.invoices.map i.id = i.id := h.names ▸ Shift.map_of_lt (Table.key_lt hi)
  obtain ⟨s, hs, hsid, -⟩ := h.tenancy.subscription i hi
  have hsubscription : w.names.subscriptions.map i.subscriptionId = i.subscriptionId :=
    hsid ▸ (h.subscription hs).1
  refine ⟨hid, ?_⟩
  unfold Invoice.rename
  rw [hid, hsubscription]

/-- A line of the tenant is one row in both runs. -/
theorem line (h : Numbered w s₁ s₂) {l : InvoiceLine} (hl : l ∈ s₁.db.invoiceLines) :
    l.rename w.names = l := by
  have hid : w.names.invoiceLines.map l.id = l.id := h.names ▸ Shift.map_of_lt (Table.key_lt hl)
  obtain ⟨i, hi, hiid, -⟩ := h.tenancy.line l hl
  have hinvoice : w.names.invoices.map l.invoiceId = l.invoiceId := hiid ▸ (h.invoice hi).1
  unfold InvoiceLine.rename
  rw [hid, hinvoice]

/-- An attempt of the tenant is one row in both runs. -/
theorem attempt (h : Numbered w s₁ s₂) {p : PaymentAttempt} (hp : p ∈ s₁.db.attempts) :
    p.rename w.names = p := by
  have hid : w.names.attempts.map p.id = p.id := h.names ▸ Shift.map_of_lt (Table.key_lt hp)
  obtain ⟨i, hi, hiid, -⟩ := h.tenancy.attempt p hp
  have hinvoice : w.names.invoices.map p.invoiceId = p.invoiceId := hiid ▸ (h.invoice hi).1
  unfold PaymentAttempt.rename
  rw [hid, hinvoice]

/-- A receipt of the tenant is one row in both runs. -/
theorem receipt (h : Numbered w s₁ s₂) {r : MockChargeReceipt} (hr : r ∈ s₁.db.receipts) :
    r.rename w.names = r := by
  have hid : w.names.receipts.map r.id = r.id := h.names ▸ Shift.map_of_lt (Table.key_lt hr)
  exact congrArg (fun n => { r with id := n }) hid

/-- An API key of the tenant has one number in both runs. -/
theorem apiKey (h : Numbered w s₁ s₂) {k : ApiKey} (hk : k ∈ s₁.accounts.apiKeys) :
    w.names.apiKeys.map k.id = k.id :=
  h.names ▸ Shift.map_of_lt (Table.key_lt hk)

/-- An invitation of the tenant has one number in both runs. -/
theorem invitation (h : Numbered w s₁ s₂) {i : Invitation} (hi : i ∈ s₁.accounts.invitations) :
    w.names.invitations.map i.id = i.id :=
  h.names ▸ Shift.map_of_lt (Table.key_lt hi)

end Numbered

/-- The stores at the start of two runs. -/
structure Start (w : Setting) (s₁ s₂ : Store) : Prop extends Numbered w s₁ s₂ where
  start₁ : w.start₁ = s₁.db
  start₂ : w.start₂ = s₂.db
  twins : Twins w s₁.db s₂.db
  same : SameTenant w.organizationId s₁ s₂
  /-- The accounts of the members. -/
  users : ∀ m ∈ s₁.accounts.memberships, m.organizationId = w.organizationId →
    s₂.accounts.users.get? m.userId = s₁.accounts.users.get? m.userId

/-- The organization in two stores. -/
def Setting.between (env : Env) (organizationId : ℕ) (providerKeys : Set String) (s₁ s₂ : Store) :
    Setting where
  env := env
  organizationId := organizationId
  providerKeys := providerKeys
  names := .between s₁ s₂
  start₁ := s₁.db
  start₂ := s₂.db

/-- Two stores that agree on the rows of an organization and on what it shares with others. -/
theorem Start.between {env : Env} {organizationId : ℕ} {providerKeys : Set String} {s₁ s₂ : Store}
    (hw : w = .between env organizationId providerKeys s₁ s₂) (htenancy₁ : Tenancy s₁.db)
    (htenancy₂ : Tenancy s₂.db) (hsame : SameTenant organizationId s₁ s₂)
    (husers : ∀ m ∈ s₁.accounts.memberships, m.organizationId = organizationId →
      s₂.accounts.users.get? m.userId = s₁.accounts.users.get? m.userId)
    (hreceipts : s₂.db.receipts.filter w.receipts.own = s₁.db.receipts.filter w.receipts.own)
    (hkeys : ∀ p ∈ s₁.db.attempts, p.organizationId = organizationId →
      p.providerIdempotencyKey ∈ providerKeys)
    (hneutral : ∀ p ∈ s₁.db.attempts, p.organizationId = organizationId →
      w.KeyNeutral p.provider p.providerIdempotencyKey ∧
        w.ChargeNeutral p.provider p.providerChargeId)
    (hcharge : ∀ r ∈ s₁.db.receipts, r.providerIdempotencyKey ∈ providerKeys → ∀ provider,
      w.ChargeNeutral provider (w.chargeText r.providerResponse r.providerChargeId)) :
    Start w s₁ s₂ := by
  subst hw
  have hnumbered : Numbered (.between env organizationId providerKeys s₁ s₂) s₁ s₂ :=
    ⟨rfl, htenancy₁⟩
  refine { hnumbered with
    start₁ := rfl
    start₂ := rfl
    same := hsame
    users := husers
    twins := ?_ }
  exact {
    plans := .start rfl hsame.plans fun p hp _ =>
      congrArg (fun n => { p with id := n }) (hnumbered.plan hp)
    customers := .start rfl hsame.customers fun c hc _ =>
      congrArg (fun n => { c with id := n }) (hnumbered.customer hc)
    subscriptions := .start rfl hsame.subscriptions fun s hs _ => (hnumbered.subscription hs).2
    invoices := .start rfl hsame.invoices fun i hi _ => (hnumbered.invoice hi).2
    invoiceLines := .start rfl hsame.invoiceLines fun l hl _ => hnumbered.line hl
    attempts := .start rfl hsame.attempts fun p hp _ => hnumbered.attempt hp
    receipts := .start rfl hreceipts fun r hr _ => hnumbered.receipt hr
    tenancy₁ := htenancy₁
    tenancy₂ := htenancy₂
    providerKey := hkeys
    neutral := hneutral
    charge := hcharge
    tasks := ⟨[], (List.append_nil _).symm, (List.append_nil _).symm,
      fun n hn => absurd hn List.not_mem_nil⟩
    events₁ := rfl }

/-! ## Query sets -/

/-- The queryset of a tenant filters the rows that the tenant owns. -/
theorem queryset_some {α : Type} [Keyed α] {t : Table α} {owner : α → ℕ} {test : α → Bool}
    {organizationId : ℕ} : queryset t owner test (some organizationId) =
      (t.filter fun a => owner a == organizationId).filter test := by
  simp only [queryset, Table.filter, List.filter_filter, Bool.and_comm]

/-- A row of the queryset is stored and belongs to the tenant. -/
theorem mem_queryset {α : Type} [Keyed α] {t : Table α} {owner : α → ℕ} {test : α → Bool}
    {organizationId : ℕ} {a : α} (ha : a ∈ queryset t owner test (some organizationId)) :
    a ∈ t ∧ owner a = organizationId := by
  obtain ⟨ha, htest⟩ := Table.mem_filter.mp ha
  rw [Bool.and_eq_true, beq_iff_eq] at htest
  exact ⟨ha, htest.1⟩

/-- The rows of the organization are the same in both stores. -/
theorem queryset_congr {α : Type} [Keyed α] {t t' : Table α} {owner : α → ℕ} {test : α → Bool}
    {organizationId : ℕ} (h : (t'.filter fun a => owner a == organizationId) =
      t.filter fun a => owner a == organizationId) :
    queryset t' owner test (some organizationId) = queryset t owner test (some organizationId) := by
  rw [queryset_some, queryset_some, h]

/-- An object is one of the rows. -/
theorem mem_of_getObject {α : Type} [Keyed α] {model : String} {rows : List α} {pk : Option ℤ}
    {a : α} (h : getObject model rows pk = .ok a) : a ∈ rows := by
  unfold getObject at h
  split at h
  case h_1 => cases h
  split at h
  case h_2 => cases h
  case h_1 hfind =>
    obtain rfl := Except.ok.inj h
    exact List.mem_of_find?_eq_some hfind

/-- Both handlers find the same row, or none. -/
theorem getObject_alike {α γ δ : Type} [Keyed α] {model : String} {rows₁ rows₂ : List α}
    {pk : Option ℤ} {R : γ → δ → Prop} {f : α → Except Fault γ} {g : α → Except Fault δ}
    (hrows : rows₂ = rows₁) (hrest : ∀ a ∈ rows₁, Alike R (f a) (g a)) :
    Alike R (getObject model rows₁ pk >>= f) (getObject model rows₂ pk >>= g) :=
  .same (congrArg (getObject model · pk) hrows) fun a ha => hrest a (mem_of_getObject ha)

namespace Start

/-- Both runs list alike. -/
theorem list (h : Start w s₁ s₂) {α : Type} {rows₁ rows₂ : List α} {f₁ f₂ : α → Item}
    (hrows : rows₂ = rows₁) (hf : ∀ a ∈ rows₁, f₂ a = (f₁ a).rename w.names) :
    Alike (Served w s₁ s₂) (listed s₁ (rows₁.map f₁)) (listed s₂ (rows₂.map f₂)) := by
  refine .ok ⟨?_, h.twins, .refl s₁, .refl s₂⟩
  have hitems : rows₂.map f₂ = (rows₁.map f₁).map (Item.rename w.names) := by
    rw [hrows, List.map_map]
    exact List.map_congr_left hf
  exact congrArg (fun items => (⟨200, .list items⟩ : Response)) hitems

/-- Both runs retrieve alike. -/
theorem retrieve (h : Start w s₁ s₂) {α : Type} [Keyed α] {model : String} {rows₁ rows₂ : List α}
    {f₁ f₂ : α → Item} {pk : Option ℤ} (hrows : rows₂ = rows₁)
    (hf : ∀ a ∈ rows₁, f₂ a = (f₁ a).rename w.names) :
    Alike (Served w s₁ s₂) (retrieved s₁ model rows₁ f₁ pk) (retrieved s₂ model rows₂ f₂ pk) := by
  refine getObject_alike hrows ?_
  intro a ha
  refine .ok ⟨?_, h.twins, .refl s₁, .refl s₂⟩
  exact congrArg (fun item => (⟨200, .item item⟩ : Response)) (hf a ha)

/-! ## Serializers -/

/-- Both runs show a plan alike. -/
theorem planSerializer (h : Start w s₁ s₂) {p : Plan} (hp : p ∈ s₁.plans (some w.organizationId)) :
    Chargeflow.planSerializer s₂ p = (Chargeflow.planSerializer s₁ p).rename w.names := by
  obtain ⟨hp, horg⟩ := mem_queryset hp
  simp only [Chargeflow.planSerializer, Item.rename, h.same.descriptions p hp horg, h.plan hp]

/-- Both runs show a customer alike. -/
theorem customerSerializer (h : Start w s₁ s₂) {c : Customer}
    (hc : c ∈ s₁.customers (some w.organizationId)) :
    Chargeflow.customerSerializer s₂ c = (Chargeflow.customerSerializer s₁ c).rename w.names := by
  obtain ⟨hc, horg⟩ := mem_queryset hc
  simp only [Chargeflow.customerSerializer, Item.rename, h.same.contacts c hc horg, h.customer hc]

/-- Both runs show a subscription alike. -/
theorem subscriptionSerializer (h : Start w s₁ s₂) {s : Subscription}
    (hs : s ∈ s₁.subscriptions (some w.organizationId)) :
    Chargeflow.subscriptionSerializer s =
      (Chargeflow.subscriptionSerializer s).rename w.names :=
  congrArg Chargeflow.subscriptionSerializer (h.subscription (mem_queryset hs).1).2.symm

/-- Both runs show an invoice alike, with its lines. -/
theorem invoiceSerializer (h : Start w s₁ s₂) {i : Invoice}
    (hi : i ∈ s₁.invoices (some w.organizationId)) :
    Chargeflow.invoiceSerializer s₂.db i =
      (Chargeflow.invoiceSerializer s₁.db i).rename w.names := by
  obtain ⟨hi, horg⟩ := mem_queryset hi
  obtain ⟨hid, hrow⟩ := h.invoice hi
  have hlines := h.twins.invoiceLines.filter_children h.twins.invoices h.twins.tenancy₁.lines
    h.twins.tenancy₂.lines (fun _ => rfl) (.of_mem hi (own_invoice.mpr horg))
    (p := fun _ => true) (q := fun _ => true) fun _ _ _ => rfl
  simp only [Bool.and_true] at hlines
  have hkey : w.invoices.keys.map (key i) = i.id := hid
  rw [hkey] at hlines
  have hsubscription : w.names.subscriptions.map i.subscriptionId = i.subscriptionId :=
    congrArg Invoice.subscriptionId hrow
  simp only [Chargeflow.invoiceSerializer, Item.rename, hlines, List.map_map, hid, hsubscription]
  rfl

/-- Both runs show an attempt alike. -/
theorem paymentAttemptSerializer (h : Start w s₁ s₂) {p : PaymentAttempt}
    (hp : p ∈ s₁.attempts (some w.organizationId)) :
    Chargeflow.paymentAttemptSerializer p =
      (Chargeflow.paymentAttemptSerializer p).rename w.names :=
  congrArg Chargeflow.paymentAttemptSerializer (h.attempt (mem_queryset hp).1).symm

/-- Both runs show an API key alike. -/
theorem apiKeySerializer (h : Start w s₁ s₂) {k : ApiKey}
    (hk : k ∈ s₁.apiKeys (some w.organizationId)) :
    Chargeflow.apiKeySerializer k = (Chargeflow.apiKeySerializer k).rename w.names := by
  simp only [Chargeflow.apiKeySerializer, Item.rename, h.apiKey (mem_queryset hk).1]

/-- Both runs show a membership alike. -/
theorem organizationMembershipSerializer (h : Start w s₁ s₂) {m : OrganizationMembership}
    (hm : m ∈ s₁.members (some w.organizationId)) :
    Chargeflow.organizationMembershipSerializer s₂.accounts m =
      (Chargeflow.organizationMembershipSerializer s₁.accounts m).rename w.names := by
  obtain ⟨hm, horg⟩ := mem_queryset hm
  simp only [Chargeflow.organizationMembershipSerializer, Item.rename, h.users m hm horg]

/-- Both runs show an invitation alike. -/
theorem invitationSerializer (h : Start w s₁ s₂) {i : Invitation}
    (hi : i ∈ s₁.accounts.invitations) :
    Chargeflow.invitationSerializer i =
      (Chargeflow.invitationSerializer i).rename w.names := by
  simp only [Chargeflow.invitationSerializer, Item.rename, h.invitation hi]

/-! ## Plans -/

/-- The key of a row of another organization. -/
theorem id_ne {α : Type} [Keyed α] (owner : α → ℕ) {t : Table α} {a : α} (ha : a ∈ t) :
    ∀ b ∈ t, owner b ≠ owner a → key b ≠ key a := by
  intro b hb hother hkey
  exact hother (by rw [Table.eq_of_key_eq hb ha hkey])

/-- Both runs create a plan alike. -/
theorem createPlan (h : Start w s₁ s₂) (data : Except ApiErr PlanInput) :
    Alike (Served w s₁ s₂) (PlanViewSet.create s₁ (some w.organizationId) data)
      (PlanViewSet.create s₂ (some w.organizationId) data) := by
  refine .same rfl ?_
  rintro data -
  refine ((h.twins.insertPlan (p := data.apply (newPlan w.organizationId)) rfl rfl).mapError _).bind
    ?_
  intro db₁ db₂ hkept
  refine .ok ⟨?_, hkept.twins, ?_, ?_⟩
  · have hnext : w.names.plans.map s₁.db.plans.next = s₂.db.plans.next := h.twins.plans.map_next
    simp only [Chargeflow.planSerializer, Function.update_self]
    exact congrArg (fun n => (⟨201, .item (.plan ⟨n, _, _, _, _, _, _, _⟩)⟩ : Response)) hnext.symm
  · exact Confined.of_description s₁ db₁ _ fun p hp _ => (Table.key_lt hp).ne
  · exact Confined.of_description s₂ db₂ _ fun p hp _ => (Table.key_lt hp).ne

/-- Both runs update a plan alike. -/
theorem updatePlan (h : Start w s₁ s₂) (pk : Option ℤ) (data : Except ApiErr PlanInput) :
    Alike (Served w s₁ s₂) (PlanViewSet.update s₁ (some w.organizationId) pk data)
      (PlanViewSet.update s₂ (some w.organizationId) pk data) := by
  refine getObject_alike (queryset_congr h.same.plans) ?_
  intro p hp
  obtain ⟨hp, horg⟩ := mem_queryset hp
  refine .same rfl ?_
  rintro data -
  have hid : w.names.plans.map p.id = p.id := h.plan hp
  have hrow : (data.apply p).rename w.names = data.apply p :=
    congrArg (fun n => { data.apply p with id := n }) hid
  have hsaved := h.twins.updatePlan (p := data.apply p)
    ⟨p, hp, own_plan.mpr horg, rfl⟩ horg
  rw [hrow] at hsaved
  refine (hsaved.mapError _).bind ?_
  intro db₁ db₂ hkept
  have hp₂ : p ∈ s₂.db.plans := by
    have hmem := h.twins.plans.mem hp (own_plan.mpr horg)
    exact (congrArg (fun n => { p with id := n }) hid : p.rename w.names = p) ▸ hmem
  refine .ok ⟨?_, hkept.twins, ?_, ?_⟩
  · simp only [Chargeflow.planSerializer, Function.update_self]
    have hdescription : s₂.descriptions (data.apply p).id = s₁.descriptions (data.apply p).id :=
      h.same.descriptions p hp horg
    rw [hdescription]
    exact congrArg (fun n => (⟨200, .item (.plan ⟨n, _, _, _, _, _, _, _⟩)⟩ : Response)) hid.symm
  · exact Confined.of_description s₁ db₁ _ fun q hq hother =>
      id_ne Plan.organizationId hp q hq (horg ▸ hother)
  · exact Confined.of_description s₂ db₂ _ fun q hq hother =>
      id_ne Plan.organizationId hp₂ q hq (horg ▸ hother)

/-- Both runs destroy a plan alike. -/
theorem destroyPlan (h : Start w s₁ s₂) (pk : Option ℤ) :
    Alike (Served w s₁ s₂) (PlanViewSet.destroy s₁ (some w.organizationId) pk)
      (PlanViewSet.destroy s₂ (some w.organizationId) pk) := by
  refine getObject_alike (queryset_congr h.same.plans) ?_
  intro p hp
  obtain ⟨hp, horg⟩ := mem_queryset hp
  have hid : w.plans.keys.map (key p) = p.id := h.plan hp
  have hrow := HasRow.of_mem hp (own_plan.mpr horg)
  have hany := h.twins.subscriptions.any_children h.twins.plans h.twins.tenancy₁.plans
    h.twins.tenancy₂.plans (fun _ => rfl) hrow (p := fun _ => true) (q := fun _ => true)
    fun _ _ _ => rfl
  simp only [Bool.and_true] at hany
  rw [hid] at hany
  refine .ite (Bool.eq_iff_iff.mp hany.symm) (fun _ => .error _) fun hnone => ?_
  have hnone₁ : ∀ s ∈ s₁.db.subscriptions, s.planId ≠ p.id := by
    simpa using hnone
  have hnone₂ : ∀ s ∈ s₂.db.subscriptions, s.planId ≠ w.names.plans.map (key p) := by
    have hkey : w.names.plans.map (key p) = p.id := hid
    rw [hkey]
    have hany₂ := hany.trans (Bool.eq_false_iff.mpr hnone)
    simpa using hany₂
  have htwins := h.twins.deletePlan hrow hnone₁ hnone₂
  have hkey : w.names.plans.map (key p) = p.id := hid
  rw [hkey] at htwins
  exact .ok ⟨rfl, htwins, .of_db s₁ _, .of_db s₂ _⟩

/-! ## Customers -/

/-- Both runs create a customer alike. -/
theorem createCustomer (h : Start w s₁ s₂) (data : Except ApiErr CustomerInput) :
    Alike (Served w s₁ s₂) (CustomerViewSet.create s₁ (some w.organizationId) data)
      (CustomerViewSet.create s₂ (some w.organizationId) data) := by
  refine .same rfl ?_
  rintro data -
  refine ((h.twins.insertCustomer (c := data.apply (newCustomer w.organizationId)) rfl
    rfl).mapError _).bind ?_
  intro db₁ db₂ hkept
  refine .ok ⟨?_, hkept.twins, ?_, ?_⟩
  · have hnext : w.names.customers.map s₁.db.customers.next = s₂.db.customers.next :=
      h.twins.customers.map_next
    simp only [Chargeflow.customerSerializer, Function.update_self]
    exact congrArg (fun n => (⟨201, .item (.customer ⟨n, _, _, _⟩)⟩ : Response)) hnext.symm
  · exact Confined.of_contact s₁ db₁ _ fun c hc _ => (Table.key_lt hc).ne
  · exact Confined.of_contact s₂ db₂ _ fun c hc _ => (Table.key_lt hc).ne

/-- Both runs update a customer alike. -/
theorem updateCustomer (h : Start w s₁ s₂) (pk : Option ℤ) (data : Except ApiErr CustomerInput) :
    Alike (Served w s₁ s₂) (CustomerViewSet.update s₁ (some w.organizationId) pk data)
      (CustomerViewSet.update s₂ (some w.organizationId) pk data) := by
  refine getObject_alike (queryset_congr h.same.customers) ?_
  intro c hc
  obtain ⟨hc, horg⟩ := mem_queryset hc
  refine .same rfl ?_
  rintro data -
  have hid : w.names.customers.map c.id = c.id := h.customer hc
  have hrow : (data.apply c).rename w.names = data.apply c :=
    congrArg (fun n => { data.apply c with id := n }) hid
  have hsaved := h.twins.updateCustomer (c := data.apply c)
    ⟨c, hc, own_customer.mpr horg, rfl⟩ horg
  rw [hrow] at hsaved
  refine (hsaved.mapError _).bind ?_
  intro db₁ db₂ hkept
  have hc₂ : c ∈ s₂.db.customers := by
    have hmem := h.twins.customers.mem hc (own_customer.mpr horg)
    exact (congrArg (fun n => { c with id := n }) hid : c.rename w.names = c) ▸ hmem
  refine .ok ⟨?_, hkept.twins, ?_, ?_⟩
  · simp only [Chargeflow.customerSerializer, Function.update_self]
    have hcontact : s₂.contacts (data.apply c).id = s₁.contacts (data.apply c).id :=
      h.same.contacts c hc horg
    rw [hcontact]
    exact congrArg (fun n => (⟨200, .item (.customer ⟨n, _, _, _⟩)⟩ : Response)) hid.symm
  · exact Confined.of_contact s₁ db₁ _ fun q hq hother =>
      id_ne Customer.organizationId hc q hq (horg ▸ hother)
  · exact Confined.of_contact s₂ db₂ _ fun q hq hother =>
      id_ne Customer.organizationId hc₂ q hq (horg ▸ hother)

/-! ## Subscriptions -/

/-- Both runs create a subscription alike. -/
theorem createSubscription (h : Start w s₁ s₂) (data : Except ApiErr (ℤ × ℤ))
    (now issuedAt : DateTime) :
    Alike (Served w s₁ s₂)
      (SubscriptionViewSet.create s₁ (some w.organizationId) data now issuedAt)
      (SubscriptionViewSet.create s₂ (some w.organizationId) data now issuedAt) := by
  refine .same rfl ?_
  rintro ⟨customerId, planId⟩ -
  refine getObject_alike (queryset_congr h.same.customers) ?_
  intro c hc
  obtain ⟨hc, hco⟩ := mem_queryset hc
  refine getObject_alike (queryset_congr h.same.plans) ?_
  intro p hp
  obtain ⟨hp, hpo⟩ := mem_queryset hp
  have hcreated := h.twins.create (.of_mem hc (own_customer.mpr hco))
    (.of_mem hp (own_plan.mpr hpo)) now issuedAt
  have hcid : w.names.customers.map (key c) = c.id := h.customer hc
  have hpid : w.names.plans.map (key p) = p.id := h.plan hp
  rw [hcid, hpid] at hcreated
  refine (hcreated.mapError _).bind ?_
  rintro ⟨db₁, s⟩ ⟨db₂, s'⟩ ⟨hkept, rfl⟩
  exact .ok ⟨rfl, hkept.twins, .of_db s₁ db₁, .of_db s₂ db₂⟩

/-- An action on a subscription, when both runs of the service end in the same way. -/
theorem apply (h : Start w s₁ s₂) (pk : Option ℤ) (service : Db → ℕ → Except Err Db)
    (hservice : ∀ n, HasRow w.subscriptions.own s₁.db.subscriptions n →
      Alike (Kept w s₁.db) (service s₁.db n) (service s₂.db (w.names.subscriptions.map n))) :
    Alike (Served w s₁ s₂)
      (SubscriptionViewSet.apply s₁ (some w.organizationId) pk service)
      (SubscriptionViewSet.apply s₂ (some w.organizationId) pk service) := by
  refine getObject_alike (queryset_congr h.same.subscriptions) ?_
  intro s hs
  obtain ⟨hs, hso⟩ := mem_queryset hs
  have hrow := HasRow.of_mem hs (own_subscription.mpr hso)
  have hid : w.names.subscriptions.map (key s) = s.id := (h.subscription hs).1
  have hrun := hservice s.id hrow
  have hid' : w.names.subscriptions.map s.id = s.id := hid
  rw [hid'] at hrun
  refine (hrun.mapError _).bind ?_
  intro db₁ db₂ hkept
  have hfetched := fetch_alike hkept.twins.subscriptions (hkept.persists.subscriptions _ hrow)
    "Subscription"
  have hkeys : w.subscriptions.keys.map (key s) = s.id := hid
  rw [hkeys] at hfetched
  refine (hfetched.mapError _).bind ?_
  rintro s _ ⟨rfl, -⟩
  exact .ok ⟨rfl, hkept.twins, .of_db s₁ db₁, .of_db s₂ db₂⟩

/-! ## Payment attempts -/

/-- Both runs answer alike what the attempt to pay returned. -/
theorem attemptResponse {x y : Except Err (Option PaymentAttempt)}
    (h : Alike (fun p q => q = p.map (PaymentAttempt.rename w.names)) x y) :
    Chargeflow.attemptResponse y = (Chargeflow.attemptResponse x).rename w.names := by
  cases h with
  | error e => exact (notAttempted_rename w.names e).symm
  | @ok p q h =>
    subst h
    cases p with
    | none => rfl
    | some p => rfl

/-- Both runs attempt a payment alike. -/
theorem createAttempt (h : Start w s₁ s₂) (data : Except ApiErr ℤ) (idempotencyKey : Option String)
    {draw : ChargeDraw} (hkey : DrawnKey w draw.providerKey)
    (hdraw : DrawnCharge w draw.chargeId) :
    Alike (Served w s₁ s₂)
      (PaymentAttemptViewSet.create w.env s₁ (some w.organizationId) data idempotencyKey draw)
      (PaymentAttemptViewSet.create w.env s₂ (some w.organizationId) data idempotencyKey
        draw) := by
  refine .same rfl ?_
  rintro invoiceId -
  refine getObject_alike (queryset_congr h.same.invoices) ?_
  intro i hi
  obtain ⟨hi, hio⟩ := mem_queryset hi
  have hphases := h.twins.phases (.of_mem hi (own_invoice.mpr hio)) idempotencyKey false hkey hdraw
  have hid : w.names.invoices.map (key i) = i.id := (h.invoice hi).1
  rw [hid] at hphases
  exact .ok ⟨attemptResponse hphases.2, hphases.1.twins, .of_db s₁ _, .of_db s₂ _⟩

/-! ## API keys -/

/-- Both runs create an API key alike. -/
theorem createApiKey (h : Start w s₁ s₂) (env : AccountsEnv) (data : Except ApiErr ApiKeyInput)
    (rawKey : String) (now : DateTime) :
    Alike (Served w s₁ s₂) (ApiKeyViewSet.create s₁ (some w.organizationId) env data rawKey now)
      (ApiKeyViewSet.create s₂ (some w.organizationId) env data rawKey now) := by
  refine .same rfl ?_
  rintro data -
  have hnext : w.names.apiKeys.map s₁.accounts.apiKeys.next = s₂.accounts.apiKeys.next := by
    rw [h.names]
    exact Shift.map_add _ 0
  have hconfined : ∀ s : Store, Confined w.organizationId s { s with
      accounts := (ApiKey.createForOrganization env s.accounts w.organizationId data.name
        data.expiresAt data.scope rawKey now).1 } := by
    intro s
    refine { Confined.refl s with apiKeys := ?_ }
    simp [ApiKey.createForOrganization, Table.filter, Table.insert, withKey]
  refine .ok ⟨?_, h.twins, hconfined s₁, hconfined s₂⟩
  exact congrArg (fun n => (⟨201, .created (.apiKey ⟨n, _, _, _, _, _, _⟩) rawKey⟩ : Response))
    hnext.symm

/-- Both runs revoke an API key alike. -/
theorem destroyApiKey (h : Start w s₁ s₂) (pk : Option ℤ) :
    Alike (Served w s₁ s₂) (ApiKeyViewSet.destroy s₁ (some w.organizationId) pk)
      (ApiKeyViewSet.destroy s₂ (some w.organizationId) pk) := by
  refine getObject_alike (queryset_congr h.same.apiKeys) ?_
  intro k hk
  obtain ⟨hk, horg⟩ := mem_queryset hk
  have hk₂ : k ∈ s₂.accounts.apiKeys := by
    have hmem : k ∈ s₁.accounts.apiKeys.filter fun k => k.organizationId == w.organizationId :=
      Table.mem_filter.mpr ⟨hk, beq_iff_eq.mpr horg⟩
    rw [← h.same.apiKeys] at hmem
    exact (Table.mem_filter.mp hmem).1
  have hconfined : ∀ s : Store, k ∈ s.accounts.apiKeys → Confined w.organizationId s { s with
      accounts := { s.accounts with
        apiKeys := s.accounts.apiKeys.update { k with revoked := true } } } := by
    intro s hk
    refine { Confined.refl s with apiKeys := Table.filter_update_of_not ?_ (by simp [horg]) }
    intro q hq hkey
    rw [Table.eq_of_key_eq hq hk hkey]
  exact .ok ⟨rfl, h.twins, hconfined s₁ hk, hconfined s₂ hk₂⟩

/-! ## Invitations -/

/-- A test on the row with a given key. -/
theorem any_key {α : Type} [Keyed α] {t : Table α} {n : ℕ} {q : α → Bool} :
    t.any (fun a => key a == n && q a) = (t.get? n).any q := by
  rw [Bool.eq_iff_iff, Table.any_eq_true, Option.any_eq_true]
  simp only [Bool.and_eq_true, beq_iff_eq, Table.get?_eq_some_iff, and_assoc]

/-- Both runs see the same members of the tenant. -/
theorem checkNotMember (h : Start w s₁ s₂) (env : AccountsEnv) (email : String) :
    Chargeflow.checkNotMember env s₂.accounts w.organizationId email =
      Chargeflow.checkNotMember env s₁.accounts w.organizationId email := by
  have hany : ∀ s : Store, (s.accounts.memberships.any fun m =>
        m.organizationId == w.organizationId &&
          s.accounts.users.any fun u => u.id == m.userId && env.iexact u.email email) =
      (s.accounts.memberships.filter fun m => m.organizationId == w.organizationId).any fun m =>
        (s.accounts.users.get? m.userId).any fun u => env.iexact u.email email := by
    intro s
    unfold Table.filter Table.any
    rw [List.any_filter]
    refine any_congr_of_mem ?_
    intro m _
    exact congrArg (m.organizationId == w.organizationId && ·) any_key
  unfold Chargeflow.checkNotMember
  rw [hany, hany, h.same.memberships]
  congr 2
  refine any_congr_of_mem ?_
  intro m hm
  obtain ⟨hm, horg⟩ := Table.mem_filter.mp hm
  rw [h.users m hm (beq_iff_eq.mp horg)]

/-- Both runs create an invitation alike. -/
theorem createInvitation (h : Start w s₁ s₂) (env : AccountsEnv) (email role token : String)
    (now : DateTime) (htoken : (s₂.accounts.invitations.any fun j => j.token == token) =
      s₁.accounts.invitations.any fun j => j.token == token) :
    Alike (Served w s₁ s₂)
      (InvitationViewSet.create env s₁ (some w.organizationId) email role token now)
      (InvitationViewSet.create env s₂ (some w.organizationId) email role token now) := by
  refine .same rfl ?_
  rintro ⟨email, role⟩ -
  refine .same (congrArg (Except.mapError Fault.api) (h.checkNotMember env email)) ?_
  rintro _ -
  unfold Invitation.createForOrganization
  cases DateTime.addDays 7 now with
  | none => exact .error _
  | some expiresAt =>
    unfold insertInvitation
    dsimp only
    rw [htoken]
    split_ifs
    · exact .error _
    · have hget : ∀ {t : Table Invitation} {i : Invitation},
          (t.insert i).get? t.next = some (withKey t.next i) := fun {t i} =>
        Table.get?_eq_some_iff.mpr ⟨Table.mem_insert_self, key_withKey t.next i⟩
      have hnext : w.names.invitations.map s₁.accounts.invitations.next =
          s₂.accounts.invitations.next := by
        rw [h.names]
        exact Shift.map_add _ 0
      have hconfined : ∀ s : Store, Confined w.organizationId s { s with
          accounts := { s.accounts with
            invitations := s.accounts.invitations.insert
              ⟨0, w.organizationId, email, role, token, expiresAt, none, now⟩ } } := by
        intro s
        refine { Confined.refl s with invitations := ?_ }
        simp [Table.filter, Table.insert, withKey]
      simp only [Except.mapError, ok_bind, hget]
      refine .ok ⟨?_, h.twins, hconfined s₁, hconfined s₂⟩
      exact congrArg (fun n => (⟨201, .created (.invitation ⟨n, _, _, _, _, _⟩) token⟩ : Response))
        hnext.symm

/-! ## Calls -/

/-- A call of a view set, in both runs. -/
theorem handle (h : Start w s₁ s₂) {env : ServerEnv} (henv : env.billing = w.env) {call : Action}
    (hdraw : ∀ draw ∈ call.draw, DrawnKey w draw.providerKey ∧ DrawnCharge w draw.chargeId)
    (htoken : ∀ token ∈ call.token, (s₂.accounts.invitations.any fun j => j.token == token) =
      s₁.accounts.invitations.any fun j => j.token == token) :
    Alike (Served w s₁ s₂) (Chargeflow.handle env s₁ (some w.organizationId) call)
      (Chargeflow.handle env s₂ (some w.organizationId) call) := by
  cases call with
  | listPlans => exact h.list (queryset_congr h.same.plans) fun p hp => h.planSerializer hp
  | createPlan data => exact h.createPlan data
  | retrievePlan pk =>
    exact h.retrieve (queryset_congr h.same.plans) fun p hp => h.planSerializer hp
  | updatePlan pk data => exact h.updatePlan _ data
  | partialUpdatePlan pk data => exact h.updatePlan _ data
  | destroyPlan pk => exact h.destroyPlan _
  | listCustomers =>
    exact h.list (queryset_congr h.same.customers) fun c hc => h.customerSerializer hc
  | createCustomer data => exact h.createCustomer data
  | retrieveCustomer pk =>
    exact h.retrieve (queryset_congr h.same.customers) fun c hc => h.customerSerializer hc
  | updateCustomer pk data => exact h.updateCustomer _ data
  | partialUpdateCustomer pk data => exact h.updateCustomer _ data
  | listSubscriptions =>
    exact h.list (queryset_congr h.same.subscriptions) fun s hs => h.subscriptionSerializer hs
  | createSubscription data now issuedAt => exact h.createSubscription data now issuedAt
  | retrieveSubscription pk =>
    exact h.retrieve (queryset_congr h.same.subscriptions) fun s hs => h.subscriptionSerializer hs
  | activateSubscription pk now issuedAt =>
    exact h.apply _ (SubscriptionService.activate · · now issuedAt) fun n hn =>
      h.twins.activate hn now issuedAt
  | cancelSubscription pk now =>
    exact h.apply _ (SubscriptionService.cancel · · .voluntary now) fun n hn =>
      h.twins.cancel hn .voluntary now
  | renewSubscription pk checkedAt now issuedAt =>
    exact h.apply _ (SubscriptionService.renew · · checkedAt now issuedAt) fun n hn =>
      h.twins.renew hn checkedAt now issuedAt
  | listInvoices => exact h.list (queryset_congr h.same.invoices) fun i hi => h.invoiceSerializer hi
  | retrieveInvoice pk =>
    exact h.retrieve (queryset_congr h.same.invoices) fun i hi => h.invoiceSerializer hi
  | listAttempts =>
    exact h.list (queryset_congr h.same.attempts) fun p hp => h.paymentAttemptSerializer hp
  | createAttempt data idempotencyKey draw =>
    obtain ⟨hkey, hcharge⟩ := hdraw draw rfl
    have hcreated := h.createAttempt data idempotencyKey hkey hcharge
    rw [← henv] at hcreated
    exact hcreated
  | retrieveAttempt pk =>
    exact h.retrieve (queryset_congr h.same.attempts) fun p hp => h.paymentAttemptSerializer hp
  | listApiKeys => exact h.list (queryset_congr h.same.apiKeys) fun k hk => h.apiKeySerializer hk
  | createApiKey data rawKey now => exact h.createApiKey env.accounts data rawKey now
  | destroyApiKey pk => exact h.destroyApiKey _
  | listMembers =>
    exact h.list (queryset_congr h.same.memberships) fun m hm =>
      h.organizationMembershipSerializer hm
  | listInvitations =>
    refine h.list (congrArg (List.mergeSort · _) (queryset_congr h.same.invitations)) ?_
    intro i hi
    exact h.invitationSerializer (mem_queryset (List.mem_mergeSort.mp hi)).1
  | createInvitation email role token now =>
    exact h.createInvitation env.accounts email role token now (htoken token rfl)

/-! ## Requests -/

section requests

variable {env : ServerEnv} {authorization : String} {organizationHeader : Option String}
  {now : DateTime} {call : Action}

/-- Both runs serve a request of the tenant alike. -/
theorem dispatch (h : Start w s₁ s₂) (henv : env.billing = w.env)
    (hprincipal : SamePrincipal env.accounts s₁.accounts s₂.accounts
      (.incoming call.method authorization organizationHeader) now)
    (hresolves : Resolves env.accounts s₁.accounts
      (.incoming call.method authorization organizationHeader) now w.organizationId)
    (hdraw : ∀ draw ∈ call.draw, DrawnKey w draw.providerKey ∧ DrawnCharge w draw.chargeId)
    (htoken : ∀ token ∈ call.token, (s₂.accounts.invitations.any fun j => j.token == token) =
      s₁.accounts.invitations.any fun j => j.token == token) :
    Alike (Served w s₁ s₂)
      (Chargeflow.dispatch env s₁ authorization organizationHeader now call)
      (Chargeflow.dispatch env s₂ authorization organizationHeader now call) := by
  refine .same (congrArg (Except.mapError Fault.api) (initial_same hprincipal)) ?_
  intro request hrequest
  obtain ⟨request₁, request₂, hauthenticate, hresolved⟩ := hresolves
  have hsequel := initial_sequel hauthenticate (mapError_eq_ok_iff.mp hrequest)
  obtain ⟨request₃, hrequest₃⟩ := getRequestOrganization_of_sequel hsequel hresolved
  have hsame := (hprincipal.memberships request₁ hauthenticate).sequel hsequel
  refine .same (congrArg (Except.mapError Fault.api) (getRequestOrganization_same hsame)) ?_
  rintro ⟨organization, request₄⟩ horganization
  have hboth := (mapError_eq_ok_iff.mp horganization).symm.trans hrequest₃
  obtain ⟨rfl, -⟩ := Prod.mk.inj (Except.ok.inj hboth)
  exact h.handle henv hdraw htoken

/-- A request and the charges that it triggers, in both runs. -/
theorem serve (h : Start w s₁ s₂) (henv : env.billing = w.env)
    (hprincipal : SamePrincipal env.accounts s₁.accounts s₂.accounts
      (.incoming call.method authorization organizationHeader) now)
    (hresolves : Resolves env.accounts s₁.accounts
      (.incoming call.method authorization organizationHeader) now w.organizationId)
    (hdraw : ∀ draw ∈ call.draw, DrawnKey w draw.providerKey ∧ DrawnCharge w draw.chargeId)
    (htoken : ∀ token ∈ call.token, (s₂.accounts.invitations.any fun j => j.token == token) =
      s₁.accounts.invitations.any fun j => j.token == token) (draws : ℕ → ChargeDraw)
    (hdraws : ∀ i, DrawnKey w (draws i).providerKey ∧ DrawnCharge w (draws i).chargeId) :
    Served w s₁ s₂ (Chargeflow.serve env s₁ authorization organizationHeader now call draws)
      (Chargeflow.serve env s₂ authorization organizationHeader now call draws) := by
  unfold Chargeflow.serve
  rcases (h.dispatch henv hprincipal hresolves hdraw htoken).both with
    ⟨⟨s₁', r₁⟩, ⟨s₂', r₂⟩, h₁, h₂, hserved⟩ | ⟨e, h₁, h₂⟩
  · rw [h₁, h₂]
    obtain ⟨htriggered, htasks⟩ := hserved.twins.triggered
    rw [h.start₁, h.start₂] at htriggered
    rw [h.start₁] at htasks
    have hcharged := hserved.twins.runCharges (fun i => (hdraws i).1) (fun i => (hdraws i).2) htasks
    rw [← htriggered, ← henv] at hcharged
    exact ⟨hserved.response, hcharged.twins,
      { hserved.confined₁ with }, { hserved.confined₂ with }⟩
  · rw [h₁, h₂]
    exact ⟨(respond_rename w.names e).symm, h.twins, .refl s₁, .refl s₂⟩

end requests

end Start

end Chargeflow
