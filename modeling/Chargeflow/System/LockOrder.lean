import Chargeflow.Effects.RowLocks
import Chargeflow.System.Operations
import Chargeflow.Foundation.Deadlocks

/-!
# The order of the row locks

The services lock the key of a webhook event, then one subscription, then its plan or its customer,
then its invoices, then the organization, and then an attempt with its keys.  The rows of invoices
and attempts, and the keys that depend on an invoice, are locked under the lock of their
subscription.
-/

namespace Chargeflow

open Foundation

/-- The subscriptions of the invoices, and the invoices of the attempts, by their keys. -/
structure Parents where
  subscriptionOf : ℕ → ℕ
  invoiceOf : ℕ → ℕ

/-- The rows have these parents.  No service moves one. -/
structure Db.Parented (parents : Parents) (db : Db) : Prop where
  invoices : ∀ i ∈ db.invoices, i.subscriptionId = parents.subscriptionOf i.id
  attempts : ∀ p ∈ db.attempts, p.invoiceId = parents.invoiceOf p.id

namespace Resource

/-- The place in the order. -/
def rank : Resource → ℕ
  | webhookKey _ _ => 0
  | webhookEvent _ => 1
  | subscription _ => 2
  | customer _ => 3
  | plan _ => 4
  | invoiceKey _ _ _ => 5
  | invoice _ => 5
  | organization _ => 6
  | paymentKey _ _ => 7
  | providerKey _ _ => 8
  | attempt _ => 9
  | chargeKey _ _ => 10
  | successKey _ => 11

/-- The subscription under whose lock a resource is locked. -/
def guard (parents : Parents) : Resource → Option Resource
  | invoiceKey n _ _ => some (subscription n)
  | invoice n => some (subscription (parents.subscriptionOf n))
  | attempt n => some (subscription (parents.subscriptionOf (parents.invoiceOf n)))
  | successKey n => some (subscription (parents.subscriptionOf n))
  | _ => none

/-- The keys of the invoices of a new subscription are its own. -/
def owner : Resource → Resource
  | invoiceKey n _ _ => subscription n
  | r => r

/-- The locks that the services take. -/
def allowed : Resource → LockMode → Bool
  | webhookEvent _, _ => false
  | customer _, m => m == .share || m == .keyShare
  | plan _, m => m == .share || m == .keyShare || m == .update
  | organization _, m => m == .noKeyUpdate || m == .keyShare
  | _, m => m == .update

/-- The shared locks on a customer, and the checks of foreign keys to customers and organizations,
conflict with no lock that the services take. -/
def quiet : Resource → LockMode → Bool
  | customer _, m => m == .share || m == .keyShare
  | organization _, m => m == .keyShare
  | _, _ => false

/-- A mode that never waits conflicts with no mode that is taken there. -/
theorem quiet_spec {r : Resource} {m n : LockMode} (hm : r.quiet m = true)
    (hn : r.allowed n = true) : m.conflicts n = false := by
  cases r <;> cases m <;> cases n <;> simp_all [quiet, allowed, LockMode.conflicts]

/-- The rows that a lock on a subscription, an invoice or an attempt protects. -/
def same : Resource → Db → Db → Prop
  | subscription n, db, db' => db'.subscriptions.get? n = db.subscriptions.get? n
  | invoice n, db, db' => db'.invoices.get? n = db.invoices.get? n
  | attempt n, db, db' => db'.attempts.get? n = db.attempts.get? n
  | _, _, _ => True

end Resource

/-- The order of the locks of the billing services. -/
def Parents.order (parents : Parents) : LockOrder Resource Db where
  rank := Resource.rank
  guard := Resource.guard parents
  owner := Resource.owner
  allowed := Resource.allowed
  quiet := Resource.quiet
  quiet_spec := Resource.quiet_spec
  valid := Db.Parented parents
  same := Resource.same

namespace Locking

open Program LockOrder

variable {parents : Parents} {h : Locks Resource} {db : Db} {n k : ℕ}
  {α : Type} {now : DateTime}

/-! ## Locks on rows -/

/-- The transaction has the subscription for itself. -/
def Holds (h : Locks Resource) (n : ℕ) : Prop := (.subscription n, .update) ∈ h.held

/-- The lock on the subscription is exclusive. -/
theorem Holds.exclusive (hn : Holds h n) : h.Exclusive (.subscription n) := ⟨.update, hn, rfl⟩

/-- The lock on the subscription covers every mode. -/
theorem Holds.covers (hn : Holds h n) (m : LockMode) :
    parents.order.Covers h (.subscription n) m :=
  Or.inr ⟨.update, hn, LockMode.update_covers m⟩

/-- The lock on the subscription is held with more locks. -/
theorem Holds.mono {h' : Locks Resource} (hn : Holds h n) (hsub : h.Sub h') : Holds h' n :=
  hsub.held hn

/-- A lock for an update makes all locks on the row unnecessary. -/
theorem covers_of_update {r : Resource} (m : LockMode)
    (hr : parents.order.Covers h r .update) :
    parents.order.Covers h r m := by
  rcases hr with hown | ⟨n, hn, hcovers⟩
  · exact Or.inl hown
  · cases n with
    | update => exact Or.inr ⟨.update, hn, LockMode.update_covers m⟩
    | _ => cases hcovers

/-- A reference to an organization can be checked. -/
theorem organization_checkable (n : ℕ) : parents.order.Checkable h (.organization n) :=
  Or.inr ⟨rfl, rfl, rfl⟩

/-- A reference to a customer can be checked. -/
theorem customer_checkable (n : ℕ) : parents.order.Checkable h (.customer n) :=
  Or.inr ⟨rfl, rfl, rfl⟩

/-- The transaction has locked nothing but the key of a webhook event. -/
structure Begun (parents : Parents) (h : Locks Resource) : Prop where
  atMost : parents.order.AtMost 0 h
  inserted : ∀ n, .subscription n ∉ h.inserted

/-- A transaction that has only begun has locked no subscription. -/
theorem Begun.not_covers (hbegun : Begun parents h) (n : ℕ) (m : LockMode) :
    ¬ parents.order.Covers h (.subscription n) m := by
  rintro (hown | ⟨m', hm', -⟩)
  · exact hbegun.inserted n hown
  · exact absurd (hbegun.atMost _ hm' rfl) (by decide : ¬ 2 ≤ 0)

/-- The first lock on a subscription. -/
theorem Begun.grows (n : ℕ) : parents.order.Grows (· = (.subscription n, .update)) h
    (h.push (.subscription n) .update) :=
  grows_push rfl

/-- A transaction that has begun may lock a subscription. -/
theorem Begun.atMost_push (hbegun : Begun parents h) (n : ℕ) :
    parents.order.AtMost 5 (h.push (.subscription n) .update) :=
  (Begun.grows n).atMost (hbegun.atMost.mono (Nat.zero_le 5)) fun _ hl => hl ▸ (by decide : 2 ≤ 5)

/-- A query for a subscription that is locked already. -/
theorem getSubscription_wp_of_covers {Q : Chargeflow.Subscription → Locks Resource → Db → Prop}
    (hcovers : parents.order.Covers h (.subscription n) .update)
    (hQ : ∀ s db', s.id = n → db'.subscriptions.get? n = some s → Q s h db') :
    parents.order.wp (getSubscription n) Q h db := by
  refine wp_readForUpdate (absurd hcovers) (fun _ s db' _ hs => ?_) (absurd hcovers)
  obtain ⟨hmem, hid⟩ := fetch_eq_ok_iff.mp hs
  exact hQ s db' hid (Table.get?_eq_some_iff.mpr ⟨hmem, hid⟩)

/-- The first query for a subscription. -/
theorem getSubscription_wp_of_begun {Q : Chargeflow.Subscription → Locks Resource → Db → Prop}
    (hbegun : Begun parents h)
    (hQ : ∀ s db', s.id = n → db'.subscriptions.get? n = some s →
      Q s (h.push (.subscription n) .update) db') :
    parents.order.wp (getSubscription n) Q h db := by
  refine wp_readForUpdate (fun _ => hbegun.atMost.admits (by decide : 0 < 2) rfl rfl)
    (fun hcovers => absurd hcovers (hbegun.not_covers n _)) fun _ s db' _ hs => ?_
  obtain ⟨hmem, hid⟩ := fetch_eq_ok_iff.mp hs
  exact hQ s db' hid (Table.get?_eq_some_iff.mpr ⟨hmem, hid⟩)

/-- The precondition of `get_invoice`. -/
theorem getInvoice_wp {Q : Chargeflow.Invoice → Locks Resource → Db → Prop}
    (hready : parents.order.Covers h (.invoice n) .update ∨
      Holds h (parents.subscriptionOf n) ∧ parents.order.AtMost 5 h)
    (hQ : ∀ i h' db', parents.order.Grows (· = (.invoice n, .update)) h h' →
      parents.order.Covers h' (.invoice n) .update → i.id = n →
      i.subscriptionId = parents.subscriptionOf n → Q i h' db') :
    parents.order.wp (getInvoice n) Q h db := by
  refine wp_readForUpdate (fun hnew => ?_) (fun hcovers i db' hdb hi => ?_)
    fun hnew i db' hdb hi => ?_
  · obtain ⟨hholds, hk⟩ := hready.resolve_left hnew
    exact hk.admits_guarded (Nat.le_refl 5) rfl rfl hholds.exclusive
  · obtain ⟨hmem, hid⟩ := fetch_eq_ok_iff.mp hi
    exact hQ i h db' (.refl h) hcovers hid (hid ▸ hdb.invoices i hmem)
  · obtain ⟨hmem, hid⟩ := fetch_eq_ok_iff.mp hi
    exact hQ i _ db' (grows_push rfl) (covers_push h _ _) hid (hid ▸ hdb.invoices i hmem)

/-! ## Invoices and subscriptions -/

/-- The precondition of the transition of a subscription. -/
theorem Subscription.transitionTo_wp {s : Chargeflow.Subscription} {newStatus : SubscriptionStatus}
    {Q : Chargeflow.Subscription → Locks Resource → Db → Prop}
    (hcovers : parents.order.Covers h (.subscription s.id) .update)
    (hQ : ∀ s' db₁ db', parents.order.Moves h db db₁ →
      s.transitionTo db₁ newStatus now = .ok (db', s') → Q s' h db') :
    parents.order.wp (Subscription.transitionTo s newStatus now) Q h
      db := by
  unfold Subscription.transitionTo
  have hexec := wp_exec (ε := Err) (f := fun db => s.transitionTo db newStatus now) (Q := Q)
    fun s' db₁ db' hmoves hok => hQ s' db₁ db' hmoves hok
  split_ifs with hmem
  · exact wp_bind (wp_lockRow_of_covers (covers_of_update _ hcovers) hexec)
  · exact hexec

/-- The precondition of the transition of an invoice. -/
theorem Invoice.transitionTo_wp {i : Chargeflow.Invoice} {newStatus : InvoiceStatus}
    {Q : Chargeflow.Invoice → Locks Resource → Db → Prop}
    (hcovers : parents.order.Covers h (.invoice i.id) .update)
    (hQ : ∀ i' db', Q i' h db') :
    parents.order.wp (Invoice.transitionTo i newStatus now) Q h db := by
  unfold Invoice.transitionTo
  have hexec := wp_exec (ε := Err) (f := fun db => i.transitionTo db newStatus now) (Q := Q)
    (L := parents.order) (s := db)
    fun i' _ db' _ _ => hQ i' db'
  split_ifs with hmem
  · exact wp_bind (wp_lockRow_of_covers (covers_of_update _ hcovers) hexec)
  · exact hexec

/-- The methods of `InvoiceService` that move one invoice. -/
theorem moveInvoice_wp {status : InvoiceStatus} {leaves : Chargeflow.Invoice → Prop}
    [DecidablePred leaves] {Q : Unit → Locks Resource → Db → Prop}
    (hready : parents.order.Covers h (.invoice n) .update ∨
      Holds h (parents.subscriptionOf n) ∧ parents.order.AtMost 5 h)
    (hQ : ∀ h' db', parents.order.Grows (· = (.invoice n, .update)) h h' → Q () h' db') :
    parents.order.wp (do
      let invoice ← getInvoice n
      if leaves invoice then
        return
      let _ ← Invoice.transitionTo invoice status now) Q h db := by
  refine wp_bind (getInvoice_wp hready fun i h' db' hgrows hcovers hid _ => ?_)
  split_ifs
  · exact hQ h' db' hgrows
  · exact wp_bind (Invoice.transitionTo_wp (hid ▸ hcovers) fun _ db' => hQ h' db' hgrows)

/-- The insertion of an invoice and its line. -/
theorem insertInvoice_wp {subscription : Chargeflow.Subscription} {plan : Plan}
    {Q : Chargeflow.Invoice → Locks Resource → Db → Prop}
    (hcovers : parents.order.Covers h (.subscription subscription.id) .update)
    (hQ : ∀ i h' db', parents.order.Grows (fun _ => False) h h' →
      .invoice i.id ∈ h'.inserted → Q i h' db') :
    parents.order.wp (insertInvoice subscription plan) Q h db := by
  let Keeps (h h' : Locks Resource) : Prop := parents.order.Grows (fun _ => False) h h'
  refine wp_bind (wp_exec fun i db₁ db₂ _ hcreate => ?_)
  have hid : i.subscriptionId = subscription.id := by
    obtain ⟨s, -, -, -, rfl⟩ := Invoice.create_eq_ok hcreate
    rfl
  refine wp_bind (wp_insertRow fun h₁ (hg₁ : Keeps h h₁) hown => ?_)
  refine wp_bind (wp_checkAtCommit (organization_checkable _) fun h₂ (hg₂ : Keeps h₁ h₂) => ?_)
  have hg₁₂ := hg₁.trans hg₂
  have hsubscription : parents.order.Checkable h₂ (.subscription i.subscriptionId) :=
    Or.inl (covers_of_update _ (hid ▸ hcovers.mono hg₁₂.sub))
  refine wp_bind (wp_checkAtCommit hsubscription fun h₃ (hg₃ : Keeps h₂ h₃) => ?_)
  refine wp_bind (wp_update fun _ db₃ _ _ => ?_)
  refine wp_bind (wp_checkAtCommit (organization_checkable _) fun h₄ (hg₄ : Keeps h₃ h₄) => ?_)
  have hg₂₄ := hg₂.trans (hg₃.trans hg₄)
  have hinvoice : parents.order.Checkable h₄ (.invoice i.id) :=
    Or.inl (Or.inl (hg₂₄.sub.inserted hown))
  refine wp_bind (wp_checkAtCommit hinvoice fun h₅ (hg₅ : Keeps h₄ h₅) => ?_)
  exact wp_pure (hQ i h₅ db₃ (hg₁.trans (hg₂₄.trans hg₅)) ((hg₂₄.trans hg₅).sub.inserted hown))

/-- An invoice is generated under the lock of its subscription, or for a subscription that the
transaction has inserted. -/
theorem InvoiceService.generateForSubscription_wp
    {Q : Option Chargeflow.Invoice → Locks Resource → Db → Prop}
    (hcovers : parents.order.Covers h (.subscription n) .update)
    (hready : .subscription n ∉ h.inserted → Holds h n ∧ parents.order.AtMost 5 h)
    (hQ : ∀ i h' db', parents.order.Grows
      (fun l => .subscription n ∉ h.inserted ∧ ∃ a b, l = (.invoiceKey n a b, .update)) h h' →
      Q i h' db') :
    parents.order.wp (InvoiceService.generateForSubscription n now) Q h db := by
  refine wp_bind (getSubscription_wp_of_covers hcovers fun s db₁ hid _ => ?_)
  subst hid
  refine wp_bind (wp_read fun plan db₂ _ _ => ?_)
  split_ifs
  · exact hQ none h db₂ (.refl h)
  refine wp_bind (wp_view fun db₃ _ => ?_)
  split
  · exact wp_pure (hQ _ h db₃ (.refl h))
  have hkey : parents.order.wp (insertKey (.invoiceKey s.id s.currentPeriodStart
      s.currentPeriodEnd) : Transaction Bool) (fun _ h' _ => parents.order.Grows
        (fun l => .subscription s.id ∉ h.inserted ∧
          ∃ a b, l = (.invoiceKey s.id a b, .update)) h h') h db₃ := by
    refine wp_insertKey (fun _ _ => .refl h) (fun hnew => ?_) (fun _ => .refl h) fun hnew _ _ => ?_
    · obtain ⟨hholds, hk⟩ := hready fun hown => hnew (Or.inl hown)
      exact hk.admits_guarded (Nat.le_refl 5) rfl rfl hholds.exclusive
    · exact grows_push ⟨fun hown => hnew (Or.inl hown), _, _, rfl⟩
  refine wp_bind (wp_mono hkey fun b h₁ db₄ hg₁ => ?_)
  split_ifs
  · refine wp_bind (insertInvoice_wp (hcovers.mono hg₁.sub) fun i h₂ db₅ hg₂ hown => ?_)
    refine wp_bind (Invoice.transitionTo_wp (Or.inl hown) fun i' db₆ => ?_)
    refine wp_bind (wp_update fun _ db₇ _ _ => wp_pure (hQ _ h₂ db₇ ?_))
    exact hg₁.trans (hg₂.mono fun _ => False.elim)
  · refine wp_bind (wp_view fun db₅ _ => ?_)
    split
    · exact wp_pure (hQ _ h₁ db₅ hg₁)
    · trivial

/-! ## Saves of subscriptions -/

/-- A save of a subscription that is locked and keeps its parents takes no lock. -/
theorem Subscription.save_wp {fields : List SubscriptionField} {s row : Chargeflow.Subscription}
    {Q : Unit → Locks Resource → Db → Prop} (hholds : Holds h s.id)
    (hrow : db.subscriptions.get? s.id = some row) (hcustomer : row.customerId = s.customerId)
    (hplan : row.planId = s.planId) (hQ : ∀ db', Q () h db') :
    parents.order.wp (Subscription.save fields s) Q h db := by
  have hlock : parents.order.wp (lockForSave (some s.id) (some s.customerId) (some s.planId))
      (fun _ h' _ => h' = h) h db := by
    refine wp_bind (wp_bind (wp_view fun db₁ hmoves => ?_))
    have hsame : db₁.subscriptions.get? s.id = some row :=
      (hmoves.same _ hholds.exclusive).trans hrow
    rw [hsame]
    refine wp_bind (wp_lockRow_of_covers (hholds.covers _) (wp_view fun db₂ hmoves' => ?_))
    have hsame' : db₂.subscriptions.get? s.id = some row :=
      (hmoves'.same _ hholds.exclusive).trans hsame
    rw [hsame']
    simp only [Option.map_some, hcustomer, hplan, ne_eq, not_true_eq_false, if_false]
    exact wp_pure rfl
  refine wp_bind (wp_mono hlock fun _ h' db₁ hh => ?_)
  subst hh
  refine wp_bind (wp_lockRow_of_covers (hholds.covers _) ?_)
  exact wp_update fun _ db₂ _ _ => hQ db₂

/-- The open invoices of a subscription are locked and canceled under its lock. -/
theorem InvoiceService.cancelOpenForSubscription_wp {Q : Unit → Locks Resource → Db → Prop}
    (hholds : Holds h n) (hk : parents.order.AtMost 5 h)
    (hQ : ∀ h' db', parents.order.Grows (fun l => ∃ i, l = (.invoice i, .update)) h h' →
      Q () h' db') :
    parents.order.wp (InvoiceService.cancelOpenForSubscription n now) Q h db := by
  refine wp_bind (wp_view fun db₁ hmoves => ?_)
  have hseen : ∀ i ∈ (openInvoices n db₁).map Invoice.id, parents.subscriptionOf i = n := by
    intro _ hi
    obtain ⟨i, hmem, rfl⟩ := List.mem_map.mp hi
    obtain ⟨hi, htest⟩ := Table.mem_filter.mp hmem
    rw [← hmoves.valid.invoices i hi]
    exact eq_of_beq (Bool.and_eq_true_iff.mp htest).1
  have hlocks := wp_forM (L := parents.order) (ε := Err) (s := db₁) (h := h)
    (l := (openInvoices n db₁).map Invoice.id) (f := fun i => lockRow (.invoice i) .update)
    (I := fun h' => parents.order.Grows (fun l => ∃ i, l = (.invoice i, .update)) h h')
    (C := fun i h' => parents.order.Covers h' (.invoice i) .update)
    (fun _ _ _ hcovers hsub => hcovers.mono hsub) ?_ (.refl h)
  · refine wp_bind (wp_mono hlocks fun _ h₁ db₂ hlocked => ?_)
    obtain ⟨hg₁, -, hcovers⟩ := hlocked
    refine wp_bind (wp_view fun db₃ _ => ?_)
    refine wp_mono (wp_forM (I := fun h' => h' = h₁) (C := fun _ _ => True)
      (fun _ _ _ _ _ => trivial) ?_ rfl) fun _ h' db' hcanceled => hQ h' db' (hcanceled.1 ▸ hg₁)
    intro i hi h' db₄ hh
    subst hh
    have hid : i.id ∈ (openInvoices n db₁).map Invoice.id :=
      of_decide_eq_true (List.mem_filter.mp hi).2
    exact wp_bind (Invoice.transitionTo_wp (hcovers i.id hid) fun _ _ =>
      wp_pure ⟨rfl, .refl _, trivial⟩)
  · intro i hi h' db₂ hg
    refine wp_lockRow (fun hcovers => ⟨hg, .refl h', hcovers⟩) (fun _ => ?_) fun _ _ _ => ?_
    · have hk' : parents.order.AtMost 5 h' := hg.atMost hk fun l hl => by
        obtain ⟨i, rfl⟩ := hl
        exact Nat.le_refl 5
      have hguard : parents.order.guard (.invoice i) = some (.subscription n) :=
        congrArg (fun s => some (Resource.subscription s)) (hseen i hi)
      exact hk'.admits_guarded (Nat.le_refl 5) rfl hguard (hholds.mono hg.sub).exclusive
    · exact ⟨hg.trans (grows_push ⟨i, rfl⟩), h'.sub_push _ _, covers_push h' _ _⟩

/-! ## The subscription service -/

/-- The query that locks a subscription and its plan. -/
theorem getSubscriptionWithPlan_wp {Q : Chargeflow.Subscription × Plan → Locks Resource → Db → Prop}
    (hbegun : Begun parents h)
    (hQ : ∀ s plan h' db', parents.order.Grows (fun _ => True) h h' → Holds h' n →
      parents.order.AtMost 4 h' → s.id = n → db'.subscriptions.get? n = some s →
      Q (s, plan) h' db') :
    parents.order.wp (getSubscriptionWithPlan n) Q h db := by
  refine wp_bind (wp_read fun seen _ _ _ => wp_bind (wp_read fun _ db₁ _ _ => wp_bind ?_))
  refine wp_lockRow (fun hcovers => absurd hcovers (hbegun.not_covers n _))
    (fun _ => hbegun.atMost.admits (by decide : 0 < 2) rfl rfl) fun _ db₂ _ => ?_
  have hg₁ : parents.order.Grows (fun l => l = (.subscription n, .update)) h
      (h.push (.subscription n) .update) := grows_push rfl
  have hk₁ : parents.order.AtMost 2 (h.push (.subscription n) .update) :=
    hg₁.atMost (hbegun.atMost.mono (Nat.zero_le 2)) fun l hl => hl ▸ Nat.le_refl 2
  have hrest : ∀ h' db', parents.order.Grows (fun _ => True) h h' → Holds h' n →
      parents.order.AtMost 4 h' → parents.order.wp (do
        let subscription ← read fun db => fetch db.subscriptions "Subscription" n
        raising (ensure (subscription.planId == seen.planId) (.doesNotExist "Subscription"))
        let plan ← read fun db => fetch db.plans "Plan" subscription.planId
        return (subscription, plan)) Q h' db' := by
    intro h' db₃ hg hholds hk
    refine wp_bind (wp_read fun s db₄ _ hs => wp_bind (wp_raising fun _ _ => ?_))
    obtain ⟨hmem, hid⟩ := fetch_eq_ok_iff.mp hs
    refine wp_bind (wp_read fun plan db₅ hmoves _ => wp_pure (hQ s plan h' db₅ hg hholds hk hid ?_))
    exact (hmoves.same _ hholds.exclusive).trans (Table.get?_eq_some_iff.mpr ⟨hmem, hid⟩)
  have hholds : Holds (h.push (.subscription n) .update) n := List.mem_cons_self
  refine wp_bind (wp_lockRow (fun _ => ?_) (fun _ => ?_) fun _ db₃ _ => ?_)
  · exact hrest _ _ (hg₁.mono fun _ _ => trivial) hholds (hk₁.mono (by decide))
  · exact hk₁.admits (by decide : 2 < 4) rfl rfl
  · have hg₂ : parents.order.Grows (fun l => l = (.plan seen.planId, .update))
        (h.push (.subscription n) .update) _ := grows_push rfl
    refine hrest _ _ ((hg₁.mono fun _ _ => trivial).trans (hg₂.mono fun _ _ => trivial))
      (hholds.mono hg₂.sub) ?_
    exact hg₂.atMost (hk₁.mono (by decide)) fun l hl => hl ▸ Nat.le_refl 4

/-- A transition of a stored subscription leaves its parents alone. -/
theorem get?_of_transitionTo {s s' : Chargeflow.Subscription} {newStatus : SubscriptionStatus}
    {db db' : Db} (hs : db.subscriptions.get? s.id = some s)
    (hok : s.transitionTo db newStatus now = .ok (db', s')) :
    s'.id = s.id ∧ db'.subscriptions.get? s'.id = some s' := by
  obtain ⟨hmem, -⟩ := Table.get?_eq_some_iff.mp hs
  obtain ⟨-, rfl, rfl⟩ := Subscription.transitionTo_eq_ok hok hmem
  exact ⟨rfl, Table.get?_key (Table.mem_update_self hmem rfl)⟩

/-- The precondition of `_start_period`. -/
theorem SubscriptionService.startPeriod_wp {s : Chargeflow.Subscription} {plan : Plan}
    {issuedAt : DateTime} {Q : Unit → Locks Resource → Db → Prop} (hholds : Holds h s.id)
    (hk : parents.order.AtMost 4 h) (hs : db.subscriptions.get? s.id = some s)
    (hQ : ∀ h' db', parents.order.Grows (fun _ => True) h h' → Q () h' db') :
    parents.order.wp (SubscriptionService.startPeriod s plan now issuedAt) Q h db := by
  refine wp_bind (wp_raising fun periodEnd _ => ?_)
  refine wp_bind (Subscription.save_wp hholds hs rfl rfl fun db₁ => ?_)
  refine wp_bind (InvoiceService.generateForSubscription_wp (hholds.covers _)
    (fun _ => ⟨hholds, hk.mono (by decide)⟩) fun _ h' db' hg => wp_pure (hQ h' db' ?_))
  exact hg.mono fun _ _ => trivial

/-- The precondition of `activate`. -/
theorem SubscriptionService.activate_wp {issuedAt : DateTime}
    {Q : Unit → Locks Resource → Db → Prop} (hbegun : Begun parents h)
    (hQ : ∀ h' db', parents.order.Grows (fun _ => True) h h' → Q () h' db') :
    parents.order.wp (SubscriptionService.activate n now issuedAt) Q h db := by
  refine wp_bind (getSubscriptionWithPlan_wp hbegun fun s plan h₁ db₁ hg₁ hholds hk hid hs => ?_)
  subst hid
  refine wp_bind (wp_raising fun _ _ => ?_)
  refine wp_bind (Subscription.transitionTo_wp (hholds.covers _) fun s' db₂ db₃ hmoves hok => ?_)
  have hs₂ : db₂.subscriptions.get? s.id = some s := (hmoves.same _ hholds.exclusive).trans hs
  obtain ⟨hid, hs₃⟩ := get?_of_transitionTo hs₂ hok
  exact SubscriptionService.startPeriod_wp (hid ▸ hholds) hk hs₃ fun h' db' hg =>
    hQ h' db' (hg₁.trans hg)

/-- The precondition of `renew`. -/
theorem SubscriptionService.renew_wp {checkedAt issuedAt : DateTime}
    {Q : Unit → Locks Resource → Db → Prop} (hbegun : Begun parents h)
    (hQ : ∀ h' db', parents.order.Grows (fun _ => True) h h' → Q () h' db') :
    parents.order.wp (SubscriptionService.renew n checkedAt now issuedAt) Q h db := by
  refine wp_bind (getSubscriptionWithPlan_wp hbegun fun s plan h₁ db₁ hg₁ hholds hk hid hs => ?_)
  subst hid
  refine wp_bind (wp_raising fun _ _ => wp_bind (wp_raising fun _ _ => ?_))
  exact SubscriptionService.startPeriod_wp hholds hk hs fun h' db' hg => hQ h' db' (hg₁.trans hg)

/-- `mark_overdue` of a subscription that is locked. -/
theorem SubscriptionService.markOverdue_wp {Q : Unit → Locks Resource → Db → Prop}
    (hholds : Holds h n) (hQ : ∀ db', Q () h db') :
    parents.order.wp (SubscriptionService.markOverdue n now) Q h db := by
  refine wp_bind (getSubscription_wp_of_covers (hholds.covers _) fun s db₁ hid _ => ?_)
  split_ifs
  · exact hQ db₁
  · exact wp_bind (Subscription.transitionTo_wp (hid ▸ hholds.covers _) fun _ _ db₂ _ _ =>
      wp_pure (hQ db₂))

/-- `reactivate` of a subscription that is locked. -/
theorem SubscriptionService.reactivate_wp {Q : Unit → Locks Resource → Db → Prop}
    (hholds : Holds h n) (hQ : ∀ db', Q () h db') :
    parents.order.wp (SubscriptionService.reactivate n now) Q h db := by
  refine wp_bind (getSubscription_wp_of_covers (hholds.covers _) fun s db₁ hid _ => ?_)
  split_ifs
  · exact hQ db₁
  refine wp_bind (wp_view fun db₂ _ => ?_)
  split_ifs
  · exact hQ db₂
  · exact wp_bind (wp_lockRow_of_covers (hid ▸ hholds.covers _) (wp_update fun _ db₃ _ _ => hQ db₃))

/-- `cancel`, at the begin of a transaction or under the lock of the subscription. -/
theorem SubscriptionService.cancel_wp {reason : CancellationReason}
    {Q : Unit → Locks Resource → Db → Prop}
    (hready : Begun parents h ∨ Holds h n ∧ parents.order.AtMost 5 h)
    (hQ : ∀ h' db', parents.order.Grows (fun _ => True) h h' → Q () h' db') :
    parents.order.wp (SubscriptionService.cancel n reason now) Q h db := by
  have hrest : ∀ s h₁ db₁, parents.order.Grows (fun _ => True) h h₁ → Holds h₁ s.id →
      parents.order.AtMost 5 h₁ → db₁.subscriptions.get? s.id = some s → parents.order.wp (do
        let subscription ← Subscription.transitionTo s .canceled now
        Subscription.save [.canceledReason] { subscription with canceledReason := some reason }
        InvoiceService.cancelOpenForSubscription subscription.id now) Q h₁ db₁ := by
    intro s h₁ db₁ hg₁ hholds hk hs
    refine wp_bind (Subscription.transitionTo_wp (hholds.covers _) fun s' db₂ db₃ hmoves hok => ?_)
    have hs₂ : db₂.subscriptions.get? s.id = some s := (hmoves.same _ hholds.exclusive).trans hs
    obtain ⟨hid, hs₃⟩ := get?_of_transitionTo hs₂ hok
    have hholds' : Holds h₁ s'.id := hid ▸ hholds
    refine wp_bind (Subscription.save_wp hholds' hs₃ rfl rfl fun db₄ => ?_)
    refine InvoiceService.cancelOpenForSubscription_wp hholds' hk fun h' db' hg => hQ h' db' ?_
    exact hg₁.trans (hg.mono fun _ _ => trivial)
  rcases hready with hbegun | ⟨hholds, hk⟩
  · refine wp_bind (getSubscription_wp_of_begun hbegun fun s db₁ hid hs => ?_)
    subst hid
    exact hrest s _ db₁ ((Begun.grows s.id).mono fun _ _ => trivial) List.mem_cons_self
      (hbegun.atMost_push s.id) hs
  · refine wp_bind (getSubscription_wp_of_covers (hholds.covers _) fun s db₁ hid hs => ?_)
    subst hid
    exact hrest s h db₁ (.refl h) hholds hk hs

/-! ## Saves that lock the parents -/

/-- The transaction has locked a subscription and the plan `planId` at most. -/
def Shares (parents : Parents) (planId : Option ℕ) (h : Locks Resource) : Prop :=
  ∀ l ∈ h.held, parents.order.quiet l.1 l.2 = false →
    parents.order.rank l.1 ≤ 2 ∨ ∃ p, planId = some p ∧ l = (.plan p, .share)

/-- A further lock on a subscription or on the plan is allowed for. -/
theorem Shares.push {planId : Option ℕ} {r : Resource} {m : LockMode}
    (hshares : Shares parents planId h)
    (hnew : parents.order.quiet r m = false →
      parents.order.rank r ≤ 2 ∨ ∃ p, planId = some p ∧ (r, m) = (.plan p, .share)) :
    Shares parents planId (h.push r m) := by
  intro l hl hquiet
  rcases List.mem_cons.mp hl with rfl | hl
  · exact hnew hquiet
  · exact hshares l hl hquiet

/-- Locks that need not wait are allowed for. -/
theorem Shares.grows {planId : Option ℕ} {h' : Locks Resource} (hshares : Shares parents planId h)
    (hg : parents.order.Grows (fun _ => False) h h') : Shares parents planId h' :=
  fun l hl hquiet => hshares l ((hg.held l hl).resolve_right id) hquiet

/-- A transaction that has begun has shared no plan. -/
theorem Begun.shares {planId : Option ℕ} (hbegun : Begun parents h) : Shares parents planId h :=
  fun l hl hquiet => Or.inl (Nat.le_trans (hbegun.atMost l hl hquiet) (Nat.zero_le 2))

/-- A shared lock on the plan comes after all other locks. -/
theorem Shares.admits {planId : ℕ} {m : LockMode} (hshares : Shares parents (some planId) h)
    (hm : parents.order.allowed (.plan planId) m = true) (hcovers : LockMode.share.covers m = true)
    (hnew : ¬ parents.order.Covers h (.plan planId) m) :
    parents.order.Admits h (.plan planId) m where
  allowed := hm
  guarded g hg := by cases hg
  ordered _ l hl hquiet := by
    rcases hshares l hl hquiet with hrank | ⟨p, hp, rfl⟩
    · exact Or.inl (Nat.lt_of_le_of_lt hrank (by decide : 2 < 4))
    · obtain rfl := Option.some.inj hp
      exact absurd (Or.inr ⟨.share, hl, hcovers⟩) hnew

/-- All foreign keys can be checked, apart from the one to a plan. -/
def ChecksButPlan (parents : Parents) (planId : ℕ) (h : Locks Resource) : Prop :=
  ∀ r ∈ h.checks, parents.order.Checkable h r ∨ r = .plan planId

/-- The checks stay possible with more locks. -/
theorem ChecksButPlan.grows {planId : ℕ} {P : Resource × LockMode → Prop} {h' : Locks Resource}
    (hchecks : ChecksButPlan parents planId h) (hg : parents.order.Grows P h h') :
    ChecksButPlan parents planId h' := by
  intro r hr
  rcases hg.checks r hr with hold | hnew
  · exact (hchecks r hold).imp_left fun hr => hr.mono hg.sub
  · exact Or.inl hnew

/-- The check of the plan is allowed for. -/
theorem ChecksButPlan.check {planId : ℕ} (hchecks : ChecksButPlan parents planId h) :
    ChecksButPlan parents planId (h.check (.plan planId)) := by
  intro r hr
  rcases List.mem_cons.mp hr with rfl | hr
  · exact Or.inr rfl
  · exact (hchecks r hr).imp_left fun hr => hr.mono (h.sub_check _)

/-- With shared locks on the parents the foreign key to the plan can be checked, too. -/
theorem Shares.commits {planId : ℕ} (hshares : Shares parents (some planId) h)
    (hchecks : ChecksButPlan parents planId h) : parents.order.Commits (ε := Err) h db :=
  commits_of_checkable _ hchecks (hshares.admits rfl rfl)

/-- `SELECT ... FOR SHARE` on the parents, which may be locked already. -/
theorem shareParents_wp {customerId planId : Option ℕ} {Q : Unit → Locks Resource → Db → Prop}
    (hshares : Shares parents planId h)
    (hQ : ∀ h' db', parents.order.Grows (fun _ => True) h h' → Shares parents planId h' →
      Q () h' db') :
    parents.order.wp (shareParents customerId planId) Q h db := by
  have hplan : ∀ h₁ db₁, parents.order.Grows (fun _ => True) h h₁ → Shares parents planId h₁ →
      parents.order.wp (shareParents none planId) Q h₁ db₁ := by
    intro h₁ db₁ hg₁ hshares₁
    cases planId with
    | none => exact hQ h₁ db₁ hg₁ hshares₁
    | some p =>
      refine wp_bind (wp_view fun db₂ _ => ?_)
      split_ifs
      · refine wp_lockRow (fun _ => hQ h₁ db₂ hg₁ hshares₁) (hshares₁.admits rfl rfl)
          fun _ db₃ _ => ?_
        exact hQ _ db₃ (hg₁.trans (grows_push trivial))
          (hshares₁.push fun _ => Or.inr ⟨p, rfl, rfl⟩)
      · exact hQ h₁ db₂ hg₁ hshares₁
  cases customerId with
  | none => exact hplan h db (.refl h) hshares
  | some c =>
    refine wp_bind (wp_bind (wp_view fun db₁ _ => ?_))
    split_ifs
    · refine wp_lockRow (fun _ => hplan h db₁ (.refl h) hshares) (fun _ => ⟨rfl, nofun, nofun⟩)
        fun _ db₂ _ => ?_
      exact hplan _ db₂ (grows_push trivial) (hshares.push nofun)
    · exact hplan h db₁ (.refl h) hshares

/-- The stored row of an instance is locked before its parents. -/
theorem persisted_wp {pk planId : Option ℕ}
    {Q : Option Chargeflow.Subscription → Locks Resource → Db → Prop}
    (hshares : Shares parents planId h) (hbegun : pk.isSome → Begun parents h)
    (hQ : ∀ stored h' db', parents.order.Grows (fun _ => True) h h' → Shares parents planId h' →
      (∀ n, pk = some n → stored.isSome → Holds h' n) → Q stored h' db') :
    parents.order.wp (persisted pk) Q h db := by
  cases pk with
  | none => exact hQ none h db (.refl h) hshares nofun
  | some n =>
    have hbegun := hbegun rfl
    refine wp_bind (wp_view fun db₁ _ => ?_)
    split_ifs
    · refine wp_bind (wp_lockRow (fun hcovers => absurd hcovers (hbegun.not_covers n _))
        (fun _ => hbegun.atMost.admits (by decide : 0 < 2) rfl rfl) fun _ db₂ _ => ?_)
      refine wp_view fun db₃ _ => hQ _ _ db₃ (grows_push trivial)
        (hshares.push fun _ => Or.inl (Nat.le_refl 2)) ?_
      rintro _ ⟨⟩ -
      exact List.mem_cons_self
    · exact hQ none h db₁ (.refl h) hshares nofun

/-- The begin of `Subscription.save`.  When it succeeds, the instance has parents. -/
theorem lockForSave_wp {pk customerId planId : Option ℕ}
    {Q : Option Chargeflow.Subscription → Locks Resource → Db → Prop}
    (hshares : Shares parents planId h) (hbegun : pk.isSome → Begun parents h)
    (hQ : ∀ stored h' db', parents.order.Grows (fun _ => True) h h' → Shares parents planId h' →
      (∀ n, pk = some n → stored.isSome → Holds h' n) → planId.isSome → Q stored h' db') :
    parents.order.wp (lockForSave pk customerId planId) Q h db := by
  refine wp_bind (persisted_wp hshares hbegun fun stored h₁ db₁ hg₁ hshares₁ hheld => ?_)
  split_ifs with hparents
  · refine wp_bind (shareParents_wp hshares₁ fun h₂ db₂ hg₂ hshares₂ => ?_)
    refine wp_bind (wp_read fun _ db₃ _ hok => wp_pure ?_)
    refine hQ stored h₂ db₃ (hg₁.trans hg₂) hshares₂
      (fun n hn hsome => (hheld n hn hsome).mono hg₂.sub) ?_
    cases planId with
    | some p => rfl
    | none =>
      unfold SubscriptionInstance.lockParents at hok
      cases customerId with
      | none => cases hok
      | some c =>
        obtain ⟨_, _, hok⟩ := bind_eq_ok_iff.mp hok
        cases hok
  · refine wp_pure (hQ stored h₁ db₁ hg₁ hshares₁ hheld ?_)
    cases stored with
    | none => exact absurd nofun hparents
    | some row =>
      have hkeys := Option.some.inj (not_not.mp hparents)
      rw [← (Prod.mk.inj hkeys).2]
      rfl

/-- The insertion of a subscription. -/
theorem Subscription.create_wp {s : Chargeflow.Subscription}
    {Q : Chargeflow.Subscription → Locks Resource → Db → Prop}
    (hshares : Shares parents (some s.planId) h) (hchecks : ChecksButPlan parents s.planId h)
    (hQ : ∀ row h' db', Shares parents (some s.planId) h' → ChecksButPlan parents s.planId h' →
      .subscription row.id ∈ h'.inserted → Q row h' db') :
    parents.order.wp (Subscription.create s) Q h db := by
  refine wp_bind (lockForSave_wp hshares nofun fun _ h₁ db₁ hg₁ hshares₁ _ _ => ?_)
  refine wp_bind (wp_exec fun row db₂ db₃ _ hcreate => ?_)
  have hplan : row.planId = s.planId := by
    obtain ⟨_, -, -, -, rfl⟩ := Subscription.create_eq_ok hcreate
    rfl
  refine wp_bind (wp_insertRow (P := fun _ => False) fun h₂ hg₂ hown => ?_)
  refine wp_bind (wp_checkAtCommit (organization_checkable _)
    fun h₃ (hg₃ : parents.order.Grows (fun _ => False) _ _) => ?_)
  refine wp_bind (wp_checkAtCommit (customer_checkable _)
    fun h₄ (hg₄ : parents.order.Grows (fun _ => False) _ _) => ?_)
  have hg₁₄ := hg₂.trans (hg₃.trans hg₄)
  have hshares₄ := hshares₁.grows hg₁₄
  have hchecks₄ := (hchecks.grows hg₁).grows hg₁₄
  show Q row (h₄.check (.plan row.planId)) db₃
  rw [hplan]
  exact hQ row _ db₃ hshares₄ hchecks₄.check ((hg₃.trans hg₄).sub.inserted hown)

/-- The precondition of `SubscriptionService.create`. -/
theorem SubscriptionService.create_wp {customerId planId : ℕ} {issuedAt : DateTime}
    {Q : Chargeflow.Subscription → Locks Resource → Db → Prop} (hbegun : Begun parents h)
    (hchecks : ChecksButPlan parents planId h)
    (hQ : ∀ s h' db', Shares parents (some planId) h' → ChecksButPlan parents planId h' →
      Q s h' db') :
    parents.order.wp (SubscriptionService.create customerId planId now issuedAt) Q h db := by
  refine wp_bind (shareParents_wp hbegun.shares fun h₁ db₁ hg₁ hshares₁ => ?_)
  refine wp_bind (wp_read fun rows db₂ _ _ => wp_bind (wp_raising fun _ _ => ?_))
  refine wp_bind (wp_raising fun _ _ => wp_bind (wp_raising fun periodEnd _ => ?_))
  refine wp_bind (Subscription.create_wp hshares₁ (hchecks.grows hg₁)
    fun s h₂ db₃ hshares₂ hchecks₂ hown => ?_)
  refine wp_bind (InvoiceService.generateForSubscription_wp (Or.inl hown) (absurd hown)
    fun _ h₃ db₄ hg₃ => wp_pure ?_)
  refine hQ s h₃ db₄ (fun l hl hquiet => hshares₂ l ?_ hquiet) (hchecks₂.grows hg₃)
  exact (hg₃.held l hl).resolve_right fun hnew => hnew.1 hown

/-- The foreign keys of an instance. -/
theorem checkParents_wp {s : SubscriptionInstance} {planId : ℕ}
    {written : SubscriptionColumn → Option ℕ → Bool} {Q : Unit → Locks Resource → Db → Prop}
    (hplan : s.plan.value = some planId) (hshares : Shares parents (some planId) h)
    (hchecks : ChecksButPlan parents planId h)
    (hQ : ∀ h' db', Shares parents (some planId) h' → ChecksButPlan parents planId h' →
      Q () h' db') :
    parents.order.wp (checkParents s written) Q h db := by
  have hkey : ∀ (r : ℕ → Resource) (n : Option ℕ) h db, (∀ m h, parents.order.Checkable h (r m)) →
      parents.order.wp (checkKey r n) (fun _ h' _ => parents.order.Grows (fun _ => False) h h') h
        db := by
    intro r n h db hr
    cases n with
    | none => exact .refl h
    | some n => exact wp_checkAtCommit (hr n h) fun _ hg => hg
  refine wp_bind (wp_mono (hkey _ _ h db fun n _ => organization_checkable n)
    fun _ h₁ db₁ hg₁ => ?_)
  refine wp_bind (wp_mono (hkey _ _ h₁ db₁ fun n _ => customer_checkable n) fun _ h₂ db₂ hg₂ => ?_)
  have hshares₂ := hshares.grows (hg₁.trans hg₂)
  have hchecks₂ := hchecks.grows (hg₁.trans hg₂)
  rw [hplan, Option.filter_some]
  split_ifs
  · exact hQ _ db₂ hshares₂ hchecks₂.check
  · exact hQ h₂ db₂ hshares₂ hchecks₂

/-- `Subscription.save` of an instance. -/
theorem SubscriptionInstance.save_wp {s : Chargeflow.SubscriptionInstance}
    {updateFields : Option (List SubscriptionColumn)} {Q : Unit → Locks Resource → Db → Prop}
    (hbegun : Begun parents h) (hchecks : h.checks = [])
    (hQ : ∀ planId h' db', Shares parents (some planId) h' → ChecksButPlan parents planId h' →
      Q () h' db') :
    parents.order.wp (SubscriptionInstance.save updateFields s) Q h db := by
  refine wp_bind (lockForSave_wp hbegun.shares (fun _ => hbegun)
    fun stored h₁ db₁ hg₁ hshares₁ hheld hsome => ?_)
  obtain ⟨planId, hplanId⟩ := Option.isSome_iff_exists.mp hsome
  rw [hplanId] at hshares₁
  have hchecks₁ : ChecksButPlan parents planId h₁ := by
    refine ChecksButPlan.grows (h := h) (fun r hr => ?_) hg₁
    rw [hchecks] at hr
    cases hr
  refine wp_bind (wp_read fun s' db₂ _ hclean => ?_)
  obtain ⟨hpk, hplan⟩ := clean_pk_plan hclean
  have hvalue : s'.plan.value = some planId := by
    rw [hplan, ForeignKey.value, hplanId]
    rfl
  have hwrite : parents.order.wp (update fun db => s'.write db updateFields) Q h₁ db₂ :=
    wp_update fun _ db₃ _ _ => hQ planId h₁ db₃ hshares₁ hchecks₁
  split
  · refine wp_bind (wp_exec fun n _ db₃ _ _ => ?_)
    refine wp_bind (wp_insertRow (P := fun _ => False) fun h₂ hg₂ _ => ?_)
    exact checkParents_wp hvalue (hshares₁.grows hg₂) (hchecks₁.grows hg₂) (hQ planId)
  · rename_i htarget
    have hholds : Holds h₁ _ := hheld _ (hpk ▸ pk_of_storedRow htarget) rfl
    refine wp_bind (wp_lockRow_of_covers (hholds.covers _) ?_)
    refine wp_bind (wp_update fun _ db₃ _ _ => ?_)
    exact checkParents_wp hvalue hshares₁ hchecks₁ (hQ planId)
  · split_ifs
    · exact hwrite
    · refine wp_bind (wp_insertRow (P := fun _ => False) fun h₂ hg₂ _ => ?_)
      exact checkParents_wp hvalue (hshares₁.grows hg₂) (hchecks₁.grows hg₂) (hQ planId)
  · exact hwrite

/-! ## Payments -/

/-- The precondition of an insertion into a unique index. -/
theorem insertUnique_wp {r : Resource} {constraint : String} {Q : Unit → Locks Resource → Db → Prop}
    (hadmits : ¬ parents.order.Covers h r .update → parents.order.Admits h r .update)
    (hQ : ∀ h' db', parents.order.Grows (· = (r, .update)) h h' → Q () h' db') :
    parents.order.wp (insertUnique r constraint) Q h db := by
  refine wp_bind (wp_insertKey (fun _ b => ?_) hadmits (fun _ => ?_) fun _ db' _ => ?_)
  · cases b with
    | false => trivial
    | true => exact hQ h db (.refl h)
  · trivial
  · exact hQ _ db' (grows_push rfl)

/-- The keys of a new attempt come after the lock on the organization. -/
theorem PaymentAttempt.insertKeys_wp {organizationId : ℕ} {p : Chargeflow.PaymentAttempt}
    {Q : Unit → Locks Resource → Db → Prop} (hk : parents.order.AtMost 6 h)
    (hQ : ∀ h' db', parents.order.Grows (fun _ => True) h h' → Q () h' db') :
    parents.order.wp (PaymentAttempt.insertKeys organizationId p) Q h db := by
  have hprovider : ∀ h₁ db₁, parents.order.Grows (fun _ => True) h h₁ →
      parents.order.AtMost 7 h₁ → parents.order.wp
        (insertUnique (.providerKey p.provider p.providerIdempotencyKey)
          "unique_provider_payment_key") Q h₁ db₁ :=
    fun h₁ db₁ hg₁ hk₁ => insertUnique_wp (fun _ => hk₁.admits (by decide : 7 < 8) rfl rfl)
      fun h' db' hg => hQ h' db' (hg₁.trans (hg.mono fun _ _ => trivial))
  unfold PaymentAttempt.insertKeys
  split
  · refine wp_bind (insertUnique_wp (fun _ => hk.admits (by decide : 6 < 7) rfl rfl)
      fun h₁ db₁ hg₁ => hprovider h₁ db₁ (hg₁.mono fun _ _ => trivial) ?_)
    exact hg₁.atMost (hk.mono (by decide)) fun l hl => hl ▸ Nat.le_refl 7
  · exact hprovider h db (.refl h) (hk.mono (by decide))

/-- A new attempt is inserted under the lock of its invoice. -/
theorem PaymentAttempt.create_wp {p : Chargeflow.PaymentAttempt}
    {Q : Chargeflow.PaymentAttempt → Locks Resource → Db → Prop} (hk : parents.order.AtMost 6 h)
    (hinvoice : parents.order.Covers h (.invoice p.invoiceId) .update)
    (hQ : ∀ payment h' db', parents.order.Grows (fun _ => True) h h' → Q payment h' db') :
    parents.order.wp (PaymentAttempt.create p) Q h db := by
  refine wp_bind (wp_read fun i db₁ _ _ => ?_)
  refine wp_bind (PaymentAttempt.insertKeys_wp hk fun h₁ db₂ hg₁ => ?_)
  refine wp_bind (wp_exec fun payment db₃ db₄ _ hcreate => ?_)
  have hid : payment.invoiceId = p.invoiceId := by
    obtain ⟨_, -, -, _, rfl, -, -, rfl⟩ := PaymentAttempt.create_eq_ok hcreate
    rfl
  refine wp_bind (wp_insertRow fun h₂ (hg₂ : parents.order.Grows (fun _ => True) _ _) _ => ?_)
  refine wp_bind (wp_checkAtCommit (organization_checkable _)
    fun h₃ (hg₃ : parents.order.Grows (fun _ => True) _ _) => ?_)
  have hg₁₃ := hg₁.trans (hg₂.trans hg₃)
  have hchecked : parents.order.Checkable h₃ (.invoice payment.invoiceId) :=
    Or.inl (covers_of_update _ (hid ▸ hinvoice.mono hg₁₃.sub))
  exact wp_bind (wp_checkAtCommit hchecked fun h₄ hg₄ =>
    wp_pure (hQ payment h₄ db₄ (hg₁₃.trans hg₄)))

/-- A save of an attempt that is locked takes the key of a success at most. -/
theorem PaymentAttempt.save_wp {fields : List PaymentField} {p : Chargeflow.PaymentAttempt}
    {Q : Unit → Locks Resource → Db → Prop}
    (hattempt : parents.order.Covers h (.attempt p.id) .update)
    (hholds : Holds h (parents.subscriptionOf p.invoiceId)) (hk : parents.order.AtMost 10 h)
    (hQ : ∀ h' db', parents.order.Grows (fun _ => True) h h' → Q () h' db') :
    parents.order.wp (PaymentAttempt.save fields p) Q h db := by
  refine wp_bind (wp_lockRow_of_covers (covers_of_update _ hattempt) ?_)
  split_ifs
  · refine wp_bind (insertUnique_wp (fun _ => ?_) fun h₁ db₁ hg₁ => wp_update fun _ db₂ _ _ => ?_)
    · exact hk.admits_guarded (by decide : 10 ≤ 11) rfl rfl hholds.exclusive
    · exact hQ h₁ db₂ (hg₁.mono fun _ _ => trivial)
  · exact wp_update fun _ db₁ _ _ => hQ h db₁ (.refl h)

/-- The precondition of `_prepare_attempt`. -/
theorem PaymentService.prepareAttempt_wp {subscription : Chargeflow.Subscription}
    {invoice : Chargeflow.Invoice} {idempotencyKey : Option String} {providerKey : String}
    {Q : Option Chargeflow.PaymentAttempt × Bool → Locks Resource → Db → Prop}
    (hk : parents.order.AtMost 6 h)
    (hinvoice : parents.order.Covers h (.invoice invoice.id) .update)
    (hQ : ∀ result h' db', parents.order.Grows (fun _ => True) h h' → Q result h' db') :
    parents.order.wp
      (PaymentService.prepareAttempt subscription invoice idempotencyKey providerKey now) Q h
      db := by
  unfold PaymentService.prepareAttempt
  split
  · refine wp_bind (wp_view fun db₁ _ => ?_)
    split
    · exact wp_pure (hQ _ h db₁ (.refl h))
    · trivial
  · refine wp_bind (wp_view fun db₁ _ => ?_)
    split
    · exact wp_bind (wp_raising fun _ _ => wp_pure (hQ _ h db₁ (.refl h)))
    refine wp_bind (wp_view fun db₂ _ => ?_)
    split
    · exact wp_pure (hQ _ h db₂ (.refl h))
    refine wp_bind (wp_raising fun _ _ => wp_bind (wp_read fun customer db₃ _ _ => ?_))
    exact wp_bind (PaymentAttempt.create_wp hk hinvoice fun payment h' db' hg =>
      wp_pure (hQ _ h' db' hg))

/-- The precondition of a replay or a new attempt. -/
theorem PaymentService.replayOrPrepare_wp {subscription : Chargeflow.Subscription}
    {invoice : Chargeflow.Invoice} {idempotencyKey : Option String} {providerKey : String}
    {Q : Option Chargeflow.PaymentAttempt × Bool → Locks Resource → Db → Prop}
    (hk : parents.order.AtMost 6 h)
    (hinvoice : parents.order.Covers h (.invoice invoice.id) .update)
    (hQ : ∀ result h' db', parents.order.Grows (fun _ => True) h h' → Q result h' db') :
    parents.order.wp
      (PaymentService.replayOrPrepare subscription invoice idempotencyKey providerKey now) Q h
      db := by
  refine wp_bind (wp_view fun db₁ _ => ?_)
  split
  · exact wp_bind (wp_raising fun _ _ => wp_pure (hQ _ h db₁ (.refl h)))
  · exact PaymentService.prepareAttempt_wp hk hinvoice hQ

/-- The locks on a subscription and one of its invoices. -/
structure Locked (parents : Parents) (i : Chargeflow.Invoice) (h : Locks Resource) : Prop where
  holds : Holds h i.subscriptionId
  parent : i.subscriptionId = parents.subscriptionOf i.id
  invoice : parents.order.Covers h (.invoice i.id) .update
  atMost : parents.order.AtMost 5 h

/-- The subscription of an invoice is locked, and then the invoice. -/
theorem lockInvoice_wp {α : Type} {subscriptionId invoiceId : ℕ}
    {k : Chargeflow.Subscription → Chargeflow.Invoice → Transaction α}
    {Q : α → Locks Resource → Db → Prop} (hbegun : Begun parents h)
    (hparent : subscriptionId = parents.subscriptionOf invoiceId)
    (hQ : ∀ s i h' db', parents.order.Grows (fun _ => True) h h' → Locked parents i h' →
      s.id = i.subscriptionId → parents.order.wp (k s i) Q h' db') :
    parents.order.wp (do
      let subscription ← getSubscription subscriptionId
      let invoice ← getInvoice invoiceId
      k subscription invoice) Q h db := by
  refine wp_bind (getSubscription_wp_of_begun hbegun fun s db₁ hid _ => ?_)
  have hk₁ := hbegun.atMost_push subscriptionId
  have hholds : Holds (h.push (.subscription subscriptionId) .update) subscriptionId :=
    List.mem_cons_self
  refine wp_bind (getInvoice_wp (Or.inr ⟨hparent ▸ hholds, hk₁⟩)
    fun i h' db' hg hcovers hi hsub => ?_)
  have hsame : i.subscriptionId = subscriptionId := hsub.trans hparent.symm
  refine hQ s i h' db'
    (((Begun.grows _).mono fun _ _ => trivial).trans (hg.mono fun _ _ => trivial))
    ⟨hsame ▸ hholds.mono hg.sub, hi ▸ hsub, hi ▸ hcovers, ?_⟩ (hid.trans hsame.symm)
  exact hg.atMost hk₁ fun l hl => hl ▸ Nat.le_refl 5

/-- The precondition of `_prepare`. -/
theorem PaymentService.prepare_wp {invoiceId : ℕ} {idempotencyKey : Option String}
    {issuedOnly : Bool} {providerKey : String}
    {Q : Option Chargeflow.PaymentAttempt × Bool → Locks Resource → Db → Prop}
    (hbegun : Begun parents h)
    (hQ : ∀ result h' db', parents.order.Grows (fun _ => True) h h' → Q result h' db') :
    parents.order.wp (PaymentService.prepare invoiceId idempotencyKey issuedOnly providerKey now) Q
      h db := by
  refine wp_bind (wp_read fun seen db₁ hmoves hseen => ?_)
  obtain ⟨hmem, hid⟩ := fetch_eq_ok_iff.mp hseen
  have hid : seen.id = invoiceId := hid
  refine lockInvoice_wp hbegun (hid ▸ hmoves.valid.invoices seen hmem)
    fun s i h₁ db₂ hg₁ hlocked hs => ?_
  split_ifs
  · exact wp_pure (hQ _ h₁ db₂ hg₁)
  · have hg₂ : parents.order.Grows (· = (.organization i.organizationId, .noKeyUpdate)) h₁
        (h₁.push (.organization i.organizationId) .noKeyUpdate) := grows_push rfl
    have hk₂ : parents.order.AtMost 6 (h₁.push (.organization i.organizationId) .noKeyUpdate) :=
      hg₂.atMost (hlocked.atMost.mono (by decide)) fun l hl => hl ▸ Nat.le_refl 6
    refine wp_bind (wp_lockRow (fun _ => ?_)
      (fun _ => hlocked.atMost.admits (by decide : 5 < 6) rfl rfl) fun _ db₃ _ => ?_)
    · exact PaymentService.replayOrPrepare_wp (hlocked.atMost.mono (by decide)) hlocked.invoice
        fun result h' db' hg => hQ result h' db' (hg₁.trans hg)
    · exact PaymentService.replayOrPrepare_wp hk₂ (hlocked.invoice.mono hg₂.sub)
        fun result h' db' hg => hQ result h' db'
          (hg₁.trans ((hg₂.mono fun _ _ => trivial).trans hg))
  · exact PaymentService.replayOrPrepare_wp (hlocked.atMost.mono (by decide)) hlocked.invoice
      fun result h' db' hg => hQ result h' db' (hg₁.trans hg)

/-- The charge id of a result comes after the lock on the attempt. -/
theorem PaymentService.bindChargeId_wp {env : Env} {payment : Chargeflow.PaymentAttempt}
    {providerResponse : List (String × Json)} {incoming : Json}
    {Q : Option Chargeflow.PaymentAttempt → Locks Resource → Db → Prop}
    (hattempt : parents.order.Covers h (.attempt payment.id) .update)
    (hholds : Holds h (parents.subscriptionOf payment.invoiceId)) (hk : parents.order.AtMost 9 h)
    (hnone : ∀ h' db', parents.order.Grows (fun _ => True) h h' → Q none h' db')
    (hsome : ∀ p h' db', parents.order.Grows (fun _ => True) h h' → parents.order.AtMost 10 h' →
      p.id = payment.id → p.invoiceId = payment.invoiceId → Q (some p) h' db') :
    parents.order.wp (PaymentService.bindChargeId env payment providerResponse incoming) Q h
      db := by
  unfold PaymentService.bindChargeId
  dsimp only
  split
  · refine wp_bind (wp_lockRow_of_covers (covers_of_update _ hattempt) ?_)
    have hkey : parents.order.wp
        (insertKey (.chargeKey payment.provider (env.columnText incoming)) : Transaction Bool)
        (fun _ h' _ => parents.order.Grows (fun _ => True) h h' ∧ parents.order.AtMost 10 h') h
        db := by
      have hk' := hk.mono (by decide : 9 ≤ 10)
      refine wp_insertKey (fun _ _ => ⟨.refl h, hk'⟩)
        (fun _ => hk.admits (by decide : 9 < 10) rfl rfl) (fun _ => ⟨.refl h, hk'⟩) fun _ _ _ => ?_
      have hg : parents.order.Grows
          (· = (.chargeKey payment.provider (env.columnText incoming), .update)) h _ :=
        grows_push rfl
      exact ⟨hg.mono fun _ _ => trivial, hg.atMost hk' fun l hl => hl ▸ Nat.le_refl 10⟩
    refine wp_bind (wp_mono hkey fun free h₁ db₁ hgrown => ?_)
    obtain ⟨hg₁, hk₁⟩ := hgrown
    refine wp_bind (wp_exec fun saved db₂ db₃ _ _ => ?_)
    split_ifs
    · exact wp_pure (hsome _ h₁ db₃ hg₁ hk₁ rfl rfl)
    · refine wp_bind (PaymentAttempt.save_wp (hattempt.mono hg₁.sub) (hholds.mono hg₁.sub) hk₁
        fun h' db' hg => wp_pure (hnone h' db' (hg₁.trans hg)))
  · exact wp_pure (hsome _ h db (.refl h) (hk.mono (by decide)) rfl rfl)

/-- The locks that a settlement has taken on the attempt and its parents. -/
structure Settling (parents : Parents) (s : Chargeflow.Subscription) (i : Chargeflow.Invoice)
    (p : Chargeflow.PaymentAttempt) (h : Locks Resource) : Prop where
  holds : Holds h s.id
  parent : s.id = parents.subscriptionOf p.invoiceId
  invoice : parents.order.Covers h (.invoice i.id) .update
  attempt : parents.order.Covers h (.attempt p.id) .update

/-- A settlement keeps its locks with more locks. -/
theorem Settling.mono {s : Chargeflow.Subscription} {i : Chargeflow.Invoice}
    {p : Chargeflow.PaymentAttempt} {h' : Locks Resource} (hlocked : Settling parents s i p h)
    (hsub : h.Sub h') : Settling parents s i p h' :=
  ⟨hlocked.holds.mono hsub, hlocked.parent, hlocked.invoice.mono hsub, hlocked.attempt.mono hsub⟩

/-- The saves of a settlement. -/
theorem Settling.save_wp {s : Chargeflow.Subscription} {i : Chargeflow.Invoice}
    {p p' : Chargeflow.PaymentAttempt} {fields : List PaymentField}
    {Q : Unit → Locks Resource → Db → Prop} (hlocked : Settling parents s i p h)
    (hk : parents.order.AtMost 10 h) (hid : p'.id = p.id) (hinvoice : p'.invoiceId = p.invoiceId)
    (hQ : ∀ h' db', parents.order.Grows (fun _ => True) h h' → Settling parents s i p h' →
      Q () h' db') :
    parents.order.wp (PaymentAttempt.save fields p') Q h db := by
  refine PaymentAttempt.save_wp (hid ▸ hlocked.attempt) ?_ hk fun h' db' hg =>
    hQ h' db' hg (hlocked.mono hg.sub)
  rw [hinvoice, ← hlocked.parent]
  exact hlocked.holds

/-- The precondition of `_apply_success`. -/
theorem PaymentService.applySuccess_wp {s : Chargeflow.Subscription} {i : Chargeflow.Invoice}
    {p : Chargeflow.PaymentAttempt} {Q : Unit → Locks Resource → Db → Prop}
    (hlocked : Settling parents s i p h) (hk : parents.order.AtMost 10 h)
    (hQ : ∀ h' db', parents.order.Grows (fun _ => True) h h' → Q () h' db') :
    parents.order.wp (PaymentService.applySuccess s i p now) Q h db := by
  refine wp_bind (wp_view fun db₁ _ => ?_)
  dsimp only
  split
  · exact hlocked.save_wp hk rfl rfl fun h' db' hg _ => hQ h' db' hg
  · refine wp_bind (hlocked.save_wp hk rfl rfl fun h₁ db₂ hg₁ hlocked₁ => ?_)
    refine wp_bind (moveInvoice_wp (Or.inl hlocked₁.invoice) fun h₂ db₃ hg₂ => ?_)
    exact SubscriptionService.reactivate_wp (hlocked₁.holds.mono hg₂.sub) fun db' =>
      hQ h₂ db' (hg₁.trans (hg₂.mono fun _ _ => trivial))

/-- The precondition of `_apply_failure`. -/
theorem PaymentService.applyFailure_wp {s : Chargeflow.Subscription} {i : Chargeflow.Invoice}
    {p : Chargeflow.PaymentAttempt} {Q : Unit → Locks Resource → Db → Prop}
    (hlocked : Settling parents s i p h) (hk : parents.order.AtMost 10 h)
    (hQ : ∀ h' db', parents.order.Grows (fun _ => True) h h' → Q () h' db') :
    parents.order.wp (PaymentService.applyFailure s i p now) Q h db := by
  refine wp_bind (hlocked.save_wp hk rfl rfl fun h₁ db₁ hg₁ hlocked₁ => ?_)
  refine wp_bind (wp_view fun db₂ _ => ?_)
  split_ifs
  · refine wp_bind (moveInvoice_wp (Or.inl hlocked₁.invoice) fun h₂ db₃ hg₂ => ?_)
    exact SubscriptionService.markOverdue_wp (hlocked₁.holds.mono hg₂.sub) fun db' =>
      hQ h₂ db' (hg₁.trans (hg₂.mono fun _ _ => trivial))
  · exact hQ h₁ db₂ hg₁

/-- The precondition of `_settle`, once it has its rows. -/
theorem PaymentService.settleLocked_wp {env : Env} {s : Chargeflow.Subscription}
    {i : Chargeflow.Invoice} {p : Chargeflow.PaymentAttempt} {success : Bool}
    {providerResponse : List (String × Json)} {providerChargeId : String}
    {Q : Unit → Locks Resource → Db → Prop} (hlocked : Settling parents s i p h)
    (hk : parents.order.AtMost 9 h)
    (hQ : ∀ h' db', parents.order.Grows (fun _ => True) h h' → Q () h' db') :
    parents.order.wp
      (PaymentService.settleLocked env s i p success providerResponse providerChargeId now) Q h
      db := by
  unfold PaymentService.settleLocked
  dsimp only
  split
  · exact hQ h db (.refl h)
  split
  · exact hlocked.save_wp (hk.mono (by decide)) rfl rfl fun h' db' hg _ => hQ h' db' hg
  split
  · exact hQ h db (.refl h)
  have hholds : Holds h (parents.subscriptionOf p.invoiceId) := hlocked.parent ▸ hlocked.holds
  refine wp_bind (PaymentService.bindChargeId_wp hlocked.attempt hholds hk hQ
    fun p' h₁ db₁ hg₁ hk₁ hid hinvoice => ?_)
  have hlocked₁ : Settling parents s i p' h₁ :=
    ⟨hlocked.holds.mono hg₁.sub, hinvoice ▸ hlocked.parent, hlocked.invoice.mono hg₁.sub,
      hid ▸ hlocked.attempt.mono hg₁.sub⟩
  dsimp only
  split
  · exact hQ h₁ db₁ hg₁
  split
  · exact PaymentService.applySuccess_wp hlocked₁ hk₁ fun h' db' hg => hQ h' db' (hg₁.trans hg)
  · exact PaymentService.applyFailure_wp hlocked₁ hk₁ fun h' db' hg => hQ h' db' (hg₁.trans hg)

/-- The precondition of `_settle`. -/
theorem PaymentService.settle_wp {env : Env} {paymentId : ℕ} {success : Bool}
    {providerResponse : List (String × Json)} {providerChargeId : String}
    {Q : Unit → Locks Resource → Db → Prop} (hbegun : Begun parents h)
    (hQ : ∀ h' db', parents.order.Grows (fun _ => True) h h' → Q () h' db') :
    parents.order.wp
      (PaymentService.settle env paymentId success providerResponse providerChargeId now) Q h
      db := by
  refine wp_bind (wp_read fun subscriptionId db₁ hmoves hseen => ?_)
  simp only [bind_eq_ok_iff, pure_eq_ok_iff, fetch_eq_ok_iff] at hseen
  obtain ⟨p, ⟨hp, hpid⟩, i, ⟨hi, hiid⟩, rfl⟩ := hseen
  have hpid : p.id = paymentId := hpid
  have hiid : i.id = p.invoiceId := hiid
  have hparent : i.subscriptionId = parents.subscriptionOf (parents.invoiceOf paymentId) := by
    rw [hmoves.valid.invoices i hi, hiid, hmoves.valid.attempts p hp, hpid]
  refine wp_bind (getSubscription_wp_of_begun hbegun fun s db₂ hsid _ => ?_)
  have hk₁ := hbegun.atMost_push i.subscriptionId
  have hholds : Holds (h.push (.subscription i.subscriptionId) .update) i.subscriptionId :=
    List.mem_cons_self
  refine wp_bind (wp_read fun invoiceId db₃ hmoves' hread => ?_)
  have hinvoiceId : invoiceId = parents.invoiceOf paymentId := by
    cases hfetch : fetch db₃.attempts "PaymentAttempt" paymentId with
    | error e =>
      rw [hfetch] at hread
      cases hread
    | ok q =>
      rw [hfetch] at hread
      obtain rfl := Except.ok.inj hread
      obtain ⟨hq, rfl⟩ := fetch_eq_ok_iff.mp hfetch
      exact hmoves'.valid.attempts q hq
  subst hinvoiceId
  refine wp_bind (getInvoice_wp (Or.inr ⟨hparent ▸ hholds, hk₁⟩)
    fun j h₁ db₄ hg₁ hcovers hj _ => ?_)
  have hk₂ : parents.order.AtMost 5 h₁ := hg₁.atMost hk₁ fun l hl => hl ▸ Nat.le_refl 5
  have hg : parents.order.Grows (fun _ => True) h h₁ :=
    ((Begun.grows _).mono fun _ _ => trivial).trans (hg₁.mono fun _ _ => trivial)
  have hholds₁ := hholds.mono hg₁.sub
  have hlocked : ∀ q h', h₁.Sub h' → q.id = paymentId → q.invoiceId = parents.invoiceOf q.id →
      parents.order.Covers h' (.attempt paymentId) .update → Settling parents s j q h' := by
    intro q h' hsub hqid hqinvoice hattempt
    refine ⟨hsid ▸ hholds₁.mono hsub, ?_, hj ▸ hcovers.mono hsub, hqid ▸ hattempt⟩
    rw [hsid, hparent, hqinvoice, hqid]
  refine wp_bind (wp_readForUpdate (fun _ => ?_) (fun hattempt q db₅ hvalid hq => ?_)
    fun hnew q db₅ hvalid hq => ?_)
  · exact hk₂.admits_guarded (by decide : 5 ≤ 9) rfl rfl (hparent ▸ hholds₁).exclusive
  · obtain ⟨hmem, hqid⟩ := fetch_eq_ok_iff.mp hq
    exact PaymentService.settleLocked_wp
      (hlocked q h₁ (.refl h₁) hqid (hvalid.attempts q hmem) hattempt) (hk₂.mono (by decide))
      fun h' db' hg' => hQ h' db' (hg.trans hg')
  · obtain ⟨hmem, hqid⟩ := fetch_eq_ok_iff.mp hq
    have hg₂ : parents.order.Grows (· = (.attempt paymentId, .update)) h₁
        (h₁.push (.attempt paymentId) .update) := grows_push rfl
    refine PaymentService.settleLocked_wp (hlocked q _ hg₂.sub hqid (hvalid.attempts q hmem)
      (covers_push h₁ _ _)) ?_ fun h' db' hg' => hQ h' db' ?_
    · exact hg₂.atMost (hk₂.mono (by decide)) fun l hl => hl ▸ Nat.le_refl 9
    · exact hg.trans ((hg₂.mono fun _ _ => trivial).trans hg')

/-- A save of the webhook event that the transaction has inserted. -/
theorem PaymentService.saveWebhook_wp {webhook : WebhookEvent}
    {Q : Unit → Locks Resource → Db → Prop} (hown : .webhookEvent webhook.id ∈ h.inserted)
    (hQ : ∀ db', Q () h db') :
    parents.order.wp (PaymentService.saveWebhook webhook) Q h db :=
  wp_bind (wp_lockRow_of_covers (Or.inl hown) (wp_update fun _ db' _ _ => hQ db'))

/-- A transaction that has begun may defer a check. -/
theorem Begun.check (hbegun : Begun parents h) (r : Resource) : Begun parents (h.check r) :=
  ⟨hbegun.atMost, hbegun.inserted⟩

/-- The key and the row of the webhook event come first. -/
theorem begun_webhook (provider providerEventId : String) (n : ℕ) :
    Begun parents ((Locks.empty.push (.webhookKey provider providerEventId) .update).insert
      (.webhookEvent n)) where
  atMost l hl _ := by
    rcases List.mem_cons.mp hl with rfl | hl
    · exact Nat.le_refl 0
    · cases hl
  inserted m hm := by
    rcases List.mem_cons.mp hm with hm | hm <;> cases hm

/-- The part of `handle_webhook` after the event is inserted. -/
theorem PaymentService.processWebhook_wp {env : Env} {webhook : WebhookEvent}
    {payload : List (String × Json)} {Q : Unit → Locks Resource → Db → Prop}
    (hbegun : Begun parents h) (hown : .webhookEvent webhook.id ∈ h.inserted)
    (hQ : ∀ h' db', parents.order.Grows (fun _ => True) h h' → Q () h' db') :
    parents.order.wp (PaymentService.processWebhook env webhook payload now) Q h db := by
  refine wp_bind (wp_view fun db₁ _ => ?_)
  split
  · exact PaymentService.saveWebhook_wp hown fun db' => hQ h db' (.refl h)
  · refine wp_bind (PaymentService.saveWebhook_wp hown fun db₂ => wp_bind ?_)
    refine wp_bind (PaymentService.settle_wp (hbegun.check _) fun h₁ db₃ hg₁ => ?_)
    have hg := (grows_check (organization_checkable _)).trans hg₁
    exact PaymentService.saveWebhook_wp (hg.sub.inserted hown) fun db' => hQ h₁ db' hg

/-- The precondition of `handle_webhook`. -/
theorem PaymentService.handleWebhook_wp {env : Env} {eventType payload : Json} {provider : String}
    {providerEventId : Json} {Q : Unit → Locks Resource → Db → Prop}
    (hQ : ∀ h' db', parents.order.Grows (fun _ => True) .empty h' → Q () h' db') :
    parents.order.wp
      (PaymentService.handleWebhook env eventType payload provider providerEventId now) Q .empty
      db := by
  refine wp_bind (wp_raising fun event _ => wp_bind (wp_view fun db₁ _ => ?_))
  split
  · exact hQ .empty db₁ (.refl _)
  have hnew : ¬ parents.order.Covers .empty (.webhookKey provider event.providerEventId)
      .update := by
    rintro (hown | ⟨_, hheld, -⟩)
    · cases hown
    · cases hheld
  refine wp_bind (wp_insertKey (absurd · hnew) (fun _ => ⟨rfl, nofun, nofun⟩) (fun _ => ?_)
    fun _ db₂ _ => ?_)
  · exact hQ .empty db₁ (.refl _)
  refine wp_bind (wp_exec fun webhook db₃ db₄ _ _ => ?_)
  have hpush : parents.order.Grows (fun _ => True) .empty
      (Locks.empty.push (.webhookKey provider event.providerEventId) .update) :=
    grows_push trivial
  cases webhook with
  | none => exact hQ _ db₄ hpush
  | some webhook =>
    refine wp_bind ?_
    have hbegun : Begun parents _ := begun_webhook provider event.providerEventId webhook.id
    have hinsert := hpush.trans (grows_insert (r := .webhookEvent webhook.id))
    cases horganization : webhook.organizationId with
    | none =>
      exact PaymentService.processWebhook_wp hbegun List.mem_cons_self fun h' db' hg =>
        hQ h' db' (hinsert.trans hg)
    | some n =>
      exact PaymentService.processWebhook_wp (hbegun.check _) List.mem_cons_self fun h' db' hg =>
        hQ h' db' (hinsert.trans ((grows_check (organization_checkable n)).trans hg))

/-! ## Dunning -/

/-- The precondition of `reissue_for_retry`. -/
theorem InvoiceService.reissueForRetry_wp {Q : Unit → Locks Resource → Db → Prop}
    (hinvoice : parents.order.Covers h (.invoice n) .update)
    (hQ : ∀ h' db', parents.order.Grows (fun _ => True) h h' → Q () h' db') :
    parents.order.wp (InvoiceService.reissueForRetry n now) Q h db := by
  refine wp_bind (getInvoice_wp (Or.inl hinvoice) fun i h' db₁ hg hcovers hid _ => ?_)
  have hg' : parents.order.Grows (fun _ => True) h h' := hg.mono fun _ _ => trivial
  split
  · exact hQ h' db₁ hg'
  · exact wp_bind (Invoice.transitionTo_wp (hid ▸ hcovers) fun _ _ =>
      wp_update fun _ db₂ _ _ => hQ h' db₂ hg')

/-- The precondition of `dun_invoice`. -/
theorem dunInvoice_wp {invoiceId : ℕ} {Q : Unit → Locks Resource → Db → Prop}
    (hbegun : Begun parents h)
    (hQ : ∀ h' db', parents.order.Grows (fun _ => True) h h' → Q () h' db') :
    parents.order.wp (dunInvoice invoiceId now) Q h db := by
  refine wp_bind (wp_read fun seen db₁ hmoves hseen => ?_)
  obtain ⟨hmem, hid⟩ := fetch_eq_ok_iff.mp hseen
  have hid : seen.id = invoiceId := hid
  refine lockInvoice_wp hbegun (hid ▸ hmoves.valid.invoices seen hmem)
    fun s i h₁ db₂ hg₁ hlocked hs => ?_
  split
  · exact hQ h₁ db₂ hg₁
  refine wp_bind (wp_view fun db₃ _ => ?_)
  split
  · refine wp_bind (moveInvoice_wp (Or.inl hlocked.invoice) fun h₂ db₄ hg₂ => ?_)
    have hg := hg₁.trans (hg₂.mono fun _ _ => trivial)
    have hk₂ : parents.order.AtMost 5 h₂ :=
      hg₂.atMost hlocked.atMost fun l hl => hl ▸ Nat.le_refl 5
    split
    · exact SubscriptionService.cancel_wp (Or.inr ⟨hs ▸ hlocked.holds.mono hg₂.sub, hk₂⟩)
        fun h' db' hg' => hQ h' db' (hg.trans hg')
    · exact hQ h₂ db₄ hg
  · exact InvoiceService.reissueForRetry_wp hlocked.invoice fun h' db' hg =>
      hQ h' db' (hg₁.trans hg)

/-! ## All transactions -/

/-- Every transaction begins without locks. -/
theorem begun_empty : Begun parents .empty := ⟨nofun, nofun⟩

/-- A transaction whose foreign keys can all be checked commits. -/
theorem commits_of_grows {P : Resource × LockMode → Prop}
    (hg : parents.order.Grows P .empty h) : parents.order.Commits (ε := Err) h db := by
  refine commits_of_checkable (.organization 0)
    (fun r hr => Or.inl ((hg.checks r hr).resolve_left nofun)) ?_
  exact (organization_checkable 0).admits

end Locking

open Locking LockOrder in
/-- The transactions of the billing services keep to the order of the locks. -/
theorem BillingTransaction.ordered {parents : Parents} {x : Transaction Unit}
    (hx : BillingTransaction x) : parents.order.Ordered x := by
  intro db _
  cases hx with
  | create customerId planId now issuedAt =>
    exact wp_bind (SubscriptionService.create_wp begun_empty nofun fun _ _ _ hshares hchecks =>
      wp_pure (hshares.commits hchecks))
  | activate n now issuedAt =>
    exact SubscriptionService.activate_wp begun_empty fun _ _ => commits_of_grows
  | renew n checkedAt now issuedAt =>
    exact SubscriptionService.renew_wp begun_empty fun _ _ => commits_of_grows
  | cancel n reason now =>
    exact SubscriptionService.cancel_wp (Or.inl begun_empty) fun _ _ => commits_of_grows
  | save updateFields s =>
    exact SubscriptionInstance.save_wp begun_empty rfl fun _ _ _ hshares => hshares.commits
  | prepare invoiceId idempotencyKey issuedOnly providerKey now =>
    exact wp_bind (PaymentService.prepare_wp begun_empty fun _ _ _ hg =>
      wp_pure (commits_of_grows hg))
  | settle env paymentId success providerResponse providerChargeId now =>
    exact PaymentService.settle_wp begun_empty fun _ _ => commits_of_grows
  | handleWebhook env eventType payload provider providerEventId now =>
    exact PaymentService.handleWebhook_wp fun _ _ => commits_of_grows
  | dunInvoice invoiceId now =>
    exact dunInvoice_wp begun_empty fun _ _ => commits_of_grows

end Chargeflow
