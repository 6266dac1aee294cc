import Chargeflow.Foundation.Locks
import Chargeflow.Effects.Instances
import Chargeflow.System.Tenancy

/-!
# Saves and their checks

`Save` is a call of `save` on an instance of a model.  A save is one transaction: it takes its row
locks, passes the checks of `clean`, and writes later.  A customer or a plan is locked while it is
saved, and so is the row of a subscription; a save of a subscription with other parents than those
of its stored row shares the locks of its customer and of its plan.  The other saves lock no row
before they write.

`Checked` says what the locks and the checks of a save establish.
-/

namespace Chargeflow

open Foundation PaymentService

/-- A call of `save` on an instance of a model, with its `update_fields`. -/
inductive Save where
  | plan (p : PlanInstance) (updateFields : Option (List PlanColumn))
  | customer (c : CustomerInstance) (updateFields : Option (List CustomerColumn))
  | subscription (s : SubscriptionInstance) (updateFields : Option (List SubscriptionColumn))
  | invoice (i : InvoiceInstance) (updateFields : Option (List InvoiceColumn))
  | line (l : LineInstance) (updateFields : Option (List LineColumn))
  | attempt (p : AttemptInstance) (updateFields : Option (List AttemptColumn))

/-- The rows that a save of a model locks explicitly. -/
inductive BillingRow where
  | plan (n : ℕ)
  | customer (n : ℕ)
  | subscription (n : ℕ)

namespace Save

/-- The database after a save, unless it aborts. -/
def apply (db : Db) : Save → Except Err Db
  | plan p updateFields => p.save db updateFields
  | customer c updateFields => c.save db updateFields
  | subscription s updateFields => s.save db updateFields
  | invoice i updateFields => i.save db updateFields
  | line l updateFields => l.save db updateFields
  | attempt p updateFields => p.save db updateFields

/-- What a save does before it writes: the save it goes on with, on the instance after `clean`. -/
def checks (db : Db) : Save → Except Err Save
  | plan p updateFields => do
    p.clean db
    return plan p updateFields
  | customer c updateFields => do
    c.clean db
    return customer c updateFields
  | subscription s updateFields => do
    if ¬ s.KeepsParents db then
      SubscriptionInstance.lockParents db s.customer.column s.plan.column
    let s ← s.clean db
    return subscription s updateFields
  | invoice i updateFields => do
    let i ← i.clean db
    return invoice i updateFields
  | line l updateFields => do
    let l ← l.clean db
    return line l updateFields
  | attempt p updateFields => do
    let p := { p with idempotencyKey := normalizeKey p.idempotencyKey }
    let p ← p.clean db
    return attempt p updateFields

/-- The rest of a save. -/
def write (db : Db) : Save → Except Err Db
  | plan p updateFields => p.write db updateFields
  | customer c updateFields => c.write db updateFields
  | subscription s updateFields => s.write db updateFields
  | invoice i updateFields => i.write db updateFields
  | line l updateFields => l.write db updateFields
  | attempt p updateFields => p.write db updateFields

/-- A save in one piece writes right after its checks. -/
theorem apply_eq (db : Db) (save : Save) : save.apply db = save.checks db >>= write db := by
  cases save with
  | subscription s updateFields =>
    simp only [apply, SubscriptionInstance.save, checks]
    split_ifs
    · rw [bind_assoc]
      rfl
    · simp only [bind_assoc]
      rfl
  | _ =>
    simp only [apply, PlanInstance.save, CustomerInstance.save, InvoiceInstance.save,
      LineInstance.save, AttemptInstance.save, checks, bind_assoc]
    rfl

/-- The row locks of a save. -/
def locks (db : Db) : Save → List (Lock BillingRow)
  | plan p _ => p.pk.toList.map fun n => .exclusive (.plan n)
  | customer c _ => c.pk.toList.map fun n => .exclusive (.customer n)
  | subscription s _ =>
    (s.pk.toList.map fun n => .exclusive (.subscription n)) ++
      if s.KeepsParents db then []
      else (s.customer.column.toList.map fun n => .shared (.customer n)) ++
        s.plan.column.toList.map fun n => .shared (.plan n)
  | _ => []

/-- The row of the instance, and those of the parents it was assigned as objects, are stored. -/
def Present (db : Db) : Save → Prop
  | plan p _ => ∀ n, p.pk = some n → ∃ row ∈ db.plans, row.id = n
  | customer c _ => ∀ n, c.pk = some n → ∃ row ∈ db.customers, row.id = n
  | subscription s f => RecordModel.Present db.subscriptions db.customers (s.customerKeys f) ∧
      RecordModel.Present db.subscriptions db.plans (s.planKeys f)
  | invoice i f => RecordModel.Present db.invoices db.subscriptions (i.keys f)
  | line l f => RecordModel.Present db.invoiceLines db.invoices (l.keys f)
  | attempt p f => RecordModel.Present db.attempts db.invoices (p.keys f)

/-- A save of an invoice, an invoice line or a payment attempt whose parent is missing in memory
does not move the record, nor give it a parent of another organization. -/
def Unmoved (db : Db) : Save → Prop
  | invoice i f => Invoice.model.Unmoved db.invoices db.subscriptions (i.keys f)
  | line l f => InvoiceLine.model.Unmoved db.invoiceLines db.invoices (l.keys f)
  | attempt p f => PaymentAttempt.model.Unmoved db.attempts db.invoices (p.keys f)
  | _ => True

end Save

/-! ## What a save has checked -/

/-- The parents of a subscription cannot move before it is written: their locks are shared, or the
stored row, which is locked, refers to them. -/
structure SubscriptionInstance.ParentsHeld (db : Db) (locks : List (Lock BillingRow))
    (s : SubscriptionInstance) : Prop where
  own : ∀ n, s.pk = some n → .exclusive (.subscription n) ∈ locks
  customer : ∃ c, s.customer.column = some c ∧ (.shared (.customer c) ∈ locks ∨
    ∃ row ∈ db.subscriptions, s.pk = some row.id ∧ row.customerId = c)
  plan : ∃ p, s.plan.column = some p ∧ (.shared (.plan p) ∈ locks ∨
    ∃ row ∈ db.subscriptions, s.pk = some row.id ∧ row.planId = p)

/-- What the checks of a save that holds the given locks establish. -/
def Save.Checked (db : Db) (locks : List (Lock BillingRow)) : Save → Prop
  | plan p _ => ParentCleaned db.plans Plan.organizationId db.subscriptions Subscription.planId
      p.pk p.organization ∧ ∀ n, p.pk = some n → .exclusive (.plan n) ∈ locks
  | customer c _ => ParentCleaned db.customers Customer.organizationId db.subscriptions
      Subscription.customerId c.pk c.organization ∧
        ∀ n, c.pk = some n → .exclusive (.customer n) ∈ locks
  | subscription s f =>
      Subscription.customerModel.Cleaned db.subscriptions db.customers (s.customerKeys f) ∧
        Subscription.planModel.Cleaned db.subscriptions db.plans (s.planKeys f) ∧
          s.ParentsHeld db locks
  | invoice i f => Invoice.model.Cleaned db.invoices db.subscriptions (i.keys f)
  | line l f => InvoiceLine.model.Cleaned db.invoiceLines db.invoices (l.keys f)
  | attempt p f => PaymentAttempt.model.Cleaned db.attempts db.invoices (p.keys f)

/-- A subscription that passes the lock of its parents and `clean` belongs to their organization. -/
theorem SubscriptionInstance.checked {db : Db} {s s' : SubscriptionInstance}
    {f : Option (List SubscriptionColumn)}
    (hlock : s.KeepsParents db ∨ lockParents db s.customer.column s.plan.column = .ok ())
    (hclean : s.clean db = .ok s') (hpresent : (Save.subscription s f).Present db) :
    (Save.subscription s' f).Checked db ((Save.subscription s f).locks db) := by
  have hcolumns : ∃ c p, s.customer.column = some c ∧ s.plan.column = some p := by
    rcases hlock with hkeeps | hlock
    · obtain ⟨row, -, -, hcustomer, hplan⟩ := hkeeps.columns
      exact ⟨_, _, hcustomer, hplan⟩
    · exact lockParents_eq_ok hlock
  obtain ⟨c, p, hcustomer, hplan⟩ := hcolumns
  obtain ⟨organization, rfl, customer, hc, plan, hp, rfl, rfl, hsame, horganization, hstays⟩ :=
    clean_eq_ok hclean hcustomer hplan
  refine ⟨.of_parent ⟨hpresent.1.stored, hpresent.1.related⟩ hc hcustomer horganization hstays,
    .of_parent ⟨hpresent.2.stored, hpresent.2.related⟩ hp hplan ?_ ?_, ?_⟩
  · exact horganization.trans (congrArg some hsame.symm)
  · exact fun row hrow hpk => (hstays row hrow hpk).trans hsame.symm
  · refine ⟨?_, ⟨_, hcustomer, ?_⟩, ⟨_, hplan, ?_⟩⟩
    · intro n hpk
      have hpk : s.pk = some n := hpk
      simp [Save.locks, hpk]
    · by_cases hkeeps : s.KeepsParents db
      · obtain ⟨row, hrow, hpk, hcolumn, -⟩ := hkeeps.columns
        exact Or.inr ⟨row, hrow, hpk, Option.some.inj (hcolumn.symm.trans hcustomer)⟩
      · exact Or.inl (by simp [Save.locks, hkeeps, hcustomer])
    · by_cases hkeeps : s.KeepsParents db
      · obtain ⟨row, hrow, hpk, -, hcolumn⟩ := hkeeps.columns
        exact Or.inr ⟨row, hrow, hpk, Option.some.inj (hcolumn.symm.trans hplan)⟩
      · exact Or.inl (by simp [Save.locks, hkeeps, hplan])

/-- A save that passed its checks holds what they checked. -/
theorem Save.checked_of_checks {db : Db} {save save' : Save} (h : save.checks db = .ok save')
    (hpresent : save.Present db) (hunmoved : save.Unmoved db) :
    save'.Checked db (save.locks db) := by
  cases save with
  | plan p f =>
    simp only [checks, bind_eq_ok_iff, pure_eq_ok_iff] at h
    obtain ⟨⟨⟩, hclean, rfl⟩ := h
    exact ⟨cleanParent_eq_ok hclean hpresent, fun n hpk => by simp [locks, hpk]⟩
  | customer c f =>
    simp only [checks, bind_eq_ok_iff, pure_eq_ok_iff] at h
    obtain ⟨⟨⟩, hclean, rfl⟩ := h
    exact ⟨cleanParent_eq_ok hclean hpresent, fun n hpk => by simp [locks, hpk]⟩
  | subscription s f =>
    simp only [checks] at h
    split_ifs at h with hkeeps
    · simp only [bind_eq_ok_iff, pure_eq_ok_iff] at h
      obtain ⟨s', hclean, rfl⟩ := h
      exact SubscriptionInstance.checked (Or.inl hkeeps) hclean hpresent
    · simp only [bind_eq_ok_iff, pure_eq_ok_iff] at h
      obtain ⟨⟨⟩, hlock, s', hclean, rfl⟩ := h
      exact SubscriptionInstance.checked (Or.inr hlock) hclean hpresent
  | invoice i f =>
    simp only [checks, bind_eq_ok_iff, pure_eq_ok_iff] at h
    obtain ⟨i', hclean, rfl⟩ := h
    exact InvoiceInstance.clean_eq_ok hclean hpresent hunmoved
  | line l f =>
    simp only [checks, bind_eq_ok_iff, pure_eq_ok_iff] at h
    obtain ⟨l', hclean, rfl⟩ := h
    exact LineInstance.clean_eq_ok hclean hpresent hunmoved
  | attempt p f =>
    simp only [checks, bind_eq_ok_iff, pure_eq_ok_iff] at h
    obtain ⟨p', hclean, rfl⟩ := h
    exact AttemptInstance.clean_eq_ok hclean hpresent hunmoved

end Chargeflow
