import Chargeflow.Effects.Preparation
import Chargeflow.Effects.Settlement

/-!
# The writes of a service

Every service is a sequence of the saves and status transitions of the models.  A rule on the rows
that each of these writes keeps is therefore kept by every service; the tables of webhook events and
of receipts are written by `handle_webhook` and by the gateway alone.
-/

namespace Chargeflow

open Foundation

/-- The writes the services are made of. -/
inductive Write (db : Db) : Db → Prop
  | plan {p : Plan} {db' : Db} (h : p.save db = .ok db') : Write db db'
  | customer {c : Customer} {db' : Db} (h : c.save db = .ok db') : Write db db'
  | subscription {s s' : Subscription} {db' : Db} (h : Subscription.create db s = .ok (db', s')) :
      Write db db'
  | subscriptionFields {fields : List SubscriptionField} {s : Subscription} {db' : Db}
      (h : Subscription.save db fields s = .ok db') : Write db db'
  | subscriptionStatus {s s' : Subscription} {newStatus : SubscriptionStatus} {now : DateTime}
      {db' : Db} (h : s.transitionTo db newStatus now = .ok (db', s')) : Write db db'
  | invoice {i i' : Invoice} {db' : Db} (h : Invoice.create db i = .ok (db', i')) : Write db db'
  | invoiceStatus {i i' : Invoice} {newStatus : InvoiceStatus} {now : DateTime} {db' : Db}
      (h : i.transitionTo db newStatus now = .ok (db', i')) : Write db db'
  | line {l : InvoiceLine} {db' : Db} (h : InvoiceLine.create db l = .ok db') : Write db db'
  | attempt {p p' : PaymentAttempt} {db' : Db} (hid : p.id = 0)
      (h : PaymentAttempt.create db p = .ok (db', p')) : Write db db'
  | attemptFields {fields : List PaymentField} {p : PaymentAttempt} {db' : Db}
      (hfields : ∀ f ∈ fields, f ∈ settlementFields)
      (h : PaymentAttempt.save db fields p = .ok db') : Write db db'
  | handOff (tasks : List ℕ) : Write db { db with chargeTasks := tasks }

/-- The writes of the services on subscriptions that are there, and on their invoices. -/
inductive LifecycleWrite (db : Db) : Db → Prop
  | subscriptionFields {fields : List SubscriptionField} {s : Subscription} {db' : Db}
      (h : Subscription.save db fields s = .ok db') : LifecycleWrite db db'
  | subscriptionStatus {s s' : Subscription} {newStatus : SubscriptionStatus} {now : DateTime}
      {db' : Db} (h : s.transitionTo db newStatus now = .ok (db', s')) : LifecycleWrite db db'
  | invoice {i i' : Invoice} {db' : Db} (h : Invoice.create db i = .ok (db', i')) :
      LifecycleWrite db db'
  | invoiceStatus {i i' : Invoice} {newStatus : InvoiceStatus} {now : DateTime} {db' : Db}
      (h : i.transitionTo db newStatus now = .ok (db', i')) : LifecycleWrite db db'
  | line {l : InvoiceLine} {db' : Db} (h : InvoiceLine.create db l = .ok db') :
      LifecycleWrite db db'
  | handOff (tasks : List ℕ) : LifecycleWrite db { db with chargeTasks := tasks }

/-- The writes of the services on subscriptions and invoices that are there. -/
inductive StatusWrite (db : Db) : Db → Prop
  | subscriptionFields {fields : List SubscriptionField} {s : Subscription} {db' : Db}
      (h : Subscription.save db fields s = .ok db') : StatusWrite db db'
  | subscriptionStatus {s s' : Subscription} {newStatus : SubscriptionStatus} {now : DateTime}
      {db' : Db} (h : s.transitionTo db newStatus now = .ok (db', s')) : StatusWrite db db'
  | invoiceStatus {i i' : Invoice} {newStatus : InvoiceStatus} {now : DateTime} {db' : Db}
      (h : i.transitionTo db newStatus now = .ok (db', i')) : StatusWrite db db'
  | handOff (tasks : List ℕ) : StatusWrite db { db with chargeTasks := tasks }

/-- The writes of a settlement. -/
inductive SettlementWrite (db : Db) : Db → Prop
  | status {db' : Db} (h : StatusWrite db db') : SettlementWrite db db'
  | attemptFields {fields : List PaymentField} {p : PaymentAttempt} {db' : Db}
      (hfields : ∀ f ∈ fields, f ∈ settlementFields)
      (h : PaymentAttempt.save db fields p = .ok db') : SettlementWrite db db'

/-- The writes that leave the attempts alone. -/
inductive BillingWrite (db : Db) : Db → Prop
  | plan {p : Plan} {db' : Db} (h : p.save db = .ok db') : BillingWrite db db'
  | customer {c : Customer} {db' : Db} (h : c.save db = .ok db') : BillingWrite db db'
  | subscription {s s' : Subscription} {db' : Db} (h : Subscription.create db s = .ok (db', s')) :
      BillingWrite db db'
  | lifecycle {db' : Db} (h : LifecycleWrite db db') : BillingWrite db db'

/-- The writes that leave the plans and the customers alone, and add no subscription. -/
inductive ServiceWrite (db : Db) : Db → Prop
  | lifecycle {db' : Db} (h : LifecycleWrite db db') : ServiceWrite db db'
  | attempt {p p' : PaymentAttempt} {db' : Db} (hid : p.id = 0)
      (h : PaymentAttempt.create db p = .ok (db', p')) : ServiceWrite db db'
  | attemptFields {fields : List PaymentField} {p : PaymentAttempt} {db' : Db}
      (hfields : ∀ f ∈ fields, f ∈ settlementFields)
      (h : PaymentAttempt.save db fields p = .ok db') : ServiceWrite db db'

/-- A write of a lifecycle is a write. -/
theorem LifecycleWrite.write {db db' : Db} (h : LifecycleWrite db db') : Write db db' := by
  cases h with
  | subscriptionFields h => exact .subscriptionFields h
  | subscriptionStatus h => exact .subscriptionStatus h
  | invoice h => exact .invoice h
  | invoiceStatus h => exact .invoiceStatus h
  | line h => exact .line h
  | handOff tasks => exact .handOff tasks

/-- A write of a status is a write of a lifecycle. -/
theorem StatusWrite.lifecycle {db db' : Db} (h : StatusWrite db db') : LifecycleWrite db db' := by
  cases h with
  | subscriptionFields h => exact .subscriptionFields h
  | subscriptionStatus h => exact .subscriptionStatus h
  | invoiceStatus h => exact .invoiceStatus h
  | handOff tasks => exact .handOff tasks

/-- A write of the billing is a write. -/
theorem BillingWrite.write {db db' : Db} (h : BillingWrite db db') : Write db db' := by
  cases h with
  | plan h => exact .plan h
  | customer h => exact .customer h
  | subscription h => exact .subscription h
  | lifecycle h => exact h.write

/-- A write of a service is a write. -/
theorem ServiceWrite.write {db db' : Db} (h : ServiceWrite db db') : Write db db' := by
  cases h with
  | lifecycle h => exact h.write
  | attempt hid h => exact .attempt hid h
  | attemptFields hfields h => exact .attemptFields hfields h

/-- A write of a settlement is a write of a service. -/
theorem SettlementWrite.service {db db' : Db} (h : SettlementWrite db db') :
    ServiceWrite db db' := by
  cases h with
  | status h => exact .lifecycle h.lifecycle
  | attemptFields hfields h => exact .attemptFields hfields h

/-- Writes of statuses are writes of a lifecycle. -/
theorem Reaches.lifecycle {db db' : Db} (h : Reaches StatusWrite db db') :
    Reaches LifecycleWrite db db' :=
  h.mono fun _ _ => StatusWrite.lifecycle

/-- Writes of statuses are writes of a settlement. -/
theorem Reaches.settlement {db db' : Db} (h : Reaches StatusWrite db db') :
    Reaches SettlementWrite db db' :=
  h.mono fun _ _ => .status

/-- Writes of a lifecycle are writes of the billing. -/
theorem Reaches.billing {db db' : Db} (h : Reaches LifecycleWrite db db') :
    Reaches BillingWrite db db' :=
  h.mono fun _ _ => .lifecycle

/-- Writes of a lifecycle are writes of a service. -/
theorem Reaches.service {db db' : Db} (h : Reaches LifecycleWrite db db') :
    Reaches ServiceWrite db db' :=
  h.mono fun _ _ => .lifecycle

/-- The status of a row changes in its table and nowhere else. -/
theorem Subscription.transitionTo_writes {db db' : Db} {s s' : Subscription}
    {newStatus : SubscriptionStatus} {now : DateTime}
    (h : s.transitionTo db newStatus now = .ok (db', s')) :
    ∃ row ∈ db.subscriptions, row.id = s.id ∧ row.status = s.status ∧
      newStatus ∈ subscriptionTransitions s.status ∧
      db' = { db with subscriptions := db.subscriptions.update (row.stamp newStatus now) } := by
  unfold Subscription.transitionTo at h
  split_ifs at h with hedge
  cases hget : db.subscriptions.get? s.id with
  | none => simp [hget] at h
  | some row =>
    simp only [hget] at h
    split_ifs at h with hstatus
    obtain ⟨hrow, hid⟩ := Table.get?_eq_some_iff.mp hget
    exact ⟨row, hrow, hid, hstatus, hedge, (congrArg Prod.fst (Except.ok.inj h)).symm⟩

/-- A transition that succeeds stamps the stored row along an edge. -/
theorem Invoice.transitionTo_writes {db db' : Db} {i i' : Invoice} {newStatus : InvoiceStatus}
    {now : DateTime} (h : i.transitionTo db newStatus now = .ok (db', i')) :
    ∃ row ∈ db.invoices, row.id = i.id ∧ row.status = i.status ∧
      newStatus ∈ invoiceTransitions i.status ∧
      db' = { db with invoices := db.invoices.update (row.stamp newStatus now) } := by
  unfold Invoice.transitionTo at h
  split_ifs at h with hedge
  cases hget : db.invoices.get? i.id with
  | none => simp [hget] at h
  | some row =>
    simp only [hget] at h
    split_ifs at h with hstatus
    obtain ⟨hrow, hid⟩ := Table.get?_eq_some_iff.mp hget
    exact ⟨row, hrow, hid, hstatus, hedge, (congrArg Prod.fst (Except.ok.inj h)).symm⟩

/-- No write of a service touches the webhook events or the receipts. -/
theorem Write.frame {db db' : Db} (h : Write db db') :
    db'.webhookEvents = db.webhookEvents ∧ db'.receipts = db.receipts := by
  cases h with
  | plan h =>
    obtain ⟨plans, rfl⟩ := Plan.save_eq_ok h
    exact ⟨rfl, rfl⟩
  | customer h =>
    obtain ⟨customers, rfl⟩ := Customer.save_eq_ok h
    exact ⟨rfl, rfl⟩
  | subscription h =>
    obtain ⟨customer, -, -, rfl, -⟩ := Subscription.create_eq_ok h
    exact ⟨rfl, rfl⟩
  | subscriptionFields h =>
    obtain ⟨stored, -, -, rfl⟩ := Subscription.save_eq_ok h
    exact ⟨rfl, rfl⟩
  | subscriptionStatus h =>
    obtain ⟨row, -, -, -, -, rfl⟩ := Subscription.transitionTo_writes h
    exact ⟨rfl, rfl⟩
  | invoice h =>
    obtain ⟨s, -, -, rfl, -⟩ := Invoice.create_eq_ok h
    exact ⟨rfl, rfl⟩
  | invoiceStatus h =>
    obtain ⟨row, -, -, -, -, rfl⟩ := Invoice.transitionTo_writes h
    exact ⟨rfl, rfl⟩
  | line h =>
    obtain ⟨i, -, -, rfl⟩ := InvoiceLine.create_eq_ok h
    exact ⟨rfl, rfl⟩
  | attempt hid h =>
    obtain ⟨i, -, -, row, -, -, rfl, -⟩ := PaymentAttempt.create_eq_ok h
    exact ⟨rfl, rfl⟩
  | attemptFields hfields h =>
    obtain ⟨stored, -, -, -, rfl⟩ := PaymentAttempt.save_eq_ok hfields h
    exact ⟨rfl, rfl⟩
  | handOff tasks => exact ⟨rfl, rfl⟩

/-- A write of a lifecycle leaves the attempts. -/
theorem LifecycleWrite.attempts {db db' : Db} (h : LifecycleWrite db db') :
    db'.attempts = db.attempts := by
  cases h with
  | subscriptionFields h =>
    obtain ⟨stored, -, -, rfl⟩ := Subscription.save_eq_ok h
    rfl
  | subscriptionStatus h =>
    obtain ⟨row, -, -, -, -, rfl⟩ := Subscription.transitionTo_writes h
    rfl
  | invoice h =>
    obtain ⟨s, -, -, rfl, -⟩ := Invoice.create_eq_ok h
    rfl
  | invoiceStatus h =>
    obtain ⟨row, -, -, -, -, rfl⟩ := Invoice.transitionTo_writes h
    rfl
  | line h =>
    obtain ⟨i, -, -, rfl⟩ := InvoiceLine.create_eq_ok h
    rfl
  | handOff tasks => rfl

/-- A write of a service leaves the plans and the customers. -/
theorem ServiceWrite.parents {db db' : Db} (h : ServiceWrite db db') :
    db'.plans = db.plans ∧ db'.customers = db.customers := by
  cases h with
  | lifecycle h =>
    cases h with
    | subscriptionFields h =>
      obtain ⟨stored, -, -, rfl⟩ := Subscription.save_eq_ok h
      exact ⟨rfl, rfl⟩
    | subscriptionStatus h =>
      obtain ⟨row, -, -, -, -, rfl⟩ := Subscription.transitionTo_writes h
      exact ⟨rfl, rfl⟩
    | invoice h =>
      obtain ⟨s, -, -, rfl, -⟩ := Invoice.create_eq_ok h
      exact ⟨rfl, rfl⟩
    | invoiceStatus h =>
      obtain ⟨row, -, -, -, -, rfl⟩ := Invoice.transitionTo_writes h
      exact ⟨rfl, rfl⟩
    | line h =>
      obtain ⟨i, -, -, rfl⟩ := InvoiceLine.create_eq_ok h
      exact ⟨rfl, rfl⟩
    | handOff tasks => exact ⟨rfl, rfl⟩
  | attempt hid h =>
    obtain ⟨i, -, -, row, -, -, rfl, -⟩ := PaymentAttempt.create_eq_ok h
    exact ⟨rfl, rfl⟩
  | attemptFields hfields h =>
    obtain ⟨stored, -, -, -, rfl⟩ := PaymentAttempt.save_eq_ok hfields h
    exact ⟨rfl, rfl⟩

/-- A write of the billing leaves the attempts. -/
theorem BillingWrite.attempts {db db' : Db} (h : BillingWrite db db') :
    db'.attempts = db.attempts := by
  cases h with
  | plan h =>
    obtain ⟨plans, rfl⟩ := Plan.save_eq_ok h
    rfl
  | customer h =>
    obtain ⟨customers, rfl⟩ := Customer.save_eq_ok h
    rfl
  | subscription h =>
    obtain ⟨customer, -, -, rfl, -⟩ := Subscription.create_eq_ok h
    rfl
  | lifecycle h => exact h.attempts

/-- Writes of the billing leave the attempts. -/
theorem Reaches.attempts_eq {db db' : Db} (h : Reaches BillingWrite db db') :
    db'.attempts = db.attempts :=
  h.invariant (I := fun db' => db'.attempts = db.attempts) rfl fun _ _ _ hab hstep =>
    hstep.attempts.trans hab

/-- A write leaves the attempts alone, creates one, or saves columns of one. -/
theorem Write.attempts {db db' : Db} (h : Write db db') :
    db'.attempts = db.attempts ∨
      (∃ p p', p.id = 0 ∧ PaymentAttempt.create db p = .ok (db', p')) ∨
      ∃ fields p, (∀ f ∈ fields, f ∈ settlementFields) ∧
        PaymentAttempt.save db fields p = .ok db' := by
  cases h with
  | attempt hid h => exact Or.inr (Or.inl ⟨_, _, hid, h⟩)
  | attemptFields hfields h => exact Or.inr (Or.inr ⟨_, _, hfields, h⟩)
  | plan h => exact Or.inl (BillingWrite.plan h).attempts
  | customer h => exact Or.inl (BillingWrite.customer h).attempts
  | subscription h => exact Or.inl (BillingWrite.subscription h).attempts
  | subscriptionFields h => exact Or.inl (LifecycleWrite.subscriptionFields h).attempts
  | subscriptionStatus h => exact Or.inl (LifecycleWrite.subscriptionStatus h).attempts
  | invoice h => exact Or.inl (LifecycleWrite.invoice h).attempts
  | invoiceStatus h => exact Or.inl (LifecycleWrite.invoiceStatus h).attempts
  | line h => exact Or.inl (LifecycleWrite.line h).attempts
  | handOff tasks => exact Or.inl rfl

/-! ## Invoices -/

namespace InvoiceService

/-- `generate_for_subscription` is made of writes of a lifecycle. -/
theorem generateForSubscription_writes {db db' : Db} {subscriptionId : ℕ} {now : DateTime}
    {result : Option Invoice}
    (h : generateForSubscription db subscriptionId now = .ok (db', result)) :
    Reaches LifecycleWrite db db' := by
  simp only [generateForSubscription, bind_eq_ok_iff] at h
  obtain ⟨s, -, plan, -, h⟩ := h
  split_ifs at h
  · obtain ⟨rfl, -⟩ := Prod.mk.inj (pure_eq_ok_iff.mp h)
    exact .refl
  split at h
  · obtain ⟨rfl, -⟩ := Prod.mk.inj (pure_eq_ok_iff.mp h)
    exact .refl
  · simp only [bind_eq_ok_iff, pure_eq_ok_iff, Prod.exists, Prod.mk.injEq] at h
    obtain ⟨db₁, i, hcreate, db₂, hline, db₃, i', htransition, rfl, -⟩ := h
    have hissued : Reaches LifecycleWrite db db₃ := .head (.invoice hcreate)
      (.head (.line hline) (.single (.invoiceStatus htransition)))
    exact hissued.tail (.handOff _)

/-- `InvoiceService.mark_paid` is made of writes of statuses. -/
theorem markPaid_writes {db db' : Db} {invoiceId : ℕ} {now : DateTime}
    (h : markPaid db invoiceId now = .ok db') : Reaches StatusWrite db db' := by
  obtain ⟨i, -, h⟩ := bind_eq_ok_iff.mp h
  split_ifs at h
  · exact pure_eq_ok_iff.mp h ▸ .refl
  · simp only [bind_eq_ok_iff, pure_eq_ok_iff, Prod.exists] at h
    obtain ⟨db₁, i', htransition, rfl⟩ := h
    exact .single (.invoiceStatus htransition)

/-- `InvoiceService.mark_failed` is made of writes of statuses. -/
theorem markFailed_writes {db db' : Db} {invoiceId : ℕ} {now : DateTime}
    (h : markFailed db invoiceId now = .ok db') : Reaches StatusWrite db db' := by
  obtain ⟨i, -, h⟩ := bind_eq_ok_iff.mp h
  split_ifs at h
  · exact pure_eq_ok_iff.mp h ▸ .refl
  · simp only [bind_eq_ok_iff, pure_eq_ok_iff, Prod.exists] at h
    obtain ⟨db₁, i', htransition, rfl⟩ := h
    exact .single (.invoiceStatus htransition)

/-- `InvoiceService.mark_overdue` is made of writes of statuses. -/
theorem markOverdue_writes {db db' : Db} {invoiceId : ℕ} {now : DateTime}
    (h : markOverdue db invoiceId now = .ok db') : Reaches StatusWrite db db' := by
  obtain ⟨i, -, h⟩ := bind_eq_ok_iff.mp h
  split_ifs at h
  · exact pure_eq_ok_iff.mp h ▸ .refl
  · simp only [bind_eq_ok_iff, pure_eq_ok_iff, Prod.exists] at h
    obtain ⟨db₁, i', htransition, rfl⟩ := h
    exact .single (.invoiceStatus htransition)

/-- `reissue_for_retry` is made of writes of statuses. -/
theorem reissueForRetry_writes {db db' : Db} {invoiceId : ℕ} {now : DateTime}
    (h : reissueForRetry db invoiceId now = .ok db') : Reaches StatusWrite db db' := by
  obtain ⟨i, -, h⟩ := bind_eq_ok_iff.mp h
  split_ifs at h
  · exact pure_eq_ok_iff.mp h ▸ .refl
  · simp only [bind_eq_ok_iff, pure_eq_ok_iff, Prod.exists] at h
    obtain ⟨db₁, i', htransition, rfl⟩ := h
    exact .tail (.single (.invoiceStatus htransition)) (.handOff _)

/-- The induction is on the list of the invoices still to be canceled. -/
theorem cancelOpenForSubscription_writes {db db' : Db} {subscriptionId : ℕ} {now : DateTime}
    (h : cancelOpenForSubscription db subscriptionId now = .ok db') : Reaches StatusWrite db db' := by
  unfold cancelOpenForSubscription at h
  generalize (db.invoices.filter fun i =>
    i.subscriptionId == subscriptionId && decide (i.status ∈ openInvoiceStatuses)) = l at h
  induction l generalizing db with
  | nil => exact pure_eq_ok_iff.mp h ▸ .refl
  | cons i l ih =>
    rw [List.foldlM_cons] at h
    simp only [bind_eq_ok_iff, pure_eq_ok_iff, Prod.exists] at h
    obtain ⟨db₁, ⟨db₁', i', htransition, rfl⟩, h⟩ := h
    exact .head (.invoiceStatus htransition) (ih h)

end InvoiceService

/-! ## Subscriptions -/

namespace SubscriptionService

/-- `SubscriptionService.create` inserts the subscription and ends in the generation of its
invoice. -/
theorem create_generates {db db' : Db} {customerId planId : ℕ} {now issuedAt : DateTime}
    {s : Subscription} (h : create db customerId planId now issuedAt = .ok (db', s)) :
    ∃ s₀ db₁ s₁ result, s₀.customerId = customerId ∧ s₀.planId = planId ∧
      Subscription.create db s₀ = .ok (db₁, s₁) ∧
      InvoiceService.generateForSubscription db₁ s₁.id issuedAt = .ok (db', result) := by
  simp only [create, bind_eq_ok_iff, Prod.exists] at h
  obtain ⟨customer, plan, -, -, -, -, -, h⟩ := h
  split_ifs at h
  all_goals
    simp only [bind_eq_ok_iff, pure_eq_ok_iff, Prod.exists, Prod.mk.injEq] at h
    obtain ⟨e, -, db₁, s₁, hcreate, db₂, result, hgen, rfl, -⟩ := h
    exact ⟨_, db₁, s₁, result, rfl, rfl, hcreate, hgen⟩

/-- After the insertion of the row, `SubscriptionService.create` is made of writes of a
lifecycle. -/
theorem create_writes {db db' : Db} {customerId planId : ℕ} {now issuedAt : DateTime}
    {s : Subscription} (h : create db customerId planId now issuedAt = .ok (db', s)) :
    ∃ s₀ db₁ s₁, s₀.customerId = customerId ∧ s₀.planId = planId ∧
      Subscription.create db s₀ = .ok (db₁, s₁) ∧ Reaches LifecycleWrite db₁ db' := by
  obtain ⟨s₀, db₁, s₁, result, hcustomer, hplan, hcreate, hgen⟩ := create_generates h
  exact ⟨s₀, db₁, s₁, hcustomer, hplan, hcreate,
    InvoiceService.generateForSubscription_writes hgen⟩

/-- The transaction sets the period of a subscription, and ends by generating its invoice. -/
def EndsGenerating (db db' : Db) : Prop :=
  ∃ db₁ subscriptionId issuedAt result, Reaches StatusWrite db db₁ ∧
    InvoiceService.generateForSubscription db₁ subscriptionId issuedAt = .ok (db', result)

/-- What ends in the generation of an invoice is made of writes of a lifecycle. -/
theorem EndsGenerating.writes {db db' : Db} (h : EndsGenerating db db') :
    Reaches LifecycleWrite db db' := by
  obtain ⟨db₁, subscriptionId, issuedAt, result, hwrites, hgen⟩ := h
  exact (Reaches.lifecycle hwrites).trans (InvoiceService.generateForSubscription_writes hgen)

/-- `_start_period` ends in the generation of an invoice. -/
theorem startPeriod_generates {db db' : Db} {s : Subscription} {plan : Plan}
    {now issuedAt : DateTime} (h : startPeriod db s plan now issuedAt = .ok db') :
    EndsGenerating db db' := by
  simp only [startPeriod, bind_eq_ok_iff, pure_eq_ok_iff, Prod.exists] at h
  obtain ⟨e, -, db₁, hsave, db₂, result, hgen, rfl⟩ := h
  exact ⟨db₁, s.id, issuedAt, result, .single (.subscriptionFields hsave), hgen⟩

/-- `activate` ends in the generation of an invoice. -/
theorem activate_generates {db db' : Db} {subscriptionId : ℕ} {now issuedAt : DateTime}
    (h : activate db subscriptionId now issuedAt = .ok db') : EndsGenerating db db' := by
  simp only [activate, bind_eq_ok_iff, Prod.exists] at h
  obtain ⟨s, -, plan, -, -, -, db₁, s₁, htransition, hperiod⟩ := h
  obtain ⟨db₂, n, t, result, hwrites, hgen⟩ := startPeriod_generates hperiod
  exact ⟨db₂, n, t, result, .head (.subscriptionStatus htransition) hwrites, hgen⟩

/-- `renew` ends in the generation of an invoice. -/
theorem renew_generates {db db' : Db} {subscriptionId : ℕ} {checkedAt now issuedAt : DateTime}
    (h : renew db subscriptionId checkedAt now issuedAt = .ok db') : EndsGenerating db db' := by
  simp only [renew, bind_eq_ok_iff] at h
  obtain ⟨s, -, plan, -, -, -, -, -, hperiod⟩ := h
  exact startPeriod_generates hperiod

/-- `renew_if_still_due` writes nothing or ends in the generation of an invoice. -/
theorem renewIfStillDue_generates {db db' : Db} {subscriptionId : ℕ}
    {listedAt checkedAt now issuedAt : DateTime}
    (h : renewIfStillDue db subscriptionId listedAt checkedAt now issuedAt = .ok db') :
    db' = db ∨ EndsGenerating db db' := by
  simp only [renewIfStillDue, bind_eq_ok_iff] at h
  obtain ⟨s, -, h⟩ := h
  split_ifs at h
  · exact Or.inr (renew_generates h)
  · exact Or.inl (pure_eq_ok_iff.mp h).symm

/-- `activate_if_still_expired` writes nothing or ends in the generation of an invoice. -/
theorem activateIfStillExpired_generates {db db' : Db} {subscriptionId : ℕ}
    {checkedAt now issuedAt : DateTime}
    (h : activateIfStillExpired db subscriptionId checkedAt now issuedAt = .ok db') :
    db' = db ∨ EndsGenerating db db' := by
  simp only [activateIfStillExpired, bind_eq_ok_iff] at h
  obtain ⟨s, -, h⟩ := h
  split_ifs at h
  · exact Or.inl (pure_eq_ok_iff.mp h).symm
  · exact Or.inl (pure_eq_ok_iff.mp h).symm
  · exact Or.inr (activate_generates h)

/-- `SubscriptionService.mark_overdue` is made of writes of statuses. -/
theorem markOverdue_writes {db db' : Db} {subscriptionId : ℕ} {now : DateTime}
    (h : markOverdue db subscriptionId now = .ok db') : Reaches StatusWrite db db' := by
  obtain ⟨s, -, h⟩ := bind_eq_ok_iff.mp h
  split_ifs at h
  · exact pure_eq_ok_iff.mp h ▸ .refl
  · simp only [bind_eq_ok_iff, pure_eq_ok_iff, Prod.exists] at h
    obtain ⟨db₁, s', htransition, rfl⟩ := h
    exact .single (.subscriptionStatus htransition)

/-- `SubscriptionService.reactivate` is made of writes of statuses. -/
theorem reactivate_writes {db db' : Db} {subscriptionId : ℕ} {now : DateTime}
    (h : reactivate db subscriptionId now = .ok db') : Reaches StatusWrite db db' := by
  obtain ⟨s, -, h⟩ := bind_eq_ok_iff.mp h
  split_ifs at h
  · exact pure_eq_ok_iff.mp h ▸ .refl
  · exact pure_eq_ok_iff.mp h ▸ .refl
  · split at h
    · rename_i db₁ s' htransition
      exact pure_eq_ok_iff.mp h ▸ .single (.subscriptionStatus htransition)
    · exact pure_eq_ok_iff.mp h ▸ .refl
    · cases h

/-- `SubscriptionService.cancel` is made of writes of statuses. -/
theorem cancel_writes {db db' : Db} {subscriptionId : ℕ} {reason : CancellationReason}
    {now : DateTime} (h : cancel db subscriptionId reason now = .ok db') :
    Reaches StatusWrite db db' := by
  simp only [cancel, bind_eq_ok_iff, Prod.exists] at h
  obtain ⟨s, -, db₁, s₁, htransition, db₂, hsave, hclose⟩ := h
  exact .head (.subscriptionStatus htransition) (.head (.subscriptionFields hsave)
    (InvoiceService.cancelOpenForSubscription_writes hclose))

end SubscriptionService

/-- `dun_invoice` is made of writes of statuses. -/
theorem dunInvoice_writes {db db' : Db} {invoiceId : ℕ} {now : DateTime}
    (h : dunInvoice db invoiceId now = .ok db') : Reaches StatusWrite db db' := by
  simp only [dunInvoice, bind_eq_ok_iff] at h
  obtain ⟨i, -, s, -, h⟩ := h
  split_ifs at h
  · exact pure_eq_ok_iff.mp h ▸ .refl
  · obtain ⟨db₁, hoverdue, hcancel⟩ := bind_eq_ok_iff.mp h
    exact .trans (InvoiceService.markOverdue_writes hoverdue)
      (SubscriptionService.cancel_writes hcancel)
  · simp only [bind_eq_ok_iff, pure_eq_ok_iff] at h
    obtain ⟨db₁, hoverdue, rfl⟩ := h
    exact InvoiceService.markOverdue_writes hoverdue
  · exact InvoiceService.reissueForRetry_writes h

/-! ## Payments -/

namespace PaymentService

/-- `_prepare_attempt` is made of writes of a service. -/
theorem prepareAttempt_writes {db db' : Db} {s : Subscription} {i : Invoice} {key : Option String}
    {providerKey : String} {now : DateTime} {payment : Option PaymentAttempt} {shouldCharge : Bool}
    (h : prepareAttempt db s i key providerKey now = .ok (db', payment, shouldCharge)) :
    Reaches ServiceWrite db db' := by
  unfold prepareAttempt at h
  by_cases hpayable : i.Payable
  · rw [if_neg (not_not.mpr hpayable)] at h
    dsimp only at h
    split at h
    · obtain ⟨-, -, h⟩ := bind_eq_ok_iff.mp h
      obtain ⟨rfl, -⟩ := Prod.mk.inj (pure_eq_ok_iff.mp h)
      exact .refl
    · split at h
      · obtain ⟨rfl, -⟩ := Prod.mk.inj (pure_eq_ok_iff.mp h)
        exact .refl
      · simp only [bind_eq_ok_iff, pure_eq_ok_iff, Prod.exists, Prod.mk.injEq] at h
        obtain ⟨-, -, customer, -, db₁, p, hcreate, rfl, -⟩ := h
        exact .single (.attempt rfl hcreate)
  · rw [if_pos hpayable] at h
    split at h
    · obtain ⟨rfl, -⟩ := Prod.mk.inj (pure_eq_ok_iff.mp h)
      exact .refl
    · cases h

/-- `_prepare` is made of writes of a service. -/
theorem prepare_writes {db db' : Db} {invoiceId : ℕ} {key : Option String} {issuedOnly : Bool}
    {providerKey : String} {now : DateTime} {payment : Option PaymentAttempt} {shouldCharge : Bool}
    (h : prepare db invoiceId key issuedOnly providerKey now = .ok (db', payment, shouldCharge)) :
    Reaches ServiceWrite db db' := by
  simp only [prepare, bind_eq_ok_iff] at h
  obtain ⟨i, -, s, -, h⟩ := h
  split_ifs at h
  · obtain ⟨rfl, -⟩ := Prod.mk.inj (pure_eq_ok_iff.mp h)
    exact .refl
  · split at h
    · obtain ⟨-, -, h⟩ := bind_eq_ok_iff.mp h
      obtain ⟨rfl, -⟩ := Prod.mk.inj (pure_eq_ok_iff.mp h)
      exact .refl
    · exact prepareAttempt_writes h

/-- The saves inside the savepoint and after it. -/
theorem bindChargeId_writes {env : Env} {db : Db} {p : PaymentAttempt}
    {response : List (String × Json)} {incoming : Json} {binding : ChargeBinding}
    (h : bindChargeId env db p response incoming = .ok binding) :
    (∃ db', binding = .collided db' ∧ Reaches SettlementWrite db db') ∨
      ∃ db' p', binding = .bound db' p' ∧ Reaches SettlementWrite db db' := by
  unfold bindChargeId at h
  dsimp only at h
  split_ifs at h
  · split at h
    · rename_i db₁ hsave
      obtain rfl := Except.ok.inj h
      exact Or.inr ⟨db₁, _, rfl, .single (.attemptFields (settlement_subset rfl) hsave)⟩
    · simp only [bind_eq_ok_iff, pure_eq_ok_iff] at h
      obtain ⟨db₁, hsave, rfl⟩ := h
      exact Or.inl ⟨db₁, rfl, .single (.attemptFields (settlement_subset rfl) hsave)⟩
    · cases h
  · obtain rfl := Except.ok.inj h
    exact Or.inr ⟨db, _, rfl, .refl⟩

/-- `_apply_success` is made of writes of a settlement. -/
theorem applySuccess_writes {db db' : Db} {s : Subscription} {i : Invoice} {p : PaymentAttempt}
    {now : DateTime} (h : applySuccess db s i p now = .ok db') : Reaches SettlementWrite db db' := by
  unfold applySuccess at h
  dsimp only at h
  split_ifs at h
  · exact .single (.attemptFields (settlement_subset rfl) h)
  · simp only [bind_eq_ok_iff] at h
    obtain ⟨db₁, hsave, db₂, hpaid, hreactivate⟩ := h
    exact .head (.attemptFields (settlement_subset rfl) hsave)
      (Reaches.settlement (.trans (InvoiceService.markPaid_writes hpaid)
        (SubscriptionService.reactivate_writes hreactivate)))

/-- `_apply_failure` is made of writes of a settlement. -/
theorem applyFailure_writes {db db' : Db} {s : Subscription} {i : Invoice} {p : PaymentAttempt}
    {now : DateTime} (h : applyFailure db s i p now = .ok db') : Reaches SettlementWrite db db' := by
  obtain ⟨db₁, hsave, h⟩ := bind_eq_ok_iff.mp h
  refine .head (.attemptFields (settlement_subset rfl) hsave) ?_
  split_ifs at h
  · obtain ⟨db₂, hfailed, hoverdue⟩ := bind_eq_ok_iff.mp h
    exact Reaches.settlement (.trans (InvoiceService.markFailed_writes hfailed)
      (SubscriptionService.markOverdue_writes hoverdue))
  · exact pure_eq_ok_iff.mp h ▸ .refl

/-- `_settle` is made of writes of a settlement. -/
theorem settle_writes {env : Env} {db db' : Db} {paymentId : ℕ} {success : Bool}
    {response : List (String × Json)} {chargeId : String} {now : DateTime}
    (h : settle env db paymentId success response chargeId now = .ok db') :
    Reaches SettlementWrite db db' := by
  simp only [settle, bind_eq_ok_iff] at h
  obtain ⟨p, -, i, -, s, -, h⟩ := h
  by_cases hearly : (!success && (p.status == .success || p.needsReconciliation)) = true
  · rw [if_pos hearly] at h
    exact pure_eq_ok_iff.mp h ▸ .refl
  rw [if_neg hearly] at h
  by_cases hconflict : conflictingCharge p (incomingChargeId response chargeId) = true
  · rw [if_pos hconflict] at h
    exact .single (.attemptFields (settlement_subset rfl) h)
  rw [if_neg hconflict] at h
  by_cases hsettled : (p.status == .success || p.needsReconciliation) = true
  · rw [if_pos hsettled] at h
    exact pure_eq_ok_iff.mp h ▸ .refl
  rw [if_neg hsettled] at h
  obtain ⟨binding, hbind, h⟩ := bind_eq_ok_iff.mp h
  obtain ⟨db₁, rfl, hwrites⟩ | ⟨db₁, p₁, rfl, hwrites⟩ := bindChargeId_writes hbind
  · exact pure_eq_ok_iff.mp h ▸ hwrites
  · refine .trans hwrites ?_
    dsimp only at h
    split_ifs at h
    · exact pure_eq_ok_iff.mp h ▸ .refl
    · exact applySuccess_writes h
    · exact applyFailure_writes h

end PaymentService

end Chargeflow
