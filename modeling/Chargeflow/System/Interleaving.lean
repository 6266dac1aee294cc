import Chargeflow.System.Deliveries
import Chargeflow.System.Saves

/-!
# Interleavings of saves and services

Between the checks of a save and its write other saves and the services run, as far as the row locks
allow.  A service runs in one piece; it takes more row locks than those that matter here, which only
rules out more interleavings.

`Transacts` says what a transaction with given locks may do to the organizations of the rows.  It
spoils the check of no save whose locks are compatible with its own, so `Tenancy` holds in every
interleaving (`transactions_guarded`).
-/

namespace Chargeflow

open Foundation PaymentService

/-! ## What a transaction may do -/

/-- What a transaction with the locks `l` does to the plans or the customers: it moves a row to
another organization only under its lock and while no subscription refers to it, and it shares the
lock of a row that it makes a subscription refer to. -/
structure ParentMoves {α : Type} [Keyed α] (lock : ℕ → BillingRow) (owner : α → ℕ)
    (parent : Subscription → ℕ) (l : List (Lock BillingRow)) (t t' : Table α)
    (subscriptions subscriptions' : Table Subscription) : Prop where
  moved : ∀ a ∈ t, ∃ a' ∈ t', key a' = key a ∧ (owner a' ≠ owner a →
    .exclusive (lock (key a)) ∈ l ∧ ∀ s ∈ subscriptions, parent s ≠ key a)
  referred : ∀ s' ∈ subscriptions',
    (∃ s ∈ subscriptions, parent s = parent s') ∨ .shared (lock (parent s')) ∈ l

namespace ParentMoves

variable {α : Type} [Keyed α] {lock : ℕ → BillingRow} {owner : α → ℕ} {parent : Subscription → ℕ}
  {l m : List (Lock BillingRow)} {t t' : Table α} {subscriptions subscriptions' : Table Subscription}

/-- Nothing moves the parents. -/
theorem refl (t : Table α) (subscriptions : Table Subscription) :
    ParentMoves lock owner parent l t t subscriptions subscriptions where
  moved a ha := ⟨a, ha, rfl, fun hmoved => absurd rfl hmoved⟩
  referred s hs := Or.inl ⟨s, hs, rfl⟩

/-- No other transaction moves a row whose lock is shared or that a subscription refers to. -/
theorem held (h : ParentMoves lock owner parent l t t' subscriptions subscriptions')
    (hfree : Lock.Compatible l m) {n : ℕ}
    (hheld : .shared (lock n) ∈ m ∨ ∃ s ∈ subscriptions, parent s = n) {a : α} (ha : a ∈ t) :
    ∃ a' ∈ t', key a' = key a ∧ (n = key a → owner a' = owner a) := by
  obtain ⟨a', ha', hkey, hmoved⟩ := h.moved a ha
  refine ⟨a', ha', hkey, ?_⟩
  rintro rfl
  by_contra hne
  obtain ⟨hlock, hunused⟩ := hmoved hne
  rcases hheld with hshared | ⟨s, hs, hparent⟩
  · exact (hfree.1 _ hlock).2 hshared
  · exact hunused s hs hparent

/-- The check of a save that locks its row is not spoiled by another transaction. -/
theorem cleaned (h : ParentMoves lock owner parent l t t' subscriptions subscriptions')
    (hfree : Lock.Compatible l m) {pk : Option ℕ} {organization : ForeignKey}
    (hlock : ∀ n, pk = some n → .exclusive (lock n) ∈ m)
    (hclean : ParentCleaned t owner subscriptions parent pk organization) :
    ParentCleaned t' owner subscriptions' parent pk organization := by
  refine ⟨?_, ?_⟩
  · intro n hpk
    obtain ⟨a, ha, hkey⟩ := hclean.stored n hpk
    obtain ⟨a', ha', hkey', -⟩ := h.moved a ha
    exact ⟨a', ha', hkey'.trans hkey⟩
  · intro a' ha' hpk hcolumn s' hs' hparent
    have hother := hfree.2 _ (hlock _ hpk)
    obtain ⟨a, ha, hkey⟩ := hclean.stored _ hpk
    obtain ⟨b, hb, hba, hmoved⟩ := h.moved a ha
    obtain rfl := Table.eq_of_key_eq ha' hb (hkey.symm.trans hba.symm)
    have howner : owner a' = owner a := by
      by_contra hne
      rw [← hkey] at hother
      exact hother.1 (hmoved hne).1
    rcases h.referred s' hs' with ⟨s, hs, hsame⟩ | hshared
    · exact hclean.stays a ha (hpk.trans (congrArg some hkey.symm)) (howner ▸ hcolumn) s hs
        (hsame.trans (hparent.trans hkey.symm))
    · rw [hparent] at hshared
      exact hother.2 hshared

end ParentMoves

/-- What a transaction with the locks `l` does to the organizations. -/
structure Transacts (l : List (Lock BillingRow)) (db db' : Db) : Prop where
  plans : ParentMoves .plan Plan.organizationId Subscription.planId l db.plans db'.plans
    db.subscriptions db'.subscriptions
  customers : ParentMoves .customer Customer.organizationId Subscription.customerId l db.customers
    db'.customers db.subscriptions db'.subscriptions
  parents : ∀ s ∈ db.subscriptions, ∀ s' ∈ db'.subscriptions, s'.id = s.id →
    .exclusive (.subscription s.id) ∈ l ∨ (s'.customerId = s.customerId ∧ s'.planId = s.planId)
  subscriptions : db.subscriptions.Keeps Subscription.organizationId db'.subscriptions
  invoices : db.invoices.Keeps Invoice.organizationId db'.invoices
  lines : db.invoiceLines.Keeps InvoiceLine.organizationId db'.invoiceLines
  attempts : db.attempts.Keeps PaymentAttempt.organizationId db'.attempts

/-- Nothing is a transaction under any locks. -/
theorem Transacts.refl (l : List (Lock BillingRow)) (db : Db) : Transacts l db db where
  plans := .refl _ _
  customers := .refl _ _
  parents s hs s' hs' hid := by
    obtain rfl := Table.eq_of_key_eq hs' hs hid
    exact Or.inr ⟨rfl, rfl⟩
  subscriptions := .refl _
  invoices := .refl _
  lines := .refl _
  attempts := .refl _

/-! ## The saves -/

section

variable {db db' : Db} {l m : List (Lock BillingRow)} {save : Save}

/-- The save of a checked subscription is a transaction under its locks. -/
theorem SubscriptionInstance.write_transacts {s : SubscriptionInstance}
    {f : Option (List SubscriptionColumn)} (h : s.write db f = .ok db')
    (hchecked : (Save.subscription s f).Checked db l) : Transacts l db db' := by
  obtain ⟨subscriptions, hcustomer, hplan, rfl⟩ := write_eq_ok h
  obtain ⟨hclean, -, hheld⟩ := hchecked
  refine { Transacts.refl l db with
    plans := ⟨(ParentMoves.refl _ _).moved, ?_⟩
    customers := ⟨(ParentMoves.refl _ _).moved, ?_⟩
    parents := ?_
    subscriptions := hcustomer.keeps hclean }
  · intro s' hs'
    rcases hplan.parent_origin hs' with hold | hvalue
    · exact Or.inl hold
    · obtain ⟨n, hcolumn, hlock⟩ := hheld.plan
      have hvalue : s.plan.value = some s'.planId := hvalue
      rw [ForeignKey.value_eq hcolumn] at hvalue
      obtain rfl := Option.some.inj hvalue
      rcases hlock with hshared | ⟨row, hrow, -, hparent⟩
      · exact Or.inr hshared
      · exact Or.inl ⟨row, hrow, hparent⟩
  · intro s' hs'
    rcases hcustomer.parent_origin hs' with hold | hvalue
    · exact Or.inl hold
    · obtain ⟨n, hcolumn, hlock⟩ := hheld.customer
      have hvalue : s.customer.value = some s'.customerId := hvalue
      rw [ForeignKey.value_eq hcolumn] at hvalue
      obtain rfl := Option.some.inj hvalue
      rcases hlock with hshared | ⟨row, hrow, -, hparent⟩
      · exact Or.inr hshared
      · exact Or.inl ⟨row, hrow, hparent⟩
  · intro s₀ hs₀ s' hs' hid
    rcases hcustomer.version hs₀ hs' hid with rfl | hpk
    · exact Or.inr ⟨rfl, rfl⟩
    · exact Or.inl (hheld.own _ hpk)

/-- A save that has passed its checks does what its locks allow. -/
theorem Save.write_transacts (h : save.write db = .ok db') (hchecked : save.Checked db l) :
    Transacts l db db' := by
  cases save with
  | plan p f =>
    obtain ⟨plans, hsaved, rfl⟩ := PlanInstance.write_eq_ok h
    refine { Transacts.refl l db with plans := ⟨?_, (Transacts.refl l db).plans.referred⟩ }
    intro a ha
    obtain ⟨a', ha', hkey, hmoved⟩ := hsaved.moved hchecked.1 a ha
    exact ⟨a', ha', hkey, fun hne => ⟨hchecked.2 _ (hmoved hne).1, (hmoved hne).2⟩⟩
  | customer c f =>
    obtain ⟨customers, hsaved, rfl⟩ := CustomerInstance.write_eq_ok h
    refine { Transacts.refl l db with
      customers := ⟨?_, (Transacts.refl l db).customers.referred⟩ }
    intro a ha
    obtain ⟨a', ha', hkey, hmoved⟩ := hsaved.moved hchecked.1 a ha
    exact ⟨a', ha', hkey, fun hne => ⟨hchecked.2 _ (hmoved hne).1, (hmoved hne).2⟩⟩
  | subscription s f => exact SubscriptionInstance.write_transacts h hchecked
  | invoice i f =>
    obtain ⟨invoices, hsaved, rfl⟩ := InvoiceInstance.write_eq_ok h
    exact { Transacts.refl l db with invoices := hsaved.keeps hchecked }
  | line i f =>
    obtain ⟨lines, hsaved, rfl⟩ := LineInstance.write_eq_ok h
    exact { Transacts.refl l db with lines := hsaved.keeps hchecked }
  | attempt p f =>
    obtain ⟨attempts, hsaved, rfl⟩ := AttemptInstance.write_eq_ok h
    exact { Transacts.refl l db with attempts := hsaved.keeps hchecked }

/-- A row keeps its organization while a subscription refers to it. -/
theorem ParentMoves.belongs {α : Type} [Keyed α] {lock : ℕ → BillingRow} {owner : α → ℕ}
    {parent : Subscription → ℕ} {t t' : Table α}
    (h : ParentMoves lock owner parent l t t' db.subscriptions db.subscriptions)
    (hdb : Belongs parent Subscription.organizationId owner db.subscriptions t) :
    Belongs parent Subscription.organizationId owner db.subscriptions t' := by
  refine hdb.of_kept ?_
  intro s hs a ha hkey
  obtain ⟨a', ha', hkey', hmoved⟩ := h.moved a ha
  refine ⟨a', ha', hkey', ?_⟩
  by_contra hne
  exact (hmoved hne).2 s hs hkey.symm

/-- A save that has passed its checks keeps the rows in the organizations of their parents. -/
theorem Save.write_tenancy (h : save.write db = .ok db') (hchecked : save.Checked db l)
    (hdb : Tenancy db) : Tenancy db' := by
  have htransacts := save.write_transacts h hchecked
  cases save with
  | plan p f =>
    obtain ⟨plans, -, rfl⟩ := PlanInstance.write_eq_ok h
    exact { hdb with plan := htransacts.plans.belongs hdb.plan }
  | customer c f =>
    obtain ⟨customers, -, rfl⟩ := CustomerInstance.write_eq_ok h
    exact { hdb with customer := htransacts.customers.belongs hdb.customer }
  | subscription s f =>
    obtain ⟨subscriptions, hcustomer, hplan, rfl⟩ := SubscriptionInstance.write_eq_ok h
    exact { hdb with
      customer := hcustomer.belongs hchecked.1 hdb.customer
      plan := hplan.belongs hchecked.2.1 hdb.plan
      subscription := hdb.subscription.of_keeps htransacts.subscriptions }
  | invoice i f =>
    obtain ⟨invoices, hsaved, rfl⟩ := InvoiceInstance.write_eq_ok h
    exact { hdb with
      subscription := hsaved.belongs hchecked hdb.subscription
      line := hdb.line.of_keeps htransacts.invoices
      attempt := hdb.attempt.of_keeps htransacts.invoices }
  | line i f =>
    obtain ⟨lines, hsaved, rfl⟩ := LineInstance.write_eq_ok h
    exact { hdb with line := hsaved.belongs hchecked hdb.line }
  | attempt p f =>
    obtain ⟨attempts, hsaved, rfl⟩ := AttemptInstance.write_eq_ok h
    exact { hdb with attempt := hsaved.belongs hchecked hdb.attempt }

/-- The locks of a subscription hold its parents while other transactions run. -/
theorem SubscriptionInstance.ParentsHeld.stable {s : SubscriptionInstance}
    (h : s.ParentsHeld db m) (ht : Transacts l db db') (hfree : Lock.Compatible l m) :
    s.ParentsHeld db' m := by
  have hrow : ∀ row ∈ db.subscriptions, s.pk = some row.id → ∃ row' ∈ db'.subscriptions,
      s.pk = some row'.id ∧ row'.customerId = row.customerId ∧ row'.planId = row.planId := by
    intro row hrow hpk
    obtain ⟨row', hrow', hid, -⟩ := ht.subscriptions.kept row hrow
    have hid : row'.id = row.id := hid
    rcases ht.parents row hrow row' hrow' hid with hlock | ⟨hcustomer, hplan⟩
    · exact absurd hlock (hfree.2 _ (h.own _ hpk)).1
    · exact ⟨row', hrow', hpk.trans (congrArg some hid.symm), hcustomer, hplan⟩
  refine ⟨h.own, ?_, ?_⟩
  · obtain ⟨c, hcolumn, hheld⟩ := h.customer
    refine ⟨c, hcolumn, hheld.imp_right ?_⟩
    rintro ⟨row, hmem, hpk, rfl⟩
    obtain ⟨row', hrow', hpk', hcustomer, -⟩ := hrow row hmem hpk
    exact ⟨row', hrow', hpk', hcustomer⟩
  · obtain ⟨p, hcolumn, hheld⟩ := h.plan
    refine ⟨p, hcolumn, hheld.imp_right ?_⟩
    rintro ⟨row, hmem, hpk, rfl⟩
    obtain ⟨row', hrow', hpk', -, hplan⟩ := hrow row hmem hpk
    exact ⟨row', hrow', hpk', hplan⟩

/-- A transaction with compatible locks does not spoil the check of a save. -/
theorem Save.Checked.stable (h : save.Checked db m) (ht : Transacts l db db')
    (hfree : Lock.Compatible l m) : save.Checked db' m := by
  cases save with
  | plan p f => exact ⟨ht.plans.cleaned hfree h.2 h.1, h.2⟩
  | customer c f => exact ⟨ht.customers.cleaned hfree h.2 h.1, h.2⟩
  | subscription s f =>
    obtain ⟨hcustomer, hplan, hheld⟩ := h
    refine ⟨hcustomer.of_kept ht.subscriptions ?_, hplan.of_kept ht.subscriptions ?_,
      hheld.stable ht hfree⟩
    · intro b hb
      obtain ⟨c, hcolumn, hlock⟩ := hheld.customer
      obtain ⟨b', hb', hkey, hsame⟩ := ht.customers.held hfree (n := c)
        (hlock.imp_right fun ⟨row, hrow, _, hparent⟩ => ⟨row, hrow, hparent⟩) hb
      exact ⟨b', hb', hkey, fun hm => hsame (hm c hcolumn)⟩
    · intro b hb
      obtain ⟨p, hcolumn, hlock⟩ := hheld.plan
      obtain ⟨b', hb', hkey, hsame⟩ := ht.plans.held hfree (n := p)
        (hlock.imp_right fun ⟨row, hrow, _, hparent⟩ => ⟨row, hrow, hparent⟩) hb
      exact ⟨b', hb', hkey, fun hm => hsame (hm p hcolumn)⟩
  | invoice i f => exact RecordModel.Cleaned.of_keeps h ht.invoices ht.subscriptions
  | line i f => exact RecordModel.Cleaned.of_keeps h ht.lines ht.invoices
  | attempt p f => exact RecordModel.Cleaned.of_keeps h ht.attempts ht.invoices

end

/-! ## The services -/

/-- What a service does that creates no subscription. -/
structure Untouched (db db' : Db) : Prop where
  plans : db'.plans = db.plans
  customers : db'.customers = db.customers
  next : db'.subscriptions.next = db.subscriptions.next
  subscriptions : db.subscriptions.Keeps (fun s => (s.organizationId, s.customerId, s.planId))
    db'.subscriptions
  invoices : db.invoices.Keeps Invoice.organizationId db'.invoices
  lines : db.invoiceLines.Keeps InvoiceLine.organizationId db'.invoiceLines
  attempts : db.attempts.Keeps PaymentAttempt.organizationId db'.attempts

namespace Untouched

variable {db db' db'' : Db} {l : List (Lock BillingRow)}

/-- Nothing touches no parent. -/
theorem refl (db : Db) : Untouched db db :=
  ⟨rfl, rfl, rfl, .refl _, .refl _, .refl _, .refl _⟩

/-- What touches no parent twice touches none. -/
theorem trans (h : Untouched db db') (h' : Untouched db' db'') : Untouched db db'' where
  plans := h'.plans.trans h.plans
  customers := h'.customers.trans h.customers
  next := h'.next.trans h.next
  subscriptions := h.subscriptions.trans h'.subscriptions
  invoices := h.invoices.trans h'.invoices
  lines := h.lines.trans h'.lines
  attempts := h.attempts.trans h'.attempts

/-- Every subscription was there, with the same parents. -/
theorem origin (h : Untouched db db') {s' : Subscription} (hs' : s' ∈ db'.subscriptions) :
    ∃ s ∈ db.subscriptions, s.id = s'.id ∧ s'.customerId = s.customerId ∧
      s'.planId = s.planId := by
  obtain ⟨s, hs, hid, hsame⟩ := h.subscriptions.origin_of_lt hs' (h.next ▸ Table.key_lt hs')
  simp only [Prod.mk.injEq] at hsame
  exact ⟨s, hs, hid, hsame.2⟩

/-- What touches no parent keeps the organizations. -/
theorem organizations (h : Untouched db db') :
    db.subscriptions.Keeps Subscription.organizationId db'.subscriptions :=
  h.subscriptions.mono fun _ _ hsame => congrArg Prod.fst hsame

end Untouched

/-- A transaction goes on with what touches no parent. -/
theorem Transacts.trans_untouched {db db' db'' : Db} {l : List (Lock BillingRow)}
    (h : Transacts l db db') (h' : Untouched db' db'') : Transacts l db db'' where
  plans := by
    refine ⟨fun a ha => h'.plans ▸ h.plans.moved a ha, ?_⟩
    intro s'' hs''
    obtain ⟨s', hs', -, -, hplan⟩ := h'.origin hs''
    rw [hplan]
    exact h.plans.referred s' hs'
  customers := by
    refine ⟨fun a ha => h'.customers ▸ h.customers.moved a ha, ?_⟩
    intro s'' hs''
    obtain ⟨s', hs', -, hcustomer, -⟩ := h'.origin hs''
    rw [hcustomer]
    exact h.customers.referred s' hs'
  parents := by
    intro s hs s'' hs'' hid
    obtain ⟨s', hs', hid', hcustomer, hplan⟩ := h'.origin hs''
    rw [hcustomer, hplan]
    exact h.parents s hs s' hs' (hid'.trans hid)
  subscriptions := h.subscriptions.trans h'.organizations
  invoices := h.invoices.trans h'.invoices
  lines := h.lines.trans h'.lines
  attempts := h.attempts.trans h'.attempts

/-- A write of a lifecycle touches no parent. -/
theorem LifecycleWrite.untouched {db db' : Db} (h : LifecycleWrite db db') :
    Untouched db db' := by
  cases h with
  | subscriptionFields h =>
    obtain ⟨stored, hs, -, rfl⟩ := Subscription.save_eq_ok h
    exact { Untouched.refl db with next := rfl, subscriptions := .update hs rfl rfl }
  | subscriptionStatus h =>
    obtain ⟨row, hrow, -, -, -, rfl⟩ := Subscription.transitionTo_writes h
    exact { Untouched.refl db with next := rfl, subscriptions := .update hrow rfl rfl }
  | invoice h =>
    obtain ⟨s, -, -, rfl, -⟩ := Invoice.create_eq_ok h
    exact { Untouched.refl db with invoices := .insert _ _ }
  | invoiceStatus h =>
    obtain ⟨row, hrow, -, -, -, rfl⟩ := Invoice.transitionTo_writes h
    exact { Untouched.refl db with invoices := .update hrow rfl rfl }
  | line h =>
    obtain ⟨i, -, -, rfl⟩ := InvoiceLine.create_eq_ok h
    exact { Untouched.refl db with lines := .insert _ _ }
  | handOff tasks => exact { Untouched.refl db with }

/-- A write of a service touches no parent. -/
theorem ServiceWrite.untouched {db db' : Db} (h : ServiceWrite db db') : Untouched db db' := by
  cases h with
  | lifecycle h => exact h.untouched
  | attempt hid h =>
    obtain ⟨i, -, -, row, -, -, rfl, -⟩ := PaymentAttempt.create_eq_ok h
    exact { Untouched.refl db with attempts := .insert _ _ }
  | attemptFields hfields h =>
    obtain ⟨stored, hp, -, -, rfl⟩ := PaymentAttempt.save_eq_ok hfields h
    exact { Untouched.refl db with
      attempts := .update hp (PaymentAttempt.merge_sameSnapshot hfields stored _).organizationId
        rfl }

/-- A new subscription shares the locks of its parents. -/
theorem Subscription.create_transacts {db db' : Db} {s s' : Subscription}
    (h : Subscription.create db s = .ok (db', s')) :
    Transacts [.shared (.customer s.customerId), .shared (.plan s.planId)] db db' := by
  obtain ⟨customer, -, -, rfl, -⟩ := Subscription.create_eq_ok h
  refine { Transacts.refl [.shared (.customer s.customerId), .shared (.plan s.planId)] db with
    plans := ⟨(ParentMoves.refl _ _).moved, ?_⟩
    customers := ⟨(ParentMoves.refl _ _).moved, ?_⟩
    parents := ?_
    subscriptions := .insert _ _ }
  · intro s' hs'
    rcases Table.mem_insert.mp hs' with hs' | rfl
    · exact Or.inl ⟨s', hs', rfl⟩
    · exact Or.inr (List.mem_cons_of_mem _ List.mem_cons_self)
  · intro s' hs'
    rcases Table.mem_insert.mp hs' with hs' | rfl
    · exact Or.inl ⟨s', hs', rfl⟩
    · exact Or.inr List.mem_cons_self
  · intro s₀ hs₀ s' hs' hid
    rcases Table.mem_insert.mp hs' with hs' | rfl
    · obtain rfl := Table.eq_of_key_eq hs' hs₀ hid
      exact Or.inr ⟨rfl, rfl⟩
    · exact absurd hid (Nat.ne_of_gt (Table.key_lt hs₀))

/-- The rows a service locks that the saves lock too, as far as they matter here. -/
def Operation.locks : Operation → List (Lock BillingRow)
  | .create customerId planId _ _ => [.shared (.customer customerId), .shared (.plan planId)]
  | _ => []

/-- The transactions other than the saves of a plan and of a customer. -/
def Operation.isBilling : Operation → Bool
  | .savePlan .. | .saveCustomer .. => false
  | _ => true

/-- A billing operation is a transaction under its locks. -/
theorem Operation.transacts {env : Env} {db db' : Db} {op : Operation}
    (h : op.apply env db = .ok db') (hop : op.isBilling = true) :
    Transacts op.locks db db' := by
  have hservice : op.isService = true → Untouched db db' := fun hservice =>
    Operation.service_relation (R := Untouched) (fun _ _ _ => Untouched.trans)
      (fun db _ _ => { Untouched.refl db with }) (fun _ _ => ServiceWrite.untouched) h hservice
  cases op with
  | savePlan => cases hop
  | saveCustomer => cases hop
  | create customerId planId now issuedAt =>
    obtain ⟨⟨db₂, s⟩, hrun, rfl⟩ := map_eq_ok_iff.mp h
    obtain ⟨s₀, db₁, s₁, rfl, rfl, hcreate, hrest⟩ := SubscriptionService.create_writes hrun
    exact (Subscription.create_transacts hcreate).trans_untouched
      (hrest.relation Untouched.refl (fun _ _ _ => Untouched.trans)
        fun _ _ => LifecycleWrite.untouched)
  | _ => exact (Transacts.refl _ _).trans_untouched (hservice rfl)

/-! ## Webhook events -/

/-- An event has no organization, or the one of the attempt its payload names.  `lookupKey` is the
key a lookup by a JSON value asks for. -/
def EventsOwned (lookupKey : Json → Option ℕ) (db : Db) : Prop :=
  ∀ e ∈ db.webhookEvents, ∀ o, e.organizationId = some o → ∃ fields, e.payload = .obj fields ∧
    ∃ p ∈ db.attempts, lookupKey (Json.get fields "payment_attempt_id" .null) = some p.id ∧
      p.organizationId = o

section

variable {lookupKey : Json → Option ℕ} {env : Env} {db db' : Db}

/-- The events keep their organizations if the attempts do. -/
theorem EventsOwned.of_keeps (h : EventsOwned lookupKey db)
    (hevents : db'.webhookEvents = db.webhookEvents)
    (hattempts : db.attempts.Keeps PaymentAttempt.organizationId db'.attempts) :
    EventsOwned lookupKey db' := by
  intro e he o ho
  rw [hevents] at he
  obtain ⟨fields, hpayload, p, hp, hkey, horg⟩ := h e he o ho
  obtain ⟨p', hp', hid, hsame⟩ := hattempts.kept p hp
  have hid : p'.id = p.id := hid
  exact ⟨fields, hpayload, p', hp', hid ▸ hkey, hsame.trans horg⟩

/-- The lookup by a positive integer asks for the row with that key. -/
theorem lookupKey_named (hlookup : ∀ n : ℕ, 0 < n → lookupKey (.int n) = some n)
    {payload : List (String × Json)} {p : PaymentAttempt} (h : namedAttempt db payload = some p) :
    p ∈ db.attempts ∧ lookupKey (Json.get payload "payment_attempt_id" .null) = some p.id := by
  unfold namedAttempt at h
  split at h
  · rename_i n hn
    obtain ⟨hp, hkey⟩ := Table.get?_eq_some_iff.mp h
    have hpos : 0 < key p := db.attempts.key_pos p hp
    have hid : (n : ℤ) = (p.id : ℕ) := by
      simp only [key_attempt] at hkey hpos
      omega
    refine ⟨hp, ?_⟩
    rw [hn, hid]
    exact hlookup _ hpos
  · cases h

/-- A billing operation keeps the organizations of the events. -/
theorem Operation.eventsOwned (hlookup : ∀ n : ℕ, 0 < n → lookupKey (.int n) = some n)
    {op : Operation} (h : op.apply env db = .ok db') (hop : op.isBilling = true)
    (hdb : EventsOwned lookupKey db) : EventsOwned lookupKey db' := by
  have hattempts := (op.transacts h hop).attempts
  by_cases hwebhook : op.isWebhook = false
  · exact hdb.of_keeps (op.events_eq h hwebhook) hattempts
  cases op with
  | webhook eventType payload provider providerEventId now =>
    simp only [Operation.apply, handleWebhook_eq, bind_eq_ok_iff] at h
    obtain ⟨event, -, h⟩ := h
    split_ifs at h
    · exact pure_eq_ok_iff.mp h ▸ hdb
    rcases recordWebhook_events h with ⟨-, rfl⟩ | ⟨-, hevents⟩
    · exact hdb
    intro e he o ho
    rw [hevents] at he
    rcases Table.mem_insert.mp he with hold | rfl
    · have hold' : EventsOwned lookupKey { db' with webhookEvents := db.webhookEvents } :=
        hdb.of_keeps rfl hattempts
      exact hold' e hold o ho
    · obtain ⟨p, hnamed, horg⟩ := Option.map_eq_some_iff.mp ho
      obtain ⟨hp, hkey⟩ := lookupKey_named hlookup hnamed
      obtain ⟨p', hp', hid, hsame⟩ := hattempts.kept p hp
      have hid : p'.id = p.id := hid
      exact ⟨event.payload, rfl, p', hp', hid ▸ hkey, hsame.trans horg⟩
  | _ => exact absurd rfl hwebhook

/-- A save leaves the webhook events. -/
theorem Save.write_events {save : Save} (h : save.write db = .ok db') :
    db'.webhookEvents = db.webhookEvents := by
  cases save with
  | plan =>
    obtain ⟨plans, -, rfl⟩ := PlanInstance.write_eq_ok h
    rfl
  | customer =>
    obtain ⟨customers, -, rfl⟩ := CustomerInstance.write_eq_ok h
    rfl
  | subscription =>
    obtain ⟨subscriptions, -, -, rfl⟩ := SubscriptionInstance.write_eq_ok h
    rfl
  | invoice =>
    obtain ⟨invoices, -, rfl⟩ := InvoiceInstance.write_eq_ok h
    rfl
  | line =>
    obtain ⟨lines, -, rfl⟩ := LineInstance.write_eq_ok h
    rfl
  | attempt =>
    obtain ⟨attempts, -, rfl⟩ := AttemptInstance.write_eq_ok h
    rfl

end

/-! ## Interleavings -/

/-- The saves that are allowed in a state, interleaved with the services. -/
def transactions (env : Env) (allowed : Db → Save → Prop) : LockSystem Db Save BillingRow where
  checks db p := ∃ save : Save, save.Present db ∧ allowed db save ∧
    save.checks db = .ok p.transaction ∧ p.locks = save.locks db
  writes save db db' := save.write db = .ok db'
  whole locks db db' := ∃ op : Operation, op.isBilling = true ∧ op.apply env db = .ok db' ∧
    locks = op.locks

/-- The saves that move no record whose parent is missing in memory keep every row in the
organization of its parents, whatever runs between their checks and their writes. -/
theorem transactions_guarded {env : Env} {lookupKey : Json → Option ℕ}
    (hlookup : ∀ n : ℕ, 0 < n → lookupKey (.int n) = some n) :
    (transactions env fun db save => save.Unmoved db).Guarded
      (fun db => Tenancy db ∧ EventsOwned lookupKey db)
      (fun db p => p.transaction.Checked db p.locks) where
  checked := by
    rintro db p - ⟨save, hpresent, hunmoved, hchecks, hlocks⟩
    rw [hlocks]
    exact Save.checked_of_checks hchecks hpresent hunmoved
  write := by
    rintro db db' p ⟨htenancy, hevents⟩ hchecked hwrite
    exact ⟨Save.write_tenancy hwrite hchecked htenancy, hevents.of_keeps (Save.write_events hwrite)
      (Save.write_transacts hwrite hchecked).attempts⟩
  whole := by
    rintro db db' locks ⟨htenancy, hevents⟩ ⟨op, hop, happly, -⟩
    refine ⟨?_, op.eventsOwned hlookup happly hop hevents⟩
    exact Reaches.tenancy (.single ⟨op, happly⟩) htenancy
  stable_write := by
    rintro db db' p q - hchecked hwrite hfree hother
    exact hother.stable (Save.write_transacts hwrite hchecked) hfree
  stable_whole := by
    rintro db db' locks q - ⟨op, hop, happly, rfl⟩ hfree hother
    exact hother.stable (op.transacts happly hop) hfree

/-- Among the saves that commit, these are the ones that keep every row in the organization of its
parents and move no record. -/
theorem Save.unmoved_iff {db db' : Db} {save : Save} (h : save.apply db = .ok db')
    (hpresent : save.Present db) (hdb : Tenancy db) :
    save.Unmoved db ↔ Tenancy db' ∧ db.invoices.Keeps Invoice.organizationId db'.invoices ∧
      db.invoiceLines.Keeps InvoiceLine.organizationId db'.invoiceLines ∧
      db.attempts.Keeps PaymentAttempt.organizationId db'.attempts := by
  rw [Save.apply_eq, bind_eq_ok_iff] at h
  obtain ⟨save', hchecks, hwrite⟩ := h
  constructor
  · intro hunmoved
    have hchecked := Save.checked_of_checks hchecks hpresent hunmoved
    have htransacts := Save.write_transacts hwrite hchecked
    exact ⟨Save.write_tenancy hwrite hchecked hdb, htransacts.invoices, htransacts.lines,
      htransacts.attempts⟩
  · rintro ⟨htenancy, hinvoices, hlines, hattempts⟩
    cases save with
    | invoice i f =>
      intro hcolumn
      have hsame : save' = .invoice i f := by
        have hcolumn : i.subscription.column = none := hcolumn
        simp only [Save.checks, InvoiceInstance.clean, hcolumn] at hchecks
        exact (Except.ok.inj hchecks).symm
      subst hsame
      obtain ⟨invoices, hsaved, rfl⟩ := InvoiceInstance.write_eq_ok hwrite
      exact hsaved.unmoved hinvoices htenancy.subscription hcolumn
    | line l f =>
      intro hcolumn
      have hsame : save' = .line l f := by
        have hcolumn : l.invoice.column = none := hcolumn
        simp only [Save.checks, LineInstance.clean, hcolumn] at hchecks
        exact (Except.ok.inj hchecks).symm
      subst hsame
      obtain ⟨lines, hsaved, rfl⟩ := LineInstance.write_eq_ok hwrite
      exact hsaved.unmoved hlines htenancy.line hcolumn
    | attempt p f =>
      intro hcolumn
      have hsame : save' =
          .attempt { p with idempotencyKey := normalizeKey p.idempotencyKey } f := by
        have hcolumn : p.invoice.column = none := hcolumn
        simp only [Save.checks, AttemptInstance.clean, hcolumn] at hchecks
        exact (Except.ok.inj hchecks).symm
      subst hsame
      obtain ⟨attempts, hsaved, rfl⟩ := AttemptInstance.write_eq_ok hwrite
      exact hsaved.unmoved hattempts htenancy.attempt hcolumn
    | _ => trivial

end Chargeflow
