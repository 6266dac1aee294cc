import Chargeflow.Application.Dunning

/-!
# What a save writes

For each `clean`, `create` and `save` of the models: what its checks guarantee, and the database it
leaves behind when it succeeds.
-/

namespace Chargeflow

open Foundation

/-- A plan is saved into the table of plans and nowhere else. -/
theorem Plan.save_eq_ok {db db' : Db} {p : Plan} (h : p.save db = .ok db') :
    ∃ plans, db' = { db with plans := plans } := by
  simp only [Plan.save, bind_eq_ok_iff, pure_eq_ok_iff] at h
  obtain ⟨-, -, -, -, -, -, -, -, h⟩ := h
  cases hget : db.plans.get? p.id with
  | none => exact ⟨_, by rw [← h, hget]⟩
  | some q => exact ⟨_, by rw [← h, hget]⟩

/-- A customer is saved into the table of customers and nowhere else. -/
theorem Customer.save_eq_ok {db db' : Db} {c : Customer} (h : c.save db = .ok db') :
    ∃ customers, db' = { db with customers := customers } := by
  simp only [Customer.save, bind_eq_ok_iff, pure_eq_ok_iff] at h
  obtain ⟨-, -, -, -, -, -, h⟩ := h
  cases hget : db.customers.get? c.id with
  | none => exact ⟨_, by rw [← h, hget]⟩
  | some q => exact ⟨_, by rw [← h, hget]⟩

/-! ## Subscriptions -/

/-- A clean subscription belongs to the organization of its customer and of its plan. -/
theorem Subscription.clean_eq_ok {db : Db} {organization : Option ℕ} {s s' : Subscription}
    (h : Subscription.clean db organization s = .ok s') :
    ∃ customer ∈ db.customers, ∃ plan ∈ db.plans, customer.id = s.customerId ∧
      plan.id = s.planId ∧ plan.organizationId = customer.organizationId ∧
      (∀ o ∈ organization, o = customer.organizationId) ∧
      s' = { s with organizationId := customer.organizationId } := by
  simp only [Subscription.clean, checkOrganization, bind_eq_ok_iff, pure_eq_ok_iff,
    fetch_eq_ok_iff, ensure_eq_ok_iff, beq_iff_eq] at h
  obtain ⟨customer, ⟨hc, hcid⟩, plan, ⟨hp, hpid⟩, -, horg, -, hown, -, -, rfl⟩ := h
  refine ⟨customer, hc, plan, hp, hcid, hpid, horg, ?_, rfl⟩
  intro o ho
  rw [Option.mem_def.mp ho] at hown
  simpa using hown

/-- A new subscription takes the organization of its customer. -/
theorem Subscription.create_eq_ok {db db' : Db} {s s' : Subscription}
    (h : Subscription.create db s = .ok (db', s')) :
    ∃ customer ∈ db.customers, customer.id = s.customerId ∧
      db' = { db with subscriptions :=
        db.subscriptions.insert { s with organizationId := customer.organizationId } } ∧
      s' = withKey db.subscriptions.next { s with organizationId := customer.organizationId } := by
  simp only [Subscription.create, bind_eq_ok_iff, pure_eq_ok_iff, Prod.mk.injEq] at h
  obtain ⟨-, -, s₁, hclean, rfl, rfl⟩ := h
  obtain ⟨customer, hc, -, -, hid, -, -, -, rfl⟩ := Subscription.clean_eq_ok hclean
  exact ⟨customer, hc, hid, rfl, rfl⟩

/-- A save of a stored subscription writes the named columns of its row. -/
theorem Subscription.save_eq_ok {db db' : Db} {fields : List SubscriptionField} {s : Subscription}
    (h : Subscription.save db fields s = .ok db') :
    ∃ stored ∈ db.subscriptions, stored.id = s.id ∧
      db' = { db with subscriptions := db.subscriptions.update (stored.merge fields s) } := by
  simp only [Subscription.save, bind_eq_ok_iff, fetch_eq_ok_iff] at h
  obtain ⟨stored, ⟨hs, hid⟩, h⟩ := h
  refine ⟨stored, hs, hid, ?_⟩
  have hclean : ∃ s', Subscription.clean db (some s.organizationId) s = .ok s' ∧
      { db with subscriptions := db.subscriptions.update (stored.merge fields s') } = db' := by
    split_ifs at h
    · obtain ⟨-, -, h⟩ := bind_eq_ok_iff.mp h
      simpa only [bind_eq_ok_iff, pure_eq_ok_iff] using h
    · simpa only [bind_eq_ok_iff, pure_eq_ok_iff] using h
  obtain ⟨s', hclean, rfl⟩ := hclean
  obtain ⟨-, -, -, -, -, -, -, -, rfl⟩ := Subscription.clean_eq_ok hclean
  rfl

/-! ## Invoices -/

/-- A clean invoice belongs to the organization of its subscription. -/
theorem Invoice.clean_eq_ok {db : Db} {organization : Option ℕ} {i i' : Invoice}
    (h : Invoice.clean db organization i = .ok i') :
    ∃ s ∈ db.subscriptions, s.id = i.subscriptionId ∧
      i' = { i with organizationId := s.organizationId } := by
  simp only [Invoice.clean, bind_eq_ok_iff, pure_eq_ok_iff, fetch_eq_ok_iff] at h
  obtain ⟨s, ⟨hs, hid⟩, -, -, -, -, rfl⟩ := h
  exact ⟨s, hs, hid, rfl⟩

/-- A new invoice takes the organization of its subscription. -/
theorem Invoice.create_eq_ok {db db' : Db} {i i' : Invoice}
    (h : Invoice.create db i = .ok (db', i')) :
    ∃ s ∈ db.subscriptions, s.id = i.subscriptionId ∧
      db' = { db with invoices :=
        db.invoices.insert { i with organizationId := s.organizationId } } ∧
      i' = withKey db.invoices.next { i with organizationId := s.organizationId } := by
  simp only [Invoice.create, bind_eq_ok_iff, pure_eq_ok_iff, Prod.mk.injEq] at h
  obtain ⟨i₁, hclean, -, -, rfl, rfl⟩ := h
  obtain ⟨s, hs, hid, rfl⟩ := Invoice.clean_eq_ok hclean
  exact ⟨s, hs, hid, rfl, rfl⟩

/-- A new line goes into the table of lines and nowhere else. -/
theorem InvoiceLine.create_eq_ok {db db' : Db} {l : InvoiceLine}
    (h : InvoiceLine.create db l = .ok db') :
    ∃ i ∈ db.invoices, i.id = l.invoiceId ∧
      db' = { db with invoiceLines :=
        db.invoiceLines.insert { l with organizationId := i.organizationId } } := by
  simp only [InvoiceLine.create, bind_eq_ok_iff, pure_eq_ok_iff, fetch_eq_ok_iff] at h
  obtain ⟨i, ⟨hi, hid⟩, -, -, rfl⟩ := h
  exact ⟨i, hi, hid, rfl⟩

/-! ## Payment attempts -/

/-- The unique constraints of the payment attempt table, for a row and the other rows. -/
structure PaymentAttempt.Unique (attempts : Table PaymentAttempt) (p : PaymentAttempt) : Prop where
  clientKey : ∀ q ∈ attempts, q.id ≠ p.id → q.organizationId = p.organizationId →
    ∀ k, p.idempotencyKey = some k → q.idempotencyKey ≠ some k
  success : ∀ q ∈ attempts, q.id ≠ p.id → p.status = .success → q.invoiceId = p.invoiceId →
    q.status ≠ .success
  providerKey : ∀ q ∈ attempts, q.id ≠ p.id → q.provider = p.provider →
    q.providerIdempotencyKey ≠ p.providerIdempotencyKey
  charge : ∀ q ∈ attempts, q.id ≠ p.id → q.provider = p.provider → p.providerChargeId ≠ "" →
    q.providerChargeId ≠ p.providerChargeId

/-- The database accepts a row that satisfies the unique constraints, and no other. -/
theorem PaymentAttempt.checkConstraints_eq_ok_iff {db : Db} {p : PaymentAttempt} {u : Unit} :
    PaymentAttempt.checkConstraints db p = .ok u ↔ PaymentAttempt.Unique db.attempts p := by
  simp only [PaymentAttempt.checkConstraints, bind_eq_ok_iff, ensure_eq_ok_iff, exists_const,
    Bool.not_eq_true', List.any_eq_false, Table.mem_filter, bne_iff_ne, Bool.and_eq_true,
    beq_iff_eq, not_and, and_imp, ne_eq]
  constructor
  · rintro ⟨hclient, hsuccess, hprovider, hcharge⟩
    refine ⟨?_, hsuccess, hprovider, ?_⟩
    · intro q hq hne horg k hk hqk
      exact hclient q hq hne (by simp [hk]) horg (hqk.trans hk.symm)
    · intro q hq hne hprov hid
      exact hcharge q hq hne hid hprov
  · rintro ⟨hclient, hsuccess, hprovider, hcharge⟩
    refine ⟨?_, hsuccess, hprovider, ?_⟩
    · intro q hq hne hsome horg hqk
      obtain ⟨k, hk⟩ := Option.isSome_iff_exists.mp hsome
      exact hclient q hq hne horg k hk (hqk.trans hk)
    · intro q hq hne hid hprov
      exact hcharge q hq hne hprov hid

/-- A clean attempt belongs to the organization of its invoice. -/
theorem PaymentAttempt.clean_eq_ok {db : Db} {organization : Option ℕ} {p p' : PaymentAttempt}
    (h : PaymentAttempt.clean db organization p = .ok p') :
    ∃ i ∈ db.invoices, i.id = p.invoiceId ∧ p' = { p with organizationId := i.organizationId } := by
  simp only [PaymentAttempt.clean, bind_eq_ok_iff, pure_eq_ok_iff, fetch_eq_ok_iff] at h
  obtain ⟨i, ⟨hi, hid⟩, -, -, -, -, rfl⟩ := h
  exact ⟨i, hi, hid, rfl⟩

/-- A new attempt takes the organization of its invoice, and satisfies the unique constraints. -/
theorem PaymentAttempt.create_eq_ok {db db' : Db} {p p' : PaymentAttempt}
    (h : PaymentAttempt.create db p = .ok (db', p')) :
    ∃ i ∈ db.invoices, i.id = p.invoiceId ∧
      ∃ row, row = { p with
          idempotencyKey := normalizeKey p.idempotencyKey
          organizationId := i.organizationId } ∧
        PaymentAttempt.Unique db.attempts row ∧
        db' = { db with attempts := db.attempts.insert row } ∧
        p' = withKey db.attempts.next row := by
  simp only [PaymentAttempt.create, bind_eq_ok_iff, pure_eq_ok_iff, Prod.mk.injEq] at h
  obtain ⟨p₁, hclean, -, -, _, hunique, rfl, rfl⟩ := h
  obtain ⟨i, hi, hid, rfl⟩ := PaymentAttempt.clean_eq_ok hclean
  exact ⟨i, hi, hid, _, rfl, PaymentAttempt.checkConstraints_eq_ok_iff.mp hunique, rfl, rfl⟩

/-- A new attempt fits its columns. -/
theorem PaymentAttempt.create_lengths {db db' : Db} {p p' : PaymentAttempt}
    (h : PaymentAttempt.create db p = .ok (db', p')) : p'.checkLengths = .ok () := by
  simp only [PaymentAttempt.create, bind_eq_ok_iff, pure_eq_ok_iff, Prod.mk.injEq] at h
  obtain ⟨p₁, -, _, hlengths, -, -, -, rfl⟩ := h
  exact hlengths

/-- A saved attempt fits its columns. -/
theorem PaymentAttempt.save_lengths {db db' : Db} {fields : List PaymentField} {p : PaymentAttempt}
    (h : PaymentAttempt.save db fields p = .ok db') {q : PaymentAttempt} (hq : q ∈ db'.attempts) :
    q ∈ db.attempts ∨ q.checkLengths = .ok () := by
  simp only [PaymentAttempt.save, bind_eq_ok_iff, pure_eq_ok_iff] at h
  obtain ⟨p₁, -, stored, -, _, hlengths, -, -, rfl⟩ := h
  rcases Table.mem_update.mp hq with ⟨rfl, -⟩ | ⟨hq, -⟩
  · exact Or.inr hlengths
  · exact Or.inl hq

/-- The columns a settlement writes. -/
def settlementFields : List PaymentField :=
  [.status, .providerChargeId, .providerResponse, .needsReconciliation]

/-- A save limited to columns of a settlement does not depend on the other columns in memory. -/
theorem PaymentAttempt.merge_settlement {fields : List PaymentField}
    (hfields : ∀ f ∈ fields, f ∈ settlementFields) (stored p : PaymentAttempt)
    (organizationId : ℕ) (idempotencyKey : Option String) :
    stored.merge fields { p with
      idempotencyKey := idempotencyKey, organizationId := organizationId } =
      stored.merge fields p := by
  have horg : PaymentField.organization ∉ fields := fun h => by
    simpa [settlementFields] using hfields _ h
  have hkey : PaymentField.idempotencyKey ∉ fields := fun h => by
    simpa [settlementFields] using hfields _ h
  simp only [PaymentAttempt.merge, if_neg horg, if_neg hkey]

/-- A settlement leaves the other columns alone. -/
theorem PaymentAttempt.merge_sameSnapshot {fields : List PaymentField}
    (hfields : ∀ f ∈ fields, f ∈ settlementFields) (stored p : PaymentAttempt) :
    stored.SameSnapshot (stored.merge fields p) := by
  have hother : ∀ {f : PaymentField}, f ∉ settlementFields → f ∉ fields :=
    fun hf hmem => hf (hfields _ hmem)
  exact {
    id := rfl
    organizationId := if_neg (hother (by decide))
    invoiceId := if_neg (hother (by decide))
    amount := if_neg (hother (by decide))
    currency := if_neg (hother (by decide))
    provider := if_neg (hother (by decide))
    providerIdempotencyKey := if_neg (hother (by decide))
    providerCustomerId := if_neg (hother (by decide))
    providerPaymentMethodId := if_neg (hother (by decide))
    idempotencyKey := if_neg (hother (by decide))
    attemptedAt := rfl }

/-- A save in a settlement writes the named columns of the row, which then satisfies the unique
constraints. -/
theorem PaymentAttempt.save_eq_ok {db db' : Db} {fields : List PaymentField} {p : PaymentAttempt}
    (hfields : ∀ f ∈ fields, f ∈ settlementFields) (h : PaymentAttempt.save db fields p = .ok db') :
    ∃ stored ∈ db.attempts, stored.id = p.id ∧
      PaymentAttempt.Unique db.attempts (stored.merge fields p) ∧
      db' = { db with attempts := db.attempts.update (stored.merge fields p) } := by
  simp only [PaymentAttempt.save, bind_eq_ok_iff, pure_eq_ok_iff, fetch_eq_ok_iff] at h
  obtain ⟨p₁, hclean, stored, ⟨hs, hid⟩, -, -, _, hunique, rfl⟩ := h
  obtain ⟨i, -, -, rfl⟩ := PaymentAttempt.clean_eq_ok hclean
  rw [PaymentAttempt.checkConstraints_eq_ok_iff] at hunique
  rw [PaymentAttempt.merge_settlement hfields stored p] at hunique ⊢
  exact ⟨stored, hs, hid, hunique, rfl⟩

end Chargeflow
