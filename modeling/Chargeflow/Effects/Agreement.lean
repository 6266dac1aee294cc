import Chargeflow.Effects.Instances

/-!
# The saves inside the services

A service saves instances whose keys are those of their rows.  On these the saves of `Persistence`
are those of `Instances`.
-/

namespace Chargeflow

open Foundation

/-- The key of an instance, which has one once it is stored. -/
def storedKey (n : ℕ) : Option ℕ := if n = 0 then none else some n

/-- A key that is set in memory is the one that is written. -/
theorem ForeignKey.prepare_of (name : String) (n : ℕ) :
    (ForeignKey.of n).prepare name = .ok (some n) := rfl

section

variable {α γ : Type} [Keyed α] {t : Table α} {model : String} {newRow : Except Err α}
  {merge : (γ → Bool) → α → Except Err α} {check : α → Except Err Unit}

/-- No row has the key of an instance that is not stored. -/
theorem any_new {n : ℕ} (hn : n = 0) (p : α → Bool) :
    t.any (fun q => key q == n && p q) = false := by
  refine Table.any_eq_false.mpr ?_
  intro q hq
  have hpos : 0 < key q := t.key_pos q hq
  have hne : key q ≠ n := by omega
  simp [hne]

/-- A row that is not stored yet is checked and inserted. -/
theorem saveRow_newRow {row : α} (hrow : newRow = .ok row) :
    saveRow t model (.newRow : SaveTarget γ) newRow merge check =
      (check row >>= fun _ => .ok (t.insert row)) := by
  simp only [saveRow, hrow, ok_bind]
  rfl

/-- A row that is stored is merged, checked and updated. -/
theorem saveRow_storedRow {n : ℕ} {written : γ → Bool} {stored row : α} (hstored : stored ∈ t)
    (hkey : key stored = n) (hmerge : merge written stored = .ok row) :
    saveRow t model (.storedRow n written) newRow merge check =
      (check row >>= fun _ => .ok (t.update row)) := by
  simp only [saveRow, fetch_eq_ok_iff.mpr ⟨hstored, hkey⟩, ok_bind, hmerge]
  rfl

/-- A reference to a row that can be fetched passes its check. -/
theorem checkReference_of_fetch {column : String} {n : ℕ} {a : α}
    (h : fetch t model n = .ok a) : checkReference t column n = .ok () := by
  obtain ⟨ha, hkey⟩ := fetch_eq_ok_iff.mp h
  rw [checkReference, Table.get?_eq_some_iff.mpr ⟨ha, hkey⟩]
  rfl

end

/-! ## Plans and customers -/

section

variable {α γ : Type} [Keyed α] [DecidableEq γ] {t : Table α} {owner : α → ℕ}
  {subscriptions : Table Subscription} {parent : Subscription → ℕ} {row : α} {model : String}
  {newRow : Except Err α} {merge : (γ → Bool) → α → Except Err α} {check : α → Except Err Unit}

/-- `clean` of an instance with the keys of a row. -/
theorem cleanParent_of (h : key row = 0 ∨ ∃ q ∈ t, key q = key row) :
    cleanParent t owner subscriptions parent (storedKey (key row)) (.of (owner row)) =
      ensure (!(t.any (fun q => key q == key row && owner q != owner row) &&
        subscriptions.any (fun s => parent s == key row)))
        (.validationError "Cannot move a billing parent to another organization.") := by
  rcases h with h | ⟨q, hq, hkey⟩
  · have hrows : t.any (fun q => storedKey (key row) == some (key q) &&
        (ForeignKey.of (owner row)).column != some (owner q)) = false := by
      rw [storedKey, if_pos h]
      exact Table.any_eq_false.mpr fun _ _ => rfl
    rw [cleanParent, hrows, any_new h, Bool.false_and, Bool.false_and]
  · have hpos : 0 < key q := t.key_pos q hq
    have hne : key row ≠ 0 := by omega
    have hrows : (fun q => storedKey (key row) == some (key q) &&
        (ForeignKey.of (owner row)).column != some (owner q)) =
        fun q => key q == key row && owner q != owner row := by
      funext q
      rw [storedKey, if_neg hne, Bool.eq_iff_iff]
      simp only [ForeignKey.of, Bool.and_eq_true, beq_iff_eq, Option.some.injEq, bne_iff_ne, ne_eq,
        eq_comm (a := key row), eq_comm (a := owner row)]
    have hparents : (fun s => storedKey (key row) == some (parent s)) =
        fun s => parent s == key row := by
      funext s
      rw [storedKey, if_neg hne, Bool.eq_iff_iff]
      simp only [beq_iff_eq, Option.some.injEq, eq_comm (a := key row)]
    rw [cleanParent, hrows, hparents]

/-- A save of all columns of an instance with the keys of a row inserts or replaces the row. -/
theorem saveRow_of {β : Type} (k : Table α → Except Err β)
    (h : key row = 0 ∨ ∃ q ∈ t, key q = key row) (hnew : key row = 0 → newRow = .ok row)
    (hmerge : ∀ stored, key stored = key row → merge (fun _ => true) stored = .ok row) :
    (saveTarget (storedKey (key row)) none >>= fun target =>
      saveRow t model target newRow merge check >>= k) = (check row >>= fun _ =>
        k (match t.get? (key row) with
          | some _ => t.update row
          | none => t.insert row)) := by
  rcases h with h | ⟨q, hq, hkey⟩
  · have hget : t.get? (key row) = none := by
      cases hget : t.get? (key row) with
      | none => rfl
      | some q =>
        obtain ⟨hq, hkey⟩ := Table.get?_eq_some_iff.mp hget
        have hpos : 0 < key q := t.key_pos q hq
        omega
    rw [storedKey, if_pos h, hget]
    change saveRow t model .newRow newRow merge check >>= k = _
    rw [saveRow_newRow (hnew h), bind_assoc]
    rfl
  · have hpos : 0 < key q := t.key_pos q hq
    have hne : key row ≠ 0 := by omega
    rw [storedKey, if_neg hne, Table.get?_eq_some_iff.mpr ⟨hq, hkey⟩]
    change saveRow t model (.storedRow (key row) fun _ => true) newRow merge check >>= k = _
    rw [saveRow_storedRow hq hkey (hmerge q hkey), bind_assoc]
    rfl

end

/-- A plan as an instance. -/
def Plan.inMemory (p : Plan) : PlanInstance :=
  ⟨storedKey p.id, .of p.organizationId, p.name, p.price, p.currency, p.status, p.interval,
    p.trialPeriodDays⟩

/-- The save of a plan is that of an instance with the row's values. -/
theorem Plan.save_eq_inMemory {db : Db} {p : Plan} (h : p.id = 0 ∨ ∃ q ∈ db.plans, q.id = p.id) :
    p.save db = p.inMemory.save db none := by
  have hnew : key p = 0 → p.inMemory.newRow (some p.organizationId) = .ok p := by
    intro hid
    have hid : p.id = 0 := hid
    have hrow : ({ p with id := 0 } : Plan) = p := by rw [← hid]
    exact congrArg Except.ok hrow
  have hmerge : ∀ stored, key stored = key p →
      p.inMemory.merge (some p.organizationId) (fun _ => true) stored = .ok p := by
    intro stored hid
    have hid : stored.id = p.id := hid
    have hrow : ({ p with id := stored.id } : Plan) = p := by rw [hid]
    exact congrArg Except.ok hrow
  have hclean : p.inMemory.clean db = _ := cleanParent_of h
  have horganization : p.inMemory.organization.prepare "organization" =
      .ok (some p.organizationId) := rfl
  unfold Plan.save PlanInstance.save PlanInstance.write
  simp only [hclean, horganization, ok_bind]
  rw [show p.inMemory.pk = storedKey (key p) from rfl, saveRow_of _ h hnew hmerge]
  cases db.plans.get? p.id <;> simp only [key, bind_assoc]

/-- A customer as an instance. -/
def Customer.inMemory (c : Customer) : CustomerInstance :=
  ⟨storedKey c.id, .of c.organizationId, c.providerCustomerId, c.providerPaymentMethodId⟩

/-- The save of a customer is that of an instance with the row's values. -/
theorem Customer.save_eq_inMemory {db : Db} {c : Customer}
    (h : c.id = 0 ∨ ∃ q ∈ db.customers, q.id = c.id) : c.save db = c.inMemory.save db none := by
  have hnew : key c = 0 → c.inMemory.newRow (some c.organizationId) = .ok c := by
    intro hid
    have hid : c.id = 0 := hid
    have hrow : ({ c with id := 0 } : Customer) = c := by rw [← hid]
    exact congrArg Except.ok hrow
  have hmerge : ∀ stored, key stored = key c →
      c.inMemory.merge (some c.organizationId) (fun _ => true) stored = .ok c := by
    intro stored hid
    have hid : stored.id = c.id := hid
    have hrow : ({ c with id := stored.id } : Customer) = c := by rw [hid]
    exact congrArg Except.ok hrow
  have hclean : c.inMemory.clean db = _ := cleanParent_of h
  have horganization : c.inMemory.organization.prepare "organization" =
      .ok (some c.organizationId) := rfl
  unfold Customer.save CustomerInstance.save CustomerInstance.write
  simp only [hclean, horganization, ok_bind]
  rw [show c.inMemory.pk = storedKey (key c) from rfl, saveRow_of _ h hnew hmerge]
  cases db.customers.get? c.id <;> simp only [key, bind_assoc]

/-! ## Subscriptions -/

/-- The end of `clean` of a new record. -/
theorem cleanRecord_new {α : Type} [Keyed α] (t : Table α) (owner : α → ℕ) (o : ℕ) :
    cleanRecord t owner none ⟨none, none⟩ o = .ok (.of o) := by
  have hrows : t.any (fun q => none == some (key q) && owner q != o) = false :=
    Table.any_eq_false.mpr fun _ _ => rfl
  rw [cleanRecord, hrows]
  rfl

/-- A new subscription takes its organization from its customer, which has to be that of its
plan. -/
theorem Subscription.clean_new {db : Db} {s : Subscription} {customer : Customer} {plan : Plan}
    (h : s.id = 0) (hc : fetch db.customers "Customer" s.customerId = .ok customer)
    (hp : fetch db.plans "Plan" s.planId = .ok plan) :
    Subscription.clean db none s = (ensure (plan.organizationId == customer.organizationId)
      (.validationError "Customer and plan must belong to the same organization.") >>=
      fun _ => .ok { s with organizationId := customer.organizationId }) := by
  have hfree : db.subscriptions.any (fun q =>
      q.id == s.id && q.organizationId != customer.organizationId) = false := any_new h _
  simp only [Subscription.clean, hc, hp, hfree, ok_bind]
  rfl

/-- A subscription as an instance. -/
def Subscription.inMemory (s : Subscription) : SubscriptionInstance :=
  ⟨storedKey s.id, .of s.organizationId, .of s.customerId, .of s.planId, s.status,
    s.currentPeriodStart, s.currentPeriodEnd, s.canceledAt, s.canceledReason⟩

/-- A new subscription whose parents exist is written under the next key. -/
theorem Subscription.write_new {db : Db} {s : Subscription} {customer : Customer} {plan : Plan}
    (h : s.id = 0) (hc : fetch db.customers "Customer" s.customerId = .ok customer)
    (hp : fetch db.plans "Plan" s.planId = .ok plan) (o : ℕ) :
    SubscriptionInstance.write db none
        ⟨none, .of o, .of s.customerId, .of s.planId, s.status, s.currentPeriodStart,
          s.currentPeriodEnd, s.canceledAt, s.canceledReason⟩ =
      .ok { db with
        subscriptions := db.subscriptions.insert { s with organizationId := o } } := by
  have hrow : SubscriptionInstance.newRow ⟨none, .of o, .of s.customerId, .of s.planId, s.status,
      s.currentPeriodStart, s.currentPeriodEnd, s.canceledAt, s.canceledReason⟩ (some o)
      (some s.customerId) (some s.planId) = .ok { s with organizationId := o } := by
    have hnew : ({ s with id := 0, organizationId := o } : Subscription) =
        { s with organizationId := o } := by rw [← h]
    exact congrArg Except.ok hnew
  simp only [SubscriptionInstance.write, ForeignKey.prepare_of, saveTarget, ok_bind]
  rw [saveRow_newRow hrow, checkReference_of_fetch hc, checkReference_of_fetch hp]
  rfl

/-- The creation of a subscription is the save of a new instance. -/
theorem Subscription.create_eq_inMemory {db : Db} {s : Subscription} (h : s.id = 0) :
    (Subscription.create db s).map Prod.fst =
      SubscriptionInstance.save db none { s.inMemory with organization := ⟨none, none⟩ } := by
  have hpk : s.inMemory.pk = none := if_pos h
  unfold SubscriptionInstance.save
  rw [if_pos (by
    simp [SubscriptionInstance.KeepsParents, SubscriptionInstance.persistedParents, hpk])]
  unfold Subscription.create Subscription.lockParents SubscriptionInstance.lockParents
  cases hc : fetch db.customers "Customer" s.customerId with
  | error e =>
    simp only [Subscription.inMemory, ForeignKey.of, hc]
    rfl
  | ok customer =>
    cases hp : fetch db.plans "Plan" s.planId with
    | error e =>
      simp only [Subscription.inMemory, ForeignKey.of, hc, hp]
      rfl
    | ok plan =>
      rw [Subscription.clean_new h hc hp]
      simp only [Subscription.inMemory, ForeignKey.of, hc, hp, ok_bind, SubscriptionInstance.clean]
      cases ensure (plan.organizationId == customer.organizationId)
        (.validationError "Customer and plan must belong to the same organization.") with
      | error e => rfl
      | ok u =>
        simp only [storedKey, h, if_true, cleanRecord_new, ok_bind]
        exact (Subscription.write_new h hc hp customer.organizationId).symm

end Chargeflow
