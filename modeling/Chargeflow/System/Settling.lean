import Chargeflow.System.Tenancy

/-!
# The outcome of a settlement

In a reachable database a settlement is a function of the books: `settledBooks`.  It commits for
every attempt and every result of the provider, as long as a charge id that is to be recorded fits
its column (`settle_eq`).  No transition is illegal and no save is refused; the one constraint that
may fail is the one on charge ids, inside the savepoint.
-/

namespace Chargeflow

open Foundation PaymentService

/-! ## The books after a settlement -/

/-- A charge id belongs to another attempt of the provider. -/
def Taken (attempts : Table PaymentAttempt) (p : PaymentAttempt) (c : String) : Prop :=
  c ≠ "" ∧ ∃ q ∈ attempts, q.id ≠ p.id ∧ q.provider = p.provider ∧ q.providerChargeId = c

/-- Whether a charge id is taken can be computed. -/
instance (attempts : Table PaymentAttempt) (p : PaymentAttempt) (c : String) :
    Decidable (Taken attempts p c) := by
  unfold Taken; infer_instance

/-- Whether an attempt is unsettled can be computed. -/
instance (p : PaymentAttempt) : Decidable p.Unsettled := by
  unfold PaymentAttempt.Unsettled; infer_instance

/-- Whether a subscription is in arrears can be computed. -/
instance (invoices : Table Invoice) (s : Subscription) : Decidable (InArrears invoices s) := by
  unfold InArrears; infer_instance

/-- Whether a success applies can be computed. -/
instance (b : Books) (p : PaymentAttempt) (i : Invoice) (s : Subscription) :
    Decidable (Applicable b p i s) :=
  decidable_of_iff
    (s.status ≠ .canceled ∧ i.Payable ∧
      ∀ q ∈ b.attempts, q.invoiceId = i.id → q.status = .success → q.id = p.id)
    ⟨fun h => ⟨h.1, h.2.1, h.2.2⟩, fun h => ⟨h.notCanceled, h.payable, h.noOther⟩⟩

/-- Whether a decline applies can be computed. -/
instance (b : Books) (i : Invoice) (s : Subscription) : Decidable (Declinable b i s) :=
  decidable_of_iff
    (s.status ≠ .canceled ∧ i.Payable ∧
      ∀ q ∈ b.attempts, q.invoiceId = i.id → q.status ≠ .success)
    ⟨fun h => ⟨h.1, h.2.1, h.2.2⟩, fun h => ⟨h.notCanceled, h.payable, h.noSuccess⟩⟩

/-- An OVERDUE subscription without arrears becomes ACTIVE, any other stays as it is. -/
def Subscription.reactivated (s : Subscription) (invoices : Table Invoice) (now : DateTime) :
    Subscription :=
  if s.status = .overdue ∧ ¬ InArrears invoices s then s.stamp .active now else s

/-- A reactivation keeps the primary key. -/
theorem reactivated_id {s : Subscription} (invoices : Table Invoice) (now : DateTime) :
    (s.reactivated invoices now).id = s.id := by
  unfold Subscription.reactivated
  split_ifs <;> rfl

/-- The books after the success of an attempt that can be applied. -/
def paidBooks (b : Books) (row : PaymentAttempt) (i : Invoice) (s : Subscription)
    (now : DateTime) : Books where
  subscriptions :=
    b.subscriptions.update (s.reactivated (b.invoices.update (i.stamp .paid now)) now)
  invoices := b.invoices.update (i.stamp .paid now)
  attempts := b.attempts.update (row.withStatus .success)

/-- The books after the failure of a PENDING attempt. -/
def declinedBooks (b : Books) (row : PaymentAttempt) (i : Invoice) (s : Subscription)
    (now : DateTime) : Books :=
  if Declinable b i s then
    { subscriptions := b.subscriptions.update (s.declined now)
      invoices := b.invoices.update (i.declined now)
      attempts := b.attempts.update (row.withStatus .failed) }
  else { b with attempts := b.attempts.update (row.withStatus .failed) }

/-- The books after a settlement of the attempt `p`, whose invoice is `i` and whose subscription
is `s`. -/
def settledBooks (env : Env) (b : Books) (p : PaymentAttempt) (i : Invoice) (s : Subscription)
    (success : Bool) (response : List (String × Json)) (incoming : Json) (now : DateTime) : Books :=
  if success = false ∧ ¬ p.Unsettled then b
  else if conflictingCharge p incoming then
    { b with attempts := b.attempts.update (p.mismatched response incoming) }
  else if ¬ p.Unsettled then b
  else if bindsCharge p incoming ∧ Taken b.attempts p (env.columnText incoming) then
    { b with attempts := b.attempts.update (p.collided response incoming) }
  else if success then
    if Applicable b p i s then paidBooks b (p.bound env response incoming) i s now
    else { b with attempts := b.attempts.update (p.bound env response incoming).flagged }
  else if p.status = .failed then
    { b with attempts :=
      b.attempts.update (if bindsCharge p incoming then p.bound env response incoming else p) }
  else declinedBooks b (p.bound env response incoming) i s now

/-- The charge id of a result is to be recorded, and does not fit its column. -/
def tooLong (env : Env) (p : PaymentAttempt) (incoming : Json) : Prop :=
  p.Unsettled ∧ bindsCharge p incoming = true ∧ 255 < (env.columnText incoming).length

/-- Whether a charge id is too long can be computed. -/
instance (env : Env) (p : PaymentAttempt) (incoming : Json) :
    Decidable (tooLong env p incoming) := by
  unfold tooLong; infer_instance

/-! ## Saves inside a settlement -/

/-- Rows that agree in the columns fixed at creation differ in the length of the charge id only. -/
theorem PaymentAttempt.checkLengths_eq {p row : PaymentAttempt} (hp : p.checkLengths = .ok ())
    (hsame : p.SameSnapshot row) :
    row.checkLengths = checkLength "provider_charge_id" row.providerChargeId 255 := by
  simp only [PaymentAttempt.checkLengths, check_eq_ok_iff] at hp
  obtain ⟨hamount, hcurrency, hprovider, hkey, hcustomer, hmethod, -, hclient⟩ := hp
  simp only [PaymentAttempt.checkLengths, hsame.amount, hsame.currency, hsame.provider,
    hsame.providerIdempotencyKey, hsame.providerCustomerId, hsame.providerPaymentMethodId,
    hsame.idempotencyKey, hamount, hcurrency, hprovider, hkey, hcustomer, hmethod, hclient, ok_bind]
  cases checkLength "provider_charge_id" row.providerChargeId 255 <;> rfl

/-- The unique constraints on a row that agrees with a stored one in the columns fixed at creation:
only the charge id may belong to another attempt. -/
theorem PaymentAttempt.checkConstraints_eq {db : Db} {p row : PaymentAttempt}
    (hp : p ∈ db.attempts) (hsame : p.SameSnapshot row) (hkeys : KeysUnique db.attempts)
    (hsuccess : row.status = .success → ¬ HasOther db.attempts p .success) :
    PaymentAttempt.checkConstraints db row =
      if Taken db.attempts p row.providerChargeId then
        .error (.integrityError "unique_provider_charge")
      else .ok () := by
  have hother : ∀ {q : PaymentAttempt}, q ∈ db.attempts → q.id ≠ row.id → q ≠ p := by
    rintro q - hne rfl
    exact hne hsame.id.symm
  have hclientKey : ∀ q ∈ db.attempts.filter (fun q => q.id != row.id),
      (row.idempotencyKey.isSome && q.organizationId == row.organizationId &&
        q.idempotencyKey == row.idempotencyKey) = false := by
    intro q hq
    simp only [Table.mem_filter, bne_iff_ne] at hq
    by_contra htest
    simp only [Bool.not_eq_false, Bool.and_eq_true, beq_iff_eq, hsame.organizationId,
      hsame.idempotencyKey] at htest
    obtain ⟨k, hk⟩ := Option.isSome_iff_exists.mp htest.1.1
    exact hother hq.1 hq.2 (hkeys.client q hq.1 p hp htest.1.2 k (htest.2.trans hk) hk)
  have hone : ∀ q ∈ db.attempts.filter (fun q => q.id != row.id),
      (row.status == .success && q.invoiceId == row.invoiceId && q.status == .success) =
        false := by
    intro q hq
    simp only [Table.mem_filter, bne_iff_ne] at hq
    by_contra htest
    simp only [Bool.not_eq_false, Bool.and_eq_true, beq_iff_eq, hsame.invoiceId] at htest
    exact hsuccess htest.1.1 ⟨q, hq.1, hother hq.1 hq.2, htest.1.2, htest.2⟩
  have hproviderKey : ∀ q ∈ db.attempts.filter (fun q => q.id != row.id),
      (q.provider == row.provider &&
        q.providerIdempotencyKey == row.providerIdempotencyKey) = false := by
    intro q hq
    simp only [Table.mem_filter, bne_iff_ne] at hq
    by_contra htest
    simp only [Bool.not_eq_false, Bool.and_eq_true, beq_iff_eq,
      hsame.providerIdempotencyKey] at htest
    exact hother hq.1 hq.2 (hkeys.provider q hq.1 p hp htest.2)
  have hcharge : ((db.attempts.filter fun q => q.id != row.id).any fun q =>
      row.providerChargeId != "" && q.provider == row.provider &&
        q.providerChargeId == row.providerChargeId) =
      decide (Taken db.attempts p row.providerChargeId) := by
    rw [eq_comm, Bool.eq_iff_iff, decide_eq_true_eq, List.any_eq_true]
    simp only [Taken, Table.mem_filter, bne_iff_ne, Bool.and_eq_true, beq_iff_eq, hsame.id,
      hsame.provider]
    constructor
    · rintro ⟨hne, q, hq, hid, hprovider, heq⟩
      exact ⟨q, ⟨hq, hid⟩, ⟨hne, hprovider⟩, heq⟩
    · rintro ⟨q, ⟨hq, hid⟩, ⟨hne, hprovider⟩, heq⟩
      exact ⟨hne, q, hq, hid, hprovider, heq⟩
  unfold PaymentAttempt.checkConstraints
  simp only [List.any_eq_false.mpr fun q hq => Bool.eq_false_iff.mp (hclientKey q hq),
    List.any_eq_false.mpr fun q hq => Bool.eq_false_iff.mp (hone q hq),
    List.any_eq_false.mpr fun q hq => Bool.eq_false_iff.mp (hproviderKey q hq), hcharge, ensure,
    Bool.not_false, if_true, ok_bind]
  by_cases htaken : Taken db.attempts p row.providerChargeId <;> simp [htaken]

/-- What a save inside a settlement relies on: the attempt is stored, its invoice is of the same
organization, and the constraints hold of the stored rows. -/
structure Savable (db : Db) (p : PaymentAttempt) : Prop where
  mem : p ∈ db.attempts
  invoice : ∃ i ∈ db.invoices, i.id = p.invoiceId ∧ i.organizationId = p.organizationId
  keys : KeysUnique db.attempts
  admitted : Admitted db.attempts

/-- A stored charge id belongs to no other attempt. -/
theorem Savable.not_taken {db : Db} {p : PaymentAttempt} (h : Savable db p) :
    ¬ Taken db.attempts p p.providerChargeId := by
  rintro ⟨hne, q, hq, hid, hprovider, heq⟩
  exact hid (congrArg PaymentAttempt.id
    (h.admitted.charge q hq p h.mem hprovider (heq ▸ hne) heq))

/-- A save inside a settlement fails only for the charge id: it is too long, or it belongs to
another attempt. -/
theorem PaymentAttempt.save_eq {db : Db} {p p' : PaymentAttempt} {fields : List PaymentField}
    (h : Savable db p) (hfields : ∀ f ∈ fields, f ∈ settlementFields) (hsame : p.SameSnapshot p')
    (hsuccess : (p.merge fields p').status = .success → ¬ HasOther db.attempts p .success) :
    PaymentAttempt.save db fields p' = (do
      checkLength "provider_charge_id" (p.merge fields p').providerChargeId 255
      if Taken db.attempts p (p.merge fields p').providerChargeId then
        .error (.integrityError "unique_provider_charge")
      else .ok { db with attempts := db.attempts.update (p.merge fields p') }) := by
  obtain ⟨i, hi, hid, horg⟩ := h.invoice
  have hkey : normalizeKey p'.idempotencyKey = p'.idempotencyKey := by
    rw [hsame.idempotencyKey]
    exact h.admitted.key p h.mem
  have hfetch : fetch db.invoices "Invoice" p'.invoiceId = .ok i :=
    fetch_eq_ok_iff.mpr ⟨hi, hid.trans hsame.invoiceId.symm⟩
  have hstored : db.attempts.get? p'.id = some p :=
    Table.get?_eq_some_iff.mpr ⟨h.mem, hsame.id.symm⟩
  have hsnapshot : (p.snapshot == p'.snapshot) = true := by
    simp [PaymentAttempt.snapshot, hsame.organizationId, hsame.invoiceId, hsame.amount,
      hsame.currency, hsame.provider, hsame.providerIdempotencyKey, hsame.providerCustomerId,
      hsame.providerPaymentMethodId, hsame.idempotencyKey]
  have hclean : PaymentAttempt.clean db (some p'.organizationId) p' = .ok p' := by
    have hown : i.organizationId = p'.organizationId := horg.trans hsame.organizationId.symm
    simp only [PaymentAttempt.clean, hfetch, checkOrganization, hstored, hsnapshot, hown, ensure,
      Option.all_some, beq_self_eq_true, if_true, ok_bind]
    rfl
  have hmerged := PaymentAttempt.merge_sameSnapshot hfields p p'
  unfold PaymentAttempt.save
  rw [hkey]
  simp only [hclean, ok_bind, fetch, hstored,
    PaymentAttempt.checkLengths_eq (h.admitted.lengths p h.mem) hmerged,
    PaymentAttempt.checkConstraints_eq h.mem hmerged h.keys hsuccess]
  congr 1
  funext _
  split_ifs <;> rfl

/-- The keys stay unique when an attempt changes in other columns. -/
theorem KeysUnique.update {attempts : Table PaymentAttempt} (h : KeysUnique attempts)
    {p p' : PaymentAttempt} (hp : p ∈ attempts) (hsame : p.SameSnapshot p') :
    KeysUnique (attempts.update p') := by
  have hold : ∀ q' ∈ attempts.update p', ∃ q ∈ attempts, q.SameSnapshot q' := by
    intro q' hq'
    rcases (Table.mem_update_of_mem hp hsame.id).mp hq' with rfl | ⟨hq', -⟩
    · exact ⟨p, hp, hsame⟩
    · exact ⟨q', hq', .refl q'⟩
  have heq : ∀ q' ∈ attempts.update p', ∀ r' ∈ attempts.update p', q'.id = r'.id → q' = r' :=
    fun q' hq' r' hr' hid => Table.eq_of_key_eq hq' hr' hid
  refine ⟨?_, ?_, ?_⟩
  · intro q' hq'
    obtain ⟨q, hq, hqq'⟩ := hold q' hq'
    exact hqq'.provider.trans (h.mock q hq)
  · intro q' hq' r' hr' hkey
    obtain ⟨q, hq, hqq'⟩ := hold q' hq'
    obtain ⟨r, hr, hrr'⟩ := hold r' hr'
    have hqr : q = r := h.provider q hq r hr
      (by rw [← hqq'.providerIdempotencyKey, hkey, hrr'.providerIdempotencyKey])
    exact heq q' hq' r' hr' (by rw [hqq'.id, hrr'.id, hqr])
  · intro q' hq' r' hr' horg k hqk hrk
    obtain ⟨q, hq, hqq'⟩ := hold q' hq'
    obtain ⟨r, hr, hrr'⟩ := hold r' hr'
    have hqr : q = r := h.client q hq r hr
      (by rw [← hqq'.organizationId, horg, hrr'.organizationId]) k
      (hqq'.idempotencyKey.symm.trans hqk) (hrr'.idempotencyKey.symm.trans hrk)
    exact heq q' hq' r' hr' (by rw [hqq'.id, hrr'.id, hqr])

/-- A saved attempt may be saved again. -/
theorem Savable.save {db db' : Db} {p p' : PaymentAttempt} {fields : List PaymentField}
    (h : Savable db p) (hfields : ∀ f ∈ fields, f ∈ settlementFields)
    (hid : p'.id = p.id) (hsave : PaymentAttempt.save db fields p' = .ok db') :
    Savable db' (p.merge fields p') := by
  have hsame := PaymentAttempt.merge_sameSnapshot hfields p p'
  have hadmitted := PaymentAttempt.save_admitted hfields hsave h.admitted
  obtain ⟨stored, hstored, hstoredId, -, rfl⟩ := PaymentAttempt.save_eq_ok hfields hsave
  obtain rfl := Table.eq_of_key_eq hstored h.mem (hstoredId.trans hid)
  refine ⟨Table.mem_update_self h.mem rfl, ?_, h.keys.update h.mem hsame, hadmitted⟩
  obtain ⟨i, hi, hiid, horg⟩ := h.invoice
  exact ⟨i, hi, hiid.trans hsame.invoiceId.symm, horg.trans hsame.organizationId.symm⟩

/-- A save that leaves the charge id alone succeeds. -/
theorem PaymentAttempt.save_of_same_charge {db : Db} {p p' : PaymentAttempt}
    {fields : List PaymentField} (h : Savable db p) (hfields : ∀ f ∈ fields, f ∈ settlementFields)
    (hsame : p.SameSnapshot p') (hmerge : p.merge fields p' = p')
    (hcharge : p'.providerChargeId = p.providerChargeId)
    (hsuccess : p'.status = .success → ¬ HasOther db.attempts p .success) :
    PaymentAttempt.save db fields p' =
      .ok { db with attempts := db.attempts.update p' } := by
  have hlength : checkLength "provider_charge_id" p'.providerChargeId 255 = .ok () := by
    rw [hcharge, ← PaymentAttempt.checkLengths_eq (h.admitted.lengths p h.mem) (.refl p)]
    exact h.admitted.lengths p h.mem
  rw [PaymentAttempt.save_eq h hfields hsame (by rwa [hmerge]), hmerge, hlength, ok_bind,
    hcharge, if_neg h.not_taken]

/-! ## The services inside a settlement -/

/-- A payable invoice can be marked PAID. -/
theorem InvoiceService.markPaid_of_payable {db : Db} {i : Invoice} {now : DateTime}
    (hi : i ∈ db.invoices) (hpayable : i.Payable) :
    markPaid db i.id now =
      .ok { db with invoices := db.invoices.update (i.stamp .paid now) } := by
  have hget : db.invoices.get? i.id = some i := Table.get?_key hi
  have hedge : InvoiceStatus.paid ∈ invoiceTransitions i.status := by
    rcases Invoice.payable_iff.mp hpayable with h | h | h <;> simp [h, invoiceTransitions]
  have hunpaid : i.status ≠ .paid := by
    rcases Invoice.payable_iff.mp hpayable with h | h | h <;> simp [h]
  simp only [markPaid, fetch, hget, ok_bind, Invoice.transitionTo, hunpaid, hedge, if_true,
    if_false]
  rfl

/-- `InvoiceService.mark_failed` writes the declined invoice. -/
theorem InvoiceService.markFailed_eq {db : Db} {i : Invoice} {now : DateTime}
    (hi : i ∈ db.invoices) :
    markFailed db i.id now =
      .ok { db with invoices := db.invoices.update (i.declined now) } := by
  have hget : db.invoices.get? i.id = some i := Table.get?_key hi
  by_cases hissued : i.status = .issued
  · have hedge : InvoiceStatus.failed ∈ invoiceTransitions i.status := by
      simp [hissued, invoiceTransitions]
    simp only [markFailed, fetch, hget, ok_bind, Invoice.transitionTo, hissued, ne_eq,
      not_true_eq_false, if_false, Invoice.declined, if_true]
    rw [if_pos (by rwa [hissued] at hedge)]
    rfl
  · simp only [markFailed, fetch, hget, ok_bind, ne_eq, hissued, not_false_eq_true, if_true,
      Invoice.declined, if_false, Table.update_self hi]
    rfl

/-- `SubscriptionService.mark_overdue` writes the declined subscription. -/
theorem SubscriptionService.markOverdue_eq {db : Db} {s : Subscription} {now : DateTime}
    (hs : s ∈ db.subscriptions) :
    markOverdue db s.id now =
      .ok { db with subscriptions := db.subscriptions.update (s.declined now) } := by
  have hget : db.subscriptions.get? s.id = some s := Table.get?_key hs
  by_cases hactive : s.status = .active
  · have hedge : SubscriptionStatus.overdue ∈ subscriptionTransitions s.status := by
      simp [hactive, subscriptionTransitions]
    simp only [markOverdue, fetch, hget, ok_bind, Subscription.transitionTo, hactive, ne_eq,
      not_true_eq_false, if_false, Subscription.declined, if_true]
    rw [if_pos (by rwa [hactive] at hedge)]
    rfl
  · simp only [markOverdue, fetch, hget, ok_bind, ne_eq, hactive, not_false_eq_true, if_true,
      Subscription.declined, if_false, Table.update_self hs]
    rfl

/-- `SubscriptionService.reactivate` writes the reactivated subscription. -/
theorem SubscriptionService.reactivate_eq {db : Db} {s : Subscription} {now : DateTime}
    (hs : s ∈ db.subscriptions) :
    reactivate db s.id now =
      .ok { db with
        subscriptions := db.subscriptions.update (s.reactivated db.invoices now) } := by
  have hget : db.subscriptions.get? s.id = some s := Table.get?_key hs
  have hany : db.invoices.any (fun i => i.subscriptionId == s.id &&
      (i.status == .failed || i.status == .overdue)) = decide (InArrears db.invoices s) := by
    rw [Bool.eq_iff_iff, decide_eq_true_eq]
    simp [InArrears]
  simp only [reactivate, fetch, hget, ok_bind, hany, decide_eq_true_eq]
  by_cases hoverdue : s.status = .overdue
  · rw [if_neg (not_not.mpr hoverdue)]
    by_cases harrears : InArrears db.invoices s
    · rw [if_pos harrears, Subscription.reactivated, if_neg (fun h => h.2 harrears),
        Table.update_self hs]
      rfl
    · rw [if_neg harrears, Subscription.reactivated, if_pos ⟨hoverdue, harrears⟩]
      have hedge : SubscriptionStatus.active ∈ subscriptionTransitions s.status := by
        simp [hoverdue, subscriptionTransitions]
      simp only [Subscription.transitionTo, hedge, hget, if_true]
      rfl
  · rw [if_pos hoverdue, Subscription.reactivated, if_neg (fun h => hoverdue h.1),
      Table.update_self hs]
    rfl

/-! ## The settlement -/

section

variable {env : Env} {db : Db} {p : PaymentAttempt} {i : Invoice} {s : Subscription}
  {response : List (String × Json)} {incoming : Json}

/-- The row that the savepoint of `settle` leaves: the charge id is recorded if there is one to
record. -/
def PaymentAttempt.afterSavepoint (env : Env) (p : PaymentAttempt)
    (response : List (String × Json)) (incoming : Json) : PaymentAttempt :=
  if bindsCharge p incoming then p.bound env response incoming else p

/-- The charge id of an attempt that was bound. -/
theorem PaymentAttempt.bound_charge (hbinds : bindsCharge p incoming = true) :
    (p.bound env response incoming).providerChargeId = env.columnText incoming := by
  rw [PaymentAttempt.bound, if_pos hbinds]

/-- An attempt that binds no charge id only gets the response. -/
theorem PaymentAttempt.bound_no_charge (hbinds : ¬ bindsCharge p incoming = true) :
    p.bound env response incoming = { p with providerResponse := .obj response } := by
  rw [PaymentAttempt.bound, if_neg hbinds]

/-- The first save of the savepoint. -/
theorem save_bound_eq (h : Savable db p) (hopen : p.Unsettled)
    (hbinds : bindsCharge p incoming = true) :
    PaymentAttempt.save db [.providerResponse, .providerChargeId]
      (p.bound env response incoming) = (do
        checkLength "provider_charge_id" (env.columnText incoming) 255
        if Taken db.attempts p (env.columnText incoming) then
          .error (.integrityError "unique_provider_charge")
        else .ok { db with
          attempts := db.attempts.update (p.bound env response incoming) }) := by
  have hmerge : p.merge [.providerResponse, .providerChargeId] (p.bound env response incoming) =
      p.bound env response incoming := rfl
  have hsame : p.SameSnapshot (p.bound env response incoming) := .of_eq rfl
  rw [PaymentAttempt.save_eq h (settlement_subset rfl) hsame, hmerge,
    PaymentAttempt.bound_charge hbinds]
  intro hsuccess
  exact absurd hsuccess hopen.1

/-- What `_bind_charge_id` writes for a consistent database. -/
theorem bindChargeId_eq (h : Savable db p) (hopen : p.Unsettled) :
    bindChargeId env db p response incoming =
      if tooLong env p incoming then .error (.dataError "provider_charge_id")
      else if bindsCharge p incoming ∧ Taken db.attempts p (env.columnText incoming) then
        .ok (.collided { db with attempts := db.attempts.update (p.collided response incoming) })
      else
        .ok (.bound { db with
            attempts := db.attempts.update (p.afterSavepoint env response incoming) }
          (p.bound env response incoming)) := by
  by_cases hbinds : bindsCharge p incoming = true
  · have hrow : { p with
        providerResponse := .obj response
        providerChargeId := env.columnText incoming } = p.bound env response incoming := by
      rw [PaymentAttempt.bound, if_pos hbinds]
    have hempty : p.providerChargeId = "" := by
      simp only [bindsCharge, Bool.and_eq_true, beq_iff_eq] at hbinds
      exact hbinds.2
    have hcollided : { p with
        providerResponse := collisionResponse response incoming
        providerChargeId := ""
        needsReconciliation := true } = p.collided response incoming := by
      rw [PaymentAttempt.collided, ← hempty]
    have hsecond : PaymentAttempt.save db [.providerResponse, .needsReconciliation]
        (p.collided response incoming) =
        .ok { db with attempts := db.attempts.update (p.collided response incoming) } :=
      PaymentAttempt.save_of_same_charge h (settlement_subset rfl) (.of_eq rfl) rfl rfl
        fun hsuccess => absurd hsuccess hopen.1
    unfold bindChargeId
    rw [if_pos (by exact hbinds)]
    simp only [hrow, save_bound_eq h hopen hbinds, hcollided]
    by_cases hlength : (env.columnText incoming).length ≤ 255
    · have hnotlong : ¬ tooLong env p incoming := fun hlong =>
        absurd hlong.2.2 (not_lt.mpr hlength)
      rw [if_neg hnotlong]
      have hfits : checkLength "provider_charge_id" (env.columnText incoming) 255 = .ok () := by
        simp [checkLength, ensure, hlength]
      rw [hfits, ok_bind]
      by_cases htaken : Taken db.attempts p (env.columnText incoming)
      · rw [if_pos htaken, if_pos ⟨hbinds, htaken⟩]
        simp only [hsecond]
        rfl
      · have hnottaken : ¬ (bindsCharge p incoming = true ∧
            Taken db.attempts p (env.columnText incoming)) := fun h => htaken h.2
        rw [if_neg htaken, if_neg hnottaken, PaymentAttempt.afterSavepoint, if_pos hbinds]
    · have hlong : tooLong env p incoming := ⟨hopen, hbinds, not_le.mp hlength⟩
      rw [if_pos hlong]
      have hfails : checkLength "provider_charge_id" (env.columnText incoming) 255 =
          .error (.dataError "provider_charge_id") := by
        simp [checkLength, ensure, hlength]
      rw [hfails]
      rfl
  · have hnotlong : ¬ tooLong env p incoming := fun hlong => hbinds hlong.2.1
    have hnottaken : ¬ (bindsCharge p incoming = true ∧
        Taken db.attempts p (env.columnText incoming)) := fun htaken => hbinds htaken.1
    unfold bindChargeId
    rw [if_neg (by exact hbinds), if_neg hnotlong, if_neg hnottaken,
      PaymentAttempt.afterSavepoint, if_neg hbinds,
      Table.update_self h.mem, PaymentAttempt.bound_no_charge hbinds]

/-- After the savepoint the attempt may be saved again. -/
theorem savable_afterSavepoint (h : Savable db p) (hopen : p.Unsettled)
    (hfits : ¬ tooLong env p incoming)
    (hfree : ¬ (bindsCharge p incoming = true ∧
      Taken db.attempts p (env.columnText incoming))) :
    Savable { db with attempts := db.attempts.update (p.afterSavepoint env response incoming) }
      (p.afterSavepoint env response incoming) := by
  unfold PaymentAttempt.afterSavepoint
  by_cases hbinds : bindsCharge p incoming = true
  · rw [if_pos hbinds]
    have hlength : (env.columnText incoming).length ≤ 255 := by
      by_contra hlong
      exact hfits ⟨hopen, hbinds, not_le.mp hlong⟩
    have hcheck : checkLength "provider_charge_id" (env.columnText incoming) 255 = .ok () := by
      simp [checkLength, ensure, hlength]
    have hsave : PaymentAttempt.save db [.providerResponse, .providerChargeId]
        (p.bound env response incoming) = _ := save_bound_eq h hopen hbinds
    rw [hcheck, ok_bind, if_neg fun htaken => hfree ⟨hbinds, htaken⟩] at hsave
    have hsavable : Savable
        { db with attempts := db.attempts.update (p.bound env response incoming) }
        (p.merge [.providerResponse, .providerChargeId] (p.bound env response incoming)) :=
      h.save (settlement_subset rfl) rfl hsave
    exact hsavable
  · rw [if_neg hbinds, Table.update_self h.mem]
    exact h

/-- After the savepoint the attempt is as before, or bound. -/
theorem PaymentAttempt.afterSavepoint_cases (env : Env) (p : PaymentAttempt)
    (response : List (String × Json)) (incoming : Json) :
    p.afterSavepoint env response incoming = p ∨
      p.afterSavepoint env response incoming = p.bound env response incoming := by
  unfold PaymentAttempt.afterSavepoint
  split_ifs
  · exact Or.inr rfl
  · exact Or.inl rfl

/-- After the savepoint the attempt has the charge id of the bound one. -/
theorem PaymentAttempt.afterSavepoint_charge (env : Env) (p : PaymentAttempt)
    (response : List (String × Json)) (incoming : Json) :
    (p.afterSavepoint env response incoming).providerChargeId =
      (p.bound env response incoming).providerChargeId := by
  unfold PaymentAttempt.afterSavepoint
  split_ifs with hbinds
  · rfl
  · rw [PaymentAttempt.bound_no_charge hbinds]

/-- The last save of a settlement, which leaves the charge id alone. -/
theorem save_settled (h : Savable db p) (hopen : p.Unsettled) (hfits : ¬ tooLong env p incoming)
    (hfree : ¬ (bindsCharge p incoming = true ∧
      Taken db.attempts p (env.columnText incoming)))
    {fields : List PaymentField} (hfields : fields.all (· ∈ settlementFields) = true)
    {row : PaymentAttempt} (hsame : p.SameSnapshot row)
    (hcharge : row.providerChargeId = (p.bound env response incoming).providerChargeId)
    (hmerge : p.merge fields row = row ∧ (p.bound env response incoming).merge fields row = row)
    (hsuccess : row.status = .success → ¬ HasOther db.attempts p .success) :
    PaymentAttempt.save
        { db with attempts := db.attempts.update (p.afterSavepoint env response incoming) }
        fields row =
      .ok { db with attempts := db.attempts.update row } := by
  have hsavable : Savable
      { db with attempts := db.attempts.update (p.afterSavepoint env response incoming) }
      (p.afterSavepoint env response incoming) := savable_afterSavepoint h hopen hfits hfree
  have hcharge' := hcharge.trans (p.afterSavepoint_charge env response incoming).symm
  have hrow := p.afterSavepoint_cases env response incoming
  generalize p.afterSavepoint env response incoming = q at hsavable hcharge' hrow ⊢
  have hsnapshot : q.SameSnapshot row := by
    rcases hrow with rfl | rfl
    · exact hsame
    · exact ⟨hsame.id, hsame.organizationId, hsame.invoiceId, hsame.amount, hsame.currency,
        hsame.provider, hsame.providerIdempotencyKey, hsame.providerCustomerId,
        hsame.providerPaymentMethodId, hsame.idempotencyKey, hsame.attemptedAt⟩
  have hmerge' : q.merge fields row = row := by
    rcases hrow with rfl | rfl
    · exact hmerge.1
    · exact hmerge.2
  have hqid : q.id = p.id := by rcases hrow with rfl | rfl <;> rfl
  have hinvoice : q.invoiceId = p.invoiceId := by rcases hrow with rfl | rfl <;> rfl
  have hother : row.status = .success → ¬ HasOther (db.attempts.update q) q .success := by
    rintro hstatus ⟨r, hr, hne, hri, hrs⟩
    rcases (Table.mem_update_of_mem h.mem hqid).mp hr with rfl | ⟨hr, hrp⟩
    · exact hne rfl
    · exact hsuccess hstatus ⟨r, hr, hrp, hri.trans hinvoice, hrs⟩
  have hupdate : (db.attempts.update q).update row = db.attempts.update row :=
    Table.update_update hsnapshot.id.symm
  rw [PaymentAttempt.save_of_same_charge hsavable (settlement_subset hfields) hsnapshot hmerge'
    hcharge' hother]
  simp only [hupdate]

/-- What `_apply_success` writes for a consistent database. -/
theorem applySuccess_eq (h : Savable db p) (hopen : p.Unsettled) (hfits : ¬ tooLong env p incoming)
    (hfree : ¬ (bindsCharge p incoming = true ∧
      Taken db.attempts p (env.columnText incoming)))
    (hi : i ∈ db.invoices) (hpi : i.id = p.invoiceId) (hs : s ∈ db.subscriptions)
    (now : DateTime) :
    applySuccess { db with
        attempts := db.attempts.update (p.afterSavepoint env response incoming) }
        s i (p.bound env response incoming) now =
      .ok (db.withBooks (if Applicable db.books p i s then
          paidBooks db.books (p.bound env response incoming) i s now
        else { db.books with
          attempts := db.attempts.update (p.bound env response incoming).flagged })) := by
  have hid : (p.afterSavepoint env response incoming).id = p.id := by
    rcases p.afterSavepoint_cases env response incoming with heq | heq
    · rw [heq]
    · rw [heq]
      rfl
  have happlicable := applicable_iff (i := i) (s := s) h.mem hid
  unfold applySuccess
  dsimp only
  by_cases happ : Applicable db.books p i s
  · rw [show (p.bound env response incoming).id = p.id from rfl, happlicable.mpr happ,
      if_neg (by decide), if_pos happ]
    have hnone : ¬ HasOther db.attempts p .success := by
      rintro ⟨q, hq, hne, hinvoice, hsuccess⟩
      exact hne (Table.eq_of_key_eq hq h.mem
        (happ.noOther q hq (hinvoice.trans hpi.symm) hsuccess))
    have hsave : PaymentAttempt.save
        { db with attempts := db.attempts.update (p.afterSavepoint env response incoming) }
        [.status, .providerResponse, .providerChargeId]
        ((p.bound env response incoming).withStatus .success) =
        .ok { db with
          attempts := db.attempts.update ((p.bound env response incoming).withStatus .success) } :=
      save_settled h hopen hfits hfree rfl (.of_eq rfl) rfl ⟨rfl, rfl⟩ fun _ => hnone
    change (PaymentAttempt.save _ _ ((p.bound env response incoming).withStatus .success) >>= _) = _
    rw [hsave, ok_bind]
    refine bind_eq_ok_iff.mpr ⟨_, InvoiceService.markPaid_of_payable hi happ.payable, ?_⟩
    exact SubscriptionService.reactivate_eq hs
  · rw [show (p.bound env response incoming).id = p.id from rfl,
      Bool.eq_false_iff.mpr fun h => happ (happlicable.mp h), if_pos (by decide), if_neg happ]
    have hsave : PaymentAttempt.save
        { db with attempts := db.attempts.update (p.afterSavepoint env response incoming) }
        [.providerResponse, .providerChargeId, .needsReconciliation]
        (p.bound env response incoming).flagged =
        .ok { db with attempts := db.attempts.update (p.bound env response incoming).flagged } :=
      save_settled h hopen hfits hfree rfl (.of_eq rfl) rfl ⟨rfl, rfl⟩
        fun hsuccess => absurd hsuccess hopen.1
    exact hsave

/-- What `_apply_failure` writes for a consistent database. -/
theorem applyFailure_eq (h : Savable db p) (hopen : p.Unsettled) (hfits : ¬ tooLong env p incoming)
    (hfree : ¬ (bindsCharge p incoming = true ∧
      Taken db.attempts p (env.columnText incoming)))
    (hi : i ∈ db.invoices) (hs : s ∈ db.subscriptions) (now : DateTime) :
    applyFailure { db with
        attempts := db.attempts.update (p.afterSavepoint env response incoming) }
        s i (p.bound env response incoming) now =
      .ok (db.withBooks (declinedBooks db.books (p.bound env response incoming) i s now)) := by
  have hdeclinable : _ ↔ Declinable db.books i s := declinable_iff h.mem
    (show ((p.bound env response incoming).withStatus .failed).id = p.id from rfl) hopen.1
    PaymentStatus.noConfusion
  have hsave : PaymentAttempt.save
      { db with attempts := db.attempts.update (p.afterSavepoint env response incoming) }
      [.status, .providerResponse, .providerChargeId]
      ((p.bound env response incoming).withStatus .failed) =
      .ok { db with
        attempts := db.attempts.update ((p.bound env response incoming).withStatus .failed) } :=
    save_settled h hopen hfits hfree rfl (.of_eq rfl) rfl ⟨rfl, rfl⟩
      fun hsuccess => PaymentStatus.noConfusion hsuccess
  unfold applyFailure
  change (PaymentAttempt.save _ _ ((p.bound env response incoming).withStatus .failed) >>= _) = _
  rw [hsave, ok_bind, declinedBooks]
  by_cases hdec : Declinable db.books i s
  · rw [if_pos (hdeclinable.mpr hdec), if_pos hdec]
    refine bind_eq_ok_iff.mpr ⟨_, InvoiceService.markFailed_eq hi, ?_⟩
    exact SubscriptionService.markOverdue_eq hs
  · rw [if_neg (fun h => hdec (hdeclinable.mp h)), if_neg hdec]
    rfl

/-- A settlement commits, and leaves the books `settledBooks`, unless the charge id it is to record
does not fit its column. -/
theorem settle_eq (h : Savable db p) (hi : i ∈ db.invoices) (hpi : i.id = p.invoiceId)
    (hs : s ∈ db.subscriptions) (hsi : s.id = i.subscriptionId)
    (hone : AtMostOne db.attempts .success) (success : Bool)
    (response : List (String × Json)) (chargeId : String) (now : DateTime) :
    settle env db p.id success response chargeId now =
      if tooLong env p (incomingChargeId response chargeId) then
        .error (.dataError "provider_charge_id")
      else .ok (db.withBooks (settledBooks env db.books p i s success response
        (incomingChargeId response chargeId) now)) := by
  have hfetchP : fetch db.attempts "PaymentAttempt" p.id = .ok p := fetch_key h.mem
  have hfetchI : fetch db.invoices "Invoice" p.invoiceId = .ok i := fetch_eq_ok_iff.mpr ⟨hi, hpi⟩
  have hfetchS : fetch db.subscriptions "Subscription" i.subscriptionId = .ok s :=
    fetch_eq_ok_iff.mpr ⟨hs, hsi⟩
  unfold settle
  rw [hfetchP, ok_bind, hfetchI, ok_bind, hfetchS, ok_bind]
  dsimp only
  generalize incomingChargeId response chargeId = incoming
  have hdone : (p.status == .success || p.needsReconciliation) = true ↔ ¬ p.Unsettled := by
    simp [PaymentAttempt.Unsettled, imp_iff_not_or]
  have hearly : (!success && (p.status == .success || p.needsReconciliation)) = true ↔
      success = false ∧ ¬ p.Unsettled := by
    rw [Bool.and_eq_true, hdone, Bool.not_eq_true']
  simp only [hearly, hdone]
  unfold settledBooks
  simp only [show db.books.attempts = db.attempts from rfl]
  by_cases h₁ : success = false ∧ ¬ p.Unsettled
  · have hfits : ¬ tooLong env p incoming := fun hlong => h₁.2 hlong.1
    rw [if_pos h₁, if_pos h₁, if_neg hfits]
    rfl
  rw [if_neg h₁, if_neg h₁]
  by_cases hconflict : conflictingCharge p incoming = true
  · have hfits : ¬ tooLong env p incoming := by
      intro hlong
      have hbinds := hlong.2.1
      simp only [conflictingCharge, bindsCharge, Bool.and_eq_true, bne_iff_ne, beq_iff_eq]
        at hconflict hbinds
      exact hconflict.1.1 hbinds.2
    rw [if_pos hconflict, if_pos hconflict, if_neg hfits]
    have hsave : PaymentAttempt.save db [.providerResponse, .needsReconciliation]
        (p.mismatched response incoming) =
        .ok { db with attempts := db.attempts.update (p.mismatched response incoming) } := by
      exact PaymentAttempt.save_of_same_charge h (settlement_subset rfl) (.of_eq rfl) rfl rfl
        fun hsuccess => hone.not_hasOther h.mem hsuccess
    exact hsave
  rw [if_neg hconflict, if_neg hconflict]
  by_cases hopen : p.Unsettled
  · rw [if_neg (not_not.mpr hopen), if_neg (not_not.mpr hopen), bindChargeId_eq h hopen]
    by_cases hfits : tooLong env p incoming
    · rw [if_pos hfits, if_pos hfits]
      rfl
    rw [if_neg hfits, if_neg hfits]
    by_cases hfree : bindsCharge p incoming = true ∧ Taken db.attempts p (env.columnText incoming)
    · rw [if_pos hfree, if_pos hfree, ok_bind]
      rfl
    rw [if_neg hfree, if_neg hfree, ok_bind]
    dsimp only
    cases success with
    | true =>
      rw [if_neg (by simp), if_pos rfl, if_pos rfl]
      exact applySuccess_eq h hopen hfits hfree hi hpi hs now
    | false =>
      by_cases hfailed : p.status = .failed
      · have hstatus : (p.bound env response incoming).status = .failed := hfailed
        rw [if_pos (by simp [hstatus]), if_neg (by decide), if_pos hfailed]
        rfl
      · have hstatus : (p.bound env response incoming).status ≠ .failed := hfailed
        rw [if_neg (by simp [hstatus]), if_neg (by decide), if_neg (by decide), if_neg hfailed]
        exact applyFailure_eq h hopen hfits hfree hi hs now
  · have hfits : ¬ tooLong env p incoming := fun hlong => hopen hlong.1
    rw [if_pos hopen, if_pos hopen, if_neg hfits]
    rfl

end

/-! ## Reachable databases -/

/-- The rules that hold in every reachable database. -/
structure Db.Consistent (db : Db) : Prop where
  sound : Sound db.books
  tenancy : Tenancy db
  admitted : Admitted db.attempts

/-- Every reachable database is consistent. -/
theorem Reachable.consistent {env : Env} {db : Db} (h : Reachable env db) : db.Consistent :=
  ⟨h.sound, h.tenancy, h.admitted⟩

/-- A run keeps the database consistent. -/
theorem Reaches.consistent {env : Env} {db db' : Db} (h : Reaches (Step env) db db')
    (hdb : db.Consistent) : db'.Consistent :=
  ⟨Reaches.sound h hdb.sound, Reaches.tenancy h hdb.tenancy, Reaches.admitted h hdb.admitted⟩

namespace Db.Consistent

variable {env : Env} {db : Db} {p : PaymentAttempt} {i : Invoice} {s : Subscription}

/-- The events are no part of the rules. -/
theorem withEvents (h : db.Consistent) (events : Table WebhookEvent) :
    ({ db with webhookEvents := events } : Db).Consistent :=
  ⟨h.sound, ⟨h.tenancy.customer, h.tenancy.plan, h.tenancy.subscription, h.tenancy.line,
    h.tenancy.attempt⟩, h.admitted⟩

/-- Nor are the receipts. -/
theorem withReceipts (h : db.Consistent) (receipts : Table MockChargeReceipt) :
    ({ db with receipts := receipts } : Db).Consistent :=
  ⟨h.sound, ⟨h.tenancy.customer, h.tenancy.plan, h.tenancy.subscription, h.tenancy.line,
    h.tenancy.attempt⟩, h.admitted⟩

/-- A stored attempt of a consistent database can be saved. -/
theorem savable (h : db.Consistent) (hp : p ∈ db.attempts) : Savable db p :=
  ⟨hp, h.tenancy.attempt p hp, h.sound.keysUnique, h.admitted⟩

/-- Every attempt has an invoice, and its invoice a subscription. -/
theorem rows (h : db.Consistent) (hp : p ∈ db.attempts) :
    ∃ i ∈ db.invoices, ∃ s ∈ db.subscriptions, i.id = p.invoiceId ∧ s.id = i.subscriptionId := by
  obtain ⟨i, hi, hid, -⟩ := h.sound.linked.invoice p hp
  obtain ⟨s, hs, hsid, -⟩ := h.sound.linked.subscription i hi
  exact ⟨i, hi, s, hs, hid, hsid⟩

/-- What `_settle` writes for a consistent database. -/
theorem settle_eq (h : db.Consistent) (hp : p ∈ db.attempts) (hi : i ∈ db.invoices)
    (hpi : i.id = p.invoiceId) (hs : s ∈ db.subscriptions) (hsi : s.id = i.subscriptionId)
    (success : Bool) (response : List (String × Json)) (chargeId : String) (now : DateTime) :
    settle env db p.id success response chargeId now =
      if tooLong env p (incomingChargeId response chargeId) then
        .error (.dataError "provider_charge_id")
      else .ok (db.withBooks (settledBooks env db.books p i s success response
        (incomingChargeId response chargeId) now)) :=
  Chargeflow.settle_eq (h.savable hp) hi hpi hs hsi h.sound.coupled.success success response
    chargeId now

end Db.Consistent

end Chargeflow
