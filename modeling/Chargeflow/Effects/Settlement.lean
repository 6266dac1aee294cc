import Chargeflow.Effects.Preparation

/-!
# What a settlement does to the books

`Settlement` lists the ways in which `settle` ends, for the attempt `p`, its invoice `i` and its
subscription `s`: an early return, a charge id that contradicts another one, an outcome that changes
nothing more, or one that reaches the invoice and the subscription.  Every row it may change is
written by one `Table.update`; a row that stays as it is is updated by itself.
-/

namespace Chargeflow

open Foundation PaymentService

/-- An attempt that a provider result may still change: it is not SUCCESS, and not flagged. -/
def PaymentAttempt.Unsettled (p : PaymentAttempt) : Prop :=
  p.status ≠ .success ∧ p.needsReconciliation = false

/-- The charge id of a provider result is recorded, as none was before. -/
def bindsCharge (p : PaymentAttempt) (incoming : Json) : Bool :=
  incoming.truthy && p.providerChargeId == ""

/-- The attempt with the response and the charge id of a provider result. -/
def PaymentAttempt.bound (env : Env) (p : PaymentAttempt) (response : List (String × Json))
    (incoming : Json) : PaymentAttempt :=
  { p with
    providerResponse := .obj response
    providerChargeId :=
      if bindsCharge p incoming then env.columnText incoming else p.providerChargeId }

/-- The attempt with another status. -/
def PaymentAttempt.withStatus (p : PaymentAttempt) (status : PaymentStatus) : PaymentAttempt :=
  { p with status := status }

/-- The attempt, flagged for reconciliation. -/
def PaymentAttempt.flagged (p : PaymentAttempt) : PaymentAttempt :=
  { p with needsReconciliation := true }

/-- The attempt flagged for a charge id that contradicts the recorded one. -/
def PaymentAttempt.mismatched (p : PaymentAttempt) (response : List (String × Json))
    (incoming : Json) : PaymentAttempt :=
  { p with
    needsReconciliation := true
    providerResponse := mismatchResponse p.providerResponse response incoming }

/-- The attempt flagged for a charge id that belongs to another payment. -/
def PaymentAttempt.collided (p : PaymentAttempt) (response : List (String × Json))
    (incoming : Json) : PaymentAttempt :=
  { p with
    needsReconciliation := true
    providerResponse := collisionResponse response incoming }

/-- An ISSUED invoice fails, any other stays as it is. -/
def Invoice.declined (i : Invoice) (now : DateTime) : Invoice :=
  if i.status = .issued then i.stamp .failed now else i

/-- An ACTIVE subscription falls into arrears, any other stays as it is. -/
def Subscription.declined (s : Subscription) (now : DateTime) : Subscription :=
  if s.status = .active then s.stamp .overdue now else s

/-- A decline fails an invoice that is ISSUED and leaves the others. -/
theorem Invoice.declined_status (i : Invoice) (now : DateTime) :
    (i.declined now).status = if i.status = .issued then .failed else i.status := by
  unfold Invoice.declined
  split_ifs <;> rfl

/-- A decline makes a subscription OVERDUE if it was ACTIVE. -/
theorem Subscription.declined_status (s : Subscription) (now : DateTime) :
    (s.declined now).status = if s.status = .active then .overdue else s.status := by
  unfold Subscription.declined
  split_ifs <;> rfl

/-- An invoice of the subscription that keeps it in arrears. -/
def InArrears (invoices : Table Invoice) (s : Subscription) : Prop :=
  ∃ j ∈ invoices, j.subscriptionId = s.id ∧ (j.status = .failed ∨ j.status = .overdue)

/-- The row of a subscription after `reactivate`, once the table of invoices is `invoices`. -/
inductive Reactivated (invoices : Table Invoice) (s : Subscription) (now : DateTime) :
    Subscription → Prop
  | unchanged (h : s.status ≠ .overdue ∨ InArrears invoices s) : Reactivated invoices s now s
  | active (hoverdue : s.status = .overdue) (hclear : ¬ InArrears invoices s) :
      Reactivated invoices s now (s.stamp .active now)

/-- A success can be applied: the subscription and the invoice are open, and no other attempt of the
invoice succeeded. -/
structure Applicable (b : Books) (p : PaymentAttempt) (i : Invoice) (s : Subscription) : Prop where
  notCanceled : s.status ≠ .canceled
  payable : i.Payable
  noOther : ∀ q ∈ b.attempts, q.invoiceId = i.id → q.status = .success → q.id = p.id

/-- A failure reaches the invoice: the subscription and the invoice are open, and no attempt of the
invoice succeeded. -/
structure Declinable (b : Books) (i : Invoice) (s : Subscription) : Prop where
  notCanceled : s.status ≠ .canceled
  payable : i.Payable
  noSuccess : ∀ q ∈ b.attempts, q.invoiceId = i.id → q.status ≠ .success

/-- The effect on the books of a settlement. -/
inductive Settlement (env : Env) (b : Books) (p : PaymentAttempt) (i : Invoice) (s : Subscription)
    (success : Bool) (response : List (String × Json)) (incoming : Json) (now : DateTime) :
    Books → Prop
  /-- The attempt is settled, and the result does not contradict its charge id, or is a failure. -/
  | ignored (hdone : ¬ p.Unsettled)
      (h : success = false ∨ conflictingCharge p incoming = false) :
      Settlement env b p i s success response incoming now b
  /-- The result brings another charge id than the recorded one. -/
  | mismatched (h : success = true ∨ p.Unsettled)
      (hconflict : conflictingCharge p incoming = true) :
      Settlement env b p i s success response incoming now
        { b with attempts := b.attempts.update (p.mismatched response incoming) }
  /-- The result brings a charge id that belongs to another payment. -/
  | collided (hopen : p.Unsettled) (hbinds : bindsCharge p incoming = true) :
      Settlement env b p i s success response incoming now
        { b with attempts := b.attempts.update (p.collided response incoming) }
  /-- A FAILED attempt fails once more. -/
  | repeated (hopen : p.Unsettled) (hconflict : conflictingCharge p incoming = false)
      (hfailure : success = false) (hfailed : p.status = .failed) {row : PaymentAttempt}
      (hrow : row = p ∨ row = p.bound env response incoming) :
      Settlement env b p i s success response incoming now
        { b with attempts := b.attempts.update row }
  /-- A success cannot be applied. -/
  | inapplicable (hopen : p.Unsettled) (hconflict : conflictingCharge p incoming = false)
      (hsuccess : success = true) (hinapplicable : ¬ Applicable b p i s) :
      Settlement env b p i s success response incoming now
        { b with attempts := b.attempts.update (p.bound env response incoming).flagged }
  /-- A success pays the invoice. -/
  | applied (hopen : p.Unsettled) (hconflict : conflictingCharge p incoming = false)
      (hsuccess : success = true) (happlicable : Applicable b p i s) {s' : Subscription}
      (hs' : Reactivated (b.invoices.update (i.stamp .paid now)) s now s') :
      Settlement env b p i s success response incoming now
        { subscriptions := b.subscriptions.update s'
          invoices := b.invoices.update (i.stamp .paid now)
          attempts := b.attempts.update ((p.bound env response incoming).withStatus .success) }
  /-- A PENDING attempt fails, and with it its invoice. -/
  | declined (hopen : p.Unsettled) (hconflict : conflictingCharge p incoming = false)
      (hfailure : success = false) (hpending : p.status = .pending) (h : Declinable b i s) :
      Settlement env b p i s success response incoming now
        { subscriptions := b.subscriptions.update (s.declined now)
          invoices := b.invoices.update (i.declined now)
          attempts := b.attempts.update ((p.bound env response incoming).withStatus .failed) }
  /-- A PENDING attempt of a closed invoice fails. -/
  | declinedClosed (hopen : p.Unsettled) (hconflict : conflictingCharge p incoming = false)
      (hfailure : success = false) (hpending : p.status = .pending) (h : ¬ Declinable b i s) :
      Settlement env b p i s success response incoming now
        { b with
          attempts := b.attempts.update ((p.bound env response incoming).withStatus .failed) }

/-- A settlement of the attempt `p`, for the rows its invoice and its subscription have. -/
def Settles (env : Env) (b : Books) (p : PaymentAttempt) (success : Bool)
    (response : List (String × Json)) (incoming : Json) (now : DateTime) (b' : Books) : Prop :=
  p ∈ b.attempts ∧ ∃ i ∈ b.invoices, ∃ s ∈ b.subscriptions, i.id = p.invoiceId ∧
    s.id = i.subscriptionId ∧ Settlement env b p i s success response incoming now b'

/-! ## The subscription -/

namespace SubscriptionService

/-- `mark_overdue` writes the declined subscription over the stored one. -/
theorem markOverdue_eq_ok {db db' : Db} {s : Subscription} {now : DateTime}
    (h : markOverdue db s.id now = .ok db') (hs : s ∈ db.subscriptions) :
    db' = { db with subscriptions := db.subscriptions.update (s.declined now) } := by
  simp only [markOverdue, bind_eq_ok_iff, fetch_eq_ok_iff] at h
  obtain ⟨s₁, ⟨hs₁, hid⟩, h⟩ := h
  obtain rfl := Table.eq_of_key_eq hs₁ hs hid
  by_cases hactive : s₁.status = .active
  · rw [if_neg (not_not.mpr hactive)] at h
    simp only [bind_eq_ok_iff, pure_eq_ok_iff, Prod.exists] at h
    obtain ⟨db₁, s₂, htransition, rfl⟩ := h
    rw [Subscription.declined, if_pos hactive]
    exact (Subscription.transitionTo_eq_ok htransition hs).2.2
  · rw [if_pos hactive] at h
    rw [Subscription.declined, if_neg hactive, Table.update_self hs]
    exact (pure_eq_ok_iff.mp h).symm

/-- `reactivate` moves an OVERDUE subscription without arrears, and no other. -/
theorem reactivate_eq_ok {db db' : Db} {s : Subscription} {now : DateTime}
    (h : reactivate db s.id now = .ok db') (hs : s ∈ db.subscriptions) :
    ∃ s', Reactivated db.invoices s now s' ∧
      db' = { db with subscriptions := db.subscriptions.update s' } := by
  have hany : db.invoices.any (fun i => i.subscriptionId == s.id &&
      (i.status == .failed || i.status == .overdue)) = true ↔ InArrears db.invoices s := by
    simp [InArrears]
  simp only [reactivate, bind_eq_ok_iff, fetch_eq_ok_iff] at h
  obtain ⟨s₁, ⟨hs₁, hid⟩, h⟩ := h
  obtain rfl := Table.eq_of_key_eq hs₁ hs hid
  split_ifs at h with hoverdue harrears
  · refine ⟨s₁, .unchanged (Or.inl hoverdue), ?_⟩
    rw [Table.update_self hs]
    exact (pure_eq_ok_iff.mp h).symm
  · refine ⟨s₁, .unchanged (Or.inr (hany.mp harrears)), ?_⟩
    rw [Table.update_self hs]
    exact (pure_eq_ok_iff.mp h).symm
  · refine ⟨_, .active (not_not.mp hoverdue) (fun h => harrears (hany.mpr h)), ?_⟩
    split at h
    · rename_i db₁ s₂ htransition
      rw [← pure_eq_ok_iff.mp h]
      exact (Subscription.transitionTo_eq_ok htransition hs).2.2
    · rename_i message htransition
      -- an OVERDUE row under the lock does become ACTIVE
      exfalso
      have hget : db.subscriptions.get? s₁.id = some s₁ := Table.get?_key hs
      simp [Subscription.transitionTo, hget, not_not.mp hoverdue, subscriptionTransitions]
        at htransition
    · cases h

end SubscriptionService

/-! ## The attempt -/

namespace PaymentService

/-- The fields of every save of a settlement. -/
theorem settlement_subset {fields : List PaymentField}
    (h : fields.all (· ∈ settlementFields) = true) : ∀ f ∈ fields, f ∈ settlementFields := by
  simpa using h

/-- The charge id of a result is recorded, or the attempt is flagged for it. -/
theorem bindChargeId_eq_ok {env : Env} {db : Db} {p : PaymentAttempt} (hp : p ∈ db.attempts)
    {response : List (String × Json)} {incoming : Json} {binding : ChargeBinding}
    (h : bindChargeId env db p response incoming = .ok binding) :
    (∃ db₁, binding = .bound db₁ (p.bound env response incoming) ∧ ∃ row,
      (row = p ∨ row = p.bound env response incoming) ∧
      db₁ = { db with attempts := db.attempts.update row }) ∨
    (bindsCharge p incoming = true ∧
      binding = .collided { db with attempts := db.attempts.update (p.collided response incoming) })
    := by
  unfold bindChargeId at h
  dsimp only at h
  by_cases hbinds : bindsCharge p incoming = true
  · have hempty : p.providerChargeId = "" := by
      simp only [bindsCharge, Bool.and_eq_true, beq_iff_eq] at hbinds
      exact hbinds.2
    have hbound : { p with
        providerResponse := .obj response
        providerChargeId := env.columnText incoming } = p.bound env response incoming := by
      rw [PaymentAttempt.bound, if_pos hbinds]
    rw [if_pos (by exact hbinds)] at h
    simp only [hbound] at h
    split at h
    · rename_i db₁ hsave
      obtain ⟨stored, hstored, hid, -, rfl⟩ :=
        PaymentAttempt.save_eq_ok (settlement_subset rfl) hsave
      obtain rfl := Table.eq_of_key_eq hstored hp hid
      simp only [Except.ok.injEq] at h
      exact Or.inl ⟨_, h.symm, _, Or.inr rfl, rfl⟩
    · simp only [bind_eq_ok_iff, pure_eq_ok_iff] at h
      obtain ⟨db₁, hsave, rfl⟩ := h
      obtain ⟨stored, hstored, hid, -, rfl⟩ :=
        PaymentAttempt.save_eq_ok (settlement_subset rfl) hsave
      obtain rfl := Table.eq_of_key_eq hstored hp hid
      exact Or.inr ⟨hbinds, rfl⟩
    · cases h
  · have hbound : { p with providerResponse := .obj response } = p.bound env response incoming := by
      rw [PaymentAttempt.bound, if_neg hbinds]
    rw [if_neg (by exact hbinds)] at h
    simp only [hbound, Except.ok.injEq] at h
    exact Or.inl ⟨db, h.symm, p, Or.inl rfl, by rw [Table.update_self hp]⟩

/-- A further save of an attempt whose charge id has been dealt with: the row of the first save is
replaced. -/
theorem save_bound_eq_ok {env : Env} {db db' : Db} {p row : PaymentAttempt}
    (row' : PaymentAttempt) (hp : p ∈ db.attempts)
    {response : List (String × Json)} {incoming : Json}
    (hrow : row = p ∨ row = p.bound env response incoming) {fields : List PaymentField}
    (h : PaymentAttempt.save { db with attempts := db.attempts.update row } fields row' = .ok db')
    (hfields : fields.all (· ∈ settlementFields) = true) (hid : row'.id = p.id)
    (hmerge : p.merge fields row' = row' ∧
      (p.bound env response incoming).merge fields row' = row') :
    db' = { db with attempts := db.attempts.update row' } := by
  have hrowId : row.id = p.id := by rcases hrow with rfl | rfl <;> rfl
  have hmem : row ∈ db.attempts.update row := Table.mem_update_self hp hrowId
  obtain ⟨stored, hstored, hstoredId, -, rfl⟩ :=
    PaymentAttempt.save_eq_ok (settlement_subset hfields) h
  obtain rfl := Table.eq_of_key_eq hstored hmem (by simp [hstoredId, hid, hrowId])
  have hmerge' : stored.merge fields row' = row' := by
    rcases hrow with rfl | rfl
    · exact hmerge.1
    · exact hmerge.2
  have hupdate : (db.attempts.update stored).update row' = db.attempts.update row' :=
    Table.update_update (by simp [hid, hrowId])
  rw [hmerge']
  simp only [hupdate]

section

variable {env : Env} {db db' : Db} {p row : PaymentAttempt} {i : Invoice} {s : Subscription}
  {response : List (String × Json)} {incoming : Json} {now : DateTime}

/-- The test of `settle` for a success that can be applied. -/
theorem applicable_iff (hp : p ∈ db.attempts) (hrow : row.id = p.id) :
    (s.status != .canceled && decide i.Payable &&
      !(db.attempts.update row).any fun q =>
        q.invoiceId == i.id && q.status == .success && q.id != p.id) = true ↔
      Applicable db.books p i s := by
  simp only [Bool.and_eq_true, bne_iff_ne, decide_eq_true_eq, Bool.not_eq_true',
    Table.any_eq_false, Bool.and_eq_false_iff, beq_eq_false_iff_ne, bne_eq_false_iff_eq]
  constructor
  · rintro ⟨⟨hcanceled, hpayable⟩, hother⟩
    refine ⟨hcanceled, hpayable, ?_⟩
    intro q hq hinvoice hsuccess
    by_contra hne
    rcases hother q (Table.mem_update.mpr (Or.inr ⟨hq, by simpa [hrow] using hne⟩)) with
      (h | h) | h
    · exact h hinvoice
    · exact h hsuccess
    · exact hne h
  · rintro ⟨hcanceled, hpayable, hother⟩
    refine ⟨⟨hcanceled, hpayable⟩, ?_⟩
    intro q hq
    rcases (Table.mem_update_of_mem hp hrow).mp hq with rfl | ⟨hq, -⟩
    · exact Or.inr hrow
    · by_cases hinvoice : q.invoiceId = i.id
      · by_cases hsuccess : q.status = .success
        · exact Or.inr (hother q hq hinvoice hsuccess)
        · exact Or.inl (Or.inr hsuccess)
      · exact Or.inl (Or.inl hinvoice)

/-- The test of `settle` for a failure that reaches the invoice. -/
theorem declinable_iff (hp : p ∈ db.attempts) (hrow : row.id = p.id) (hopen : p.status ≠ .success)
    (hfailed : row.status ≠ .success) :
    (decide i.Payable && s.status != .canceled &&
      !(db.attempts.update row).any fun q => q.invoiceId == i.id && q.status == .success) = true ↔
      Declinable db.books i s := by
  simp only [Bool.and_eq_true, bne_iff_ne, decide_eq_true_eq, Bool.not_eq_true',
    Table.any_eq_false, Bool.and_eq_false_iff, beq_eq_false_iff_ne]
  constructor
  · rintro ⟨⟨hpayable, hcanceled⟩, hother⟩
    refine ⟨hcanceled, hpayable, ?_⟩
    intro q hq hinvoice hsuccess
    have hne : q ≠ p := by rintro rfl; exact hopen hsuccess
    rcases hother q ((Table.mem_update_of_mem hp hrow).mpr (Or.inr ⟨hq, hne⟩)) with h | h
    · exact h hinvoice
    · exact h hsuccess
  · rintro ⟨hcanceled, hpayable, hother⟩
    refine ⟨⟨hpayable, hcanceled⟩, ?_⟩
    intro q hq
    rcases (Table.mem_update_of_mem hp hrow).mp hq with rfl | ⟨hq, -⟩
    · exact Or.inr hfailed
    · by_cases hinvoice : q.invoiceId = i.id
      · exact Or.inr (hother q hq hinvoice)
      · exact Or.inl hinvoice

/-- A success whose charge id has been dealt with is applied, or flagged. -/
theorem applySuccess_eq_ok (hp : p ∈ db.attempts) (hi : i ∈ db.invoices)
    (hs : s ∈ db.subscriptions) (hopen : p.Unsettled)
    (hconflict : conflictingCharge p incoming = false)
    (hrow : row = p ∨ row = p.bound env response incoming)
    (h : applySuccess { db with attempts := db.attempts.update row } s i
      (p.bound env response incoming) now = .ok db') :
    ∃ b', Settlement env db.books p i s true response incoming now b' ∧
      db' = db.withBooks b' := by
  have hrowId : row.id = p.id := by rcases hrow with rfl | rfl <;> rfl
  have happlicable := applicable_iff (i := i) (s := s) hp hrowId
  unfold applySuccess at h
  dsimp only at h
  by_cases happ : Applicable db.books p i s
  · rw [show (p.bound env response incoming).id = p.id from rfl, happlicable.mpr happ,
      if_neg (by decide)] at h
    simp only [bind_eq_ok_iff] at h
    obtain ⟨db₁, hsave, db₂, hpaid, hreactivate⟩ := h
    obtain rfl := save_bound_eq_ok ((p.bound env response incoming).withStatus .success) hp hrow
      hsave rfl rfl ⟨rfl, rfl⟩
    obtain ⟨hstatus, -⟩ | ⟨-, rfl⟩ := InvoiceService.markPaid_eq_ok hpaid hi
    · have hpayable := happ.payable
      rw [Invoice.payable_iff, hstatus] at hpayable
      simp at hpayable
    · obtain ⟨s', hs', rfl⟩ := SubscriptionService.reactivate_eq_ok hreactivate hs
      exact ⟨_, .applied hopen hconflict rfl happ hs', rfl⟩
  · rw [show (p.bound env response incoming).id = p.id from rfl,
      Bool.eq_false_iff.mpr fun h => happ (happlicable.mp h), if_pos (by decide)] at h
    obtain rfl := save_bound_eq_ok (p.bound env response incoming).flagged hp hrow h rfl rfl
      ⟨rfl, rfl⟩
    exact ⟨_, .inapplicable hopen hconflict rfl happ, rfl⟩

/-- A failure of a PENDING attempt reaches its invoice, unless that is closed. -/
theorem applyFailure_eq_ok (hp : p ∈ db.attempts) (hi : i ∈ db.invoices)
    (hs : s ∈ db.subscriptions) (hopen : p.Unsettled)
    (hconflict : conflictingCharge p incoming = false) (hpending : p.status = .pending)
    (hrow : row = p ∨ row = p.bound env response incoming)
    (h : applyFailure { db with attempts := db.attempts.update row } s i
      (p.bound env response incoming) now = .ok db') :
    ∃ b', Settlement env db.books p i s false response incoming now b' ∧
      db' = db.withBooks b' := by
  simp only [applyFailure, bind_eq_ok_iff] at h
  obtain ⟨db₁, hsave, h⟩ := h
  obtain rfl := save_bound_eq_ok ((p.bound env response incoming).withStatus .failed) hp hrow
    hsave rfl rfl ⟨rfl, rfl⟩
  have hdeclinable : _ ↔ Declinable db.books i s := declinable_iff hp
    (show ((p.bound env response incoming).withStatus .failed).id = p.id from rfl) hopen.1
    PaymentStatus.noConfusion
  by_cases hdec : Declinable db.books i s
  · rw [if_pos (hdeclinable.mpr hdec)] at h
    obtain ⟨db₁, hfailed, hoverdue⟩ := bind_eq_ok_iff.mp h
    have hinvoices : db₁ = { db with
        attempts := db.attempts.update ((p.bound env response incoming).withStatus .failed)
        invoices := db.invoices.update (i.declined now) } := by
      unfold Invoice.declined
      obtain ⟨hissued, rfl⟩ | ⟨hissued, rfl⟩ := InvoiceService.markFailed_eq_ok hfailed hi
      · rw [if_neg hissued, Table.update_self hi]
      · rw [if_pos hissued]
    subst hinvoices
    obtain rfl := SubscriptionService.markOverdue_eq_ok hoverdue hs
    exact ⟨_, .declined hopen hconflict rfl hpending hdec, rfl⟩
  · rw [if_neg fun h => hdec (hdeclinable.mp h)] at h
    obtain rfl := pure_eq_ok_iff.mp h
    exact ⟨_, .declinedClosed hopen hconflict rfl hpending hdec, rfl⟩

end

/-- A settlement that commits does to the books one of the things of `Settlement`, and nothing
else. -/
theorem settle_eq_ok {env : Env} {db db' : Db} {paymentId : ℕ} {success : Bool}
    {response : List (String × Json)} {chargeId : String} {now : DateTime}
    (h : settle env db paymentId success response chargeId now = .ok db') :
    ∃ p b', p.id = paymentId ∧
      Settles env db.books p success response (incomingChargeId response chargeId) now b' ∧
      db' = db.withBooks b' := by
  simp only [settle, bind_eq_ok_iff, fetch_eq_ok_iff] at h
  obtain ⟨p, ⟨hp, hpid⟩, i, ⟨hi, hiid⟩, s, ⟨hs, hsid⟩, h⟩ := h
  generalize incomingChargeId response chargeId = incoming at h ⊢
  suffices hsettlement : ∃ b', Settlement env db.books p i s success response incoming now b' ∧
      db' = db.withBooks b' by
    obtain ⟨b', hb', hdb⟩ := hsettlement
    exact ⟨p, b', hpid, ⟨hp, i, hi, s, hs, hiid, hsid, hb'⟩, hdb⟩
  have hdone : (p.status == .success || p.needsReconciliation) = true ↔ ¬ p.Unsettled := by
    simp [PaymentAttempt.Unsettled, imp_iff_not_or]
  by_cases hearly : (!success && (p.status == .success || p.needsReconciliation)) = true
  · rw [if_pos hearly] at h
    simp only [Bool.and_eq_true, Bool.not_eq_true', hdone] at hearly
    obtain rfl := pure_eq_ok_iff.mp h
    exact ⟨_, .ignored hearly.2 (Or.inl hearly.1), rfl⟩
  rw [if_neg hearly] at h
  by_cases hconflict : conflictingCharge p incoming = true
  · rw [if_pos hconflict] at h
    obtain ⟨stored, hstored, hid, -, rfl⟩ :=
      PaymentAttempt.save_eq_ok (settlement_subset rfl) h
    obtain rfl := Table.eq_of_key_eq hstored hp hid
    refine ⟨_, .mismatched ?_ hconflict, rfl⟩
    by_contra hnot
    rw [not_or, ← hdone, Bool.not_eq_true] at hnot
    simp [hnot] at hearly
  rw [if_neg hconflict] at h
  rw [Bool.not_eq_true] at hconflict
  by_cases hsettled : (p.status == .success || p.needsReconciliation) = true
  · rw [if_pos hsettled] at h
    obtain rfl := pure_eq_ok_iff.mp h
    exact ⟨_, .ignored (hdone.mp hsettled) (Or.inr hconflict), rfl⟩
  have hopen : p.Unsettled := by
    by_contra hnot
    exact hsettled (hdone.mpr hnot)
  rw [if_neg hsettled] at h
  obtain ⟨binding, hbind, h⟩ := bind_eq_ok_iff.mp h
  obtain ⟨db₁, rfl, row, hrow, rfl⟩ | ⟨hbinds, rfl⟩ := bindChargeId_eq_ok hp hbind
  · dsimp only at h
    by_cases hrepeated : (!success && p.status == .failed) = true
    · rw [if_pos (by exact hrepeated)] at h
      simp only [Bool.and_eq_true, Bool.not_eq_true', beq_iff_eq] at hrepeated
      obtain rfl := pure_eq_ok_iff.mp h
      exact ⟨_, .repeated hopen hconflict hrepeated.1 hrepeated.2 hrow, rfl⟩
    · rw [if_neg (by exact hrepeated)] at h
      cases success with
      | true => exact applySuccess_eq_ok hp hi hs hopen hconflict hrow h
      | false =>
        have hpending : p.status = .pending := by
          have := hopen.1
          cases hstatus : p.status <;> simp_all
        exact applyFailure_eq_ok hp hi hs hopen hconflict hpending hrow h
  · obtain rfl := pure_eq_ok_iff.mp h
    exact ⟨_, .collided hopen hbinds, rfl⟩

/-- The payload of a valid webhook is an object, and its event id a text. -/
theorem validateWebhook_eq_ok {eventType payload : Json} {provider : String}
    {providerEventId : Json} {event : ValidWebhook}
    (h : validateWebhook eventType payload provider providerEventId = .ok event) :
    payload = .obj event.payload ∧ providerEventId = .str event.providerEventId := by
  simp only [validateWebhook, bind_eq_ok_iff] at h
  obtain ⟨-, -, eventId, heventId, type, -, h⟩ := h
  have hid : providerEventId = .str eventId := by
    unfold validText at heventId
    split at heventId
    · split_ifs at heventId
      rw [Except.ok.inj heventId]
    · cases heventId
  split at h
  · obtain ⟨-, -, h⟩ := bind_eq_ok_iff.mp h
    split_ifs at h
    · simp only [bind_eq_ok_iff, pure_eq_ok_iff] at h
      obtain ⟨-, -, -, -, rfl⟩ := h
      exact ⟨rfl, hid⟩
    · obtain rfl := pure_eq_ok_iff.mp h
      exact ⟨rfl, hid⟩
  · cases h

/-- A webhook that commits settles the attempt its payload names.  It leaves the books alone when it
is recorded already, or names no attempt. -/
theorem handleWebhook_eq_ok {env : Env} {db db' : Db} {eventType payload : Json}
    {provider : String} {providerEventId : Json} {now : DateTime}
    (h : handleWebhook env db eventType payload provider providerEventId now = .ok db') :
    ∃ event, validateWebhook eventType payload provider providerEventId = .ok event ∧
      db'.receipts = db.receipts ∧
      (db'.books = db.books ∧ ((∃ e ∈ db.webhookEvents, e.provider = provider ∧
          e.providerEventId = event.providerEventId) ∨ namedAttempt db event.payload = none) ∨
        ∃ p, namedAttempt db event.payload = some p ∧
          Settles env db.books p (payloadSuccess event.payload) event.payload
            (incomingChargeId event.payload (payloadChargeId event.payload)) now db'.books) := by
  simp only [handleWebhook, bind_eq_ok_iff] at h
  obtain ⟨event, hevent, h⟩ := h
  refine ⟨event, hevent, ?_⟩
  split_ifs at h with hseen
  · obtain rfl := pure_eq_ok_iff.mp h
    exact ⟨rfl, Or.inl ⟨rfl, Or.inl (by simpa using hseen)⟩⟩
  -- an event that is not recorded yet is created
  obtain ⟨db₁, webhook, hcreate, hdb₁⟩ : ∃ db₁ webhook, WebhookEvent.create db event.eventType
      provider event.providerEventId event.payload = .ok (db₁, webhook) ∧
      db₁ = { db with webhookEvents := db₁.webhookEvents } := by
    rw [Bool.not_eq_true] at hseen
    simp only [WebhookEvent.create, ensure, hseen, Bool.not_false, if_true, bind, Except.bind]
    exact ⟨_, _, rfl, rfl⟩
  rw [hcreate] at h
  dsimp only at h
  have hnamed : namedAttempt db₁ event.payload = namedAttempt db event.payload := by
    rw [hdb₁]
    rfl
  have hbooks : ∀ events, ({ db₁ with webhookEvents := events } : Db).books = db.books := by
    intro events
    rw [hdb₁]
    rfl
  rw [hnamed] at h
  cases hpayload : namedAttempt db event.payload with
  | none =>
    rw [hpayload] at h
    obtain rfl := pure_eq_ok_iff.mp h
    refine ⟨?_, Or.inl ⟨hbooks _, Or.inr rfl⟩⟩
    rw [hdb₁]
  | some p =>
    simp only [hpayload, bind_eq_ok_iff, pure_eq_ok_iff] at h
    obtain ⟨db₂, hsettle, rfl⟩ := h
    obtain ⟨q, b', hqid, hsettles, rfl⟩ := settle_eq_ok hsettle
    rw [hbooks] at hsettles
    have hpq : q = p := by
      refine Table.eq_of_key_eq hsettles.1 ?_ hqid
      unfold namedAttempt at hpayload
      split at hpayload
      · exact (Table.get?_eq_some_iff.mp hpayload).1
      · cases hpayload
    subst hpq
    refine ⟨?_, Or.inr ⟨q, rfl, hsettles⟩⟩
    rw [hdb₁]
    rfl

end PaymentService

end Chargeflow
