import Chargeflow.Books.Closing
import Chargeflow.System.Settling

/-!
# The end of arrears

A transaction settles at most one result of the provider (`Operation.result`), and in a reachable
database its effect on the books is a function of that result.  So the transactions that bring an
OVERDUE subscription back are known: they settle a success that is accepted for an invoice of the
subscription, when no other invoice of it is FAILED or OVERDUE.
-/

namespace Chargeflow

open Foundation PaymentService

/-- A result of the provider for the attempt `payment`. -/
structure ProviderResult where
  payment : PaymentAttempt
  success : Bool
  response : List (String × Json)
  incoming : Json
  now : DateTime

/-- The result that a transaction settles: its own, or that of a webhook which names an attempt and
is not recorded yet. -/
def Operation.result (db : Db) : Operation → Option ProviderResult
  | .settle paymentId success response chargeId now =>
    (db.attempts.get? paymentId).map fun p =>
      ⟨p, success, response, incomingChargeId response chargeId, now⟩
  | .webhook eventType payload provider providerEventId now =>
    match validateWebhook eventType payload provider providerEventId with
    | .error _ => none
    | .ok event =>
      if isRecorded db provider event.providerEventId then none
      else (namedAttempt db event.payload).map fun p =>
        ⟨p, payloadSuccess event.payload, event.payload,
          incomingChargeId event.payload (payloadChargeId event.payload), now⟩
  | _ => none

/-- A success is accepted for the attempt `p`: the attempt is open, the charge id contradicts none
and is no other attempt's, and the invoice can be paid. -/
structure Accepted (env : Env) (b : Books) (p : PaymentAttempt) (i : Invoice) (s : Subscription)
    (incoming : Json) : Prop where
  unsettled : p.Unsettled
  agrees : conflictingCharge p incoming = false
  free : ¬ (bindsCharge p incoming = true ∧ Taken b.attempts p (env.columnText incoming))
  applicable : Applicable b p i s

/-- No invoice of the subscription apart from `i` is FAILED or OVERDUE. -/
def LastInArrears (invoices : Table Invoice) (s : Subscription) (i : Invoice) : Prop :=
  ∀ j ∈ invoices, j.subscriptionId = s.id → j ≠ i → j.status ≠ .failed ∧ j.status ≠ .overdue

/-! ## The result of a transaction -/

section

variable {env : Env} {db db' : Db} {op : Operation} {r : ProviderResult}

/-- The attempt that a settlement is about is stored. -/
theorem Operation.result_mem (h : op.result db = some r) : r.payment ∈ db.attempts := by
  cases op with
  | settle paymentId success response chargeId now =>
    obtain ⟨p, hp, rfl⟩ := Option.map_eq_some_iff.mp h
    exact (Table.get?_eq_some_iff.mp hp).1
  | webhook eventType payload provider providerEventId now =>
    unfold Operation.result at h
    dsimp only at h
    split at h
    · cases h
    · split_ifs at h
      obtain ⟨p, hp, rfl⟩ := Option.map_eq_some_iff.mp h
      exact namedAttempt_mem hp
  | _ => cases h

/-- A transaction without a result of the provider does one of the things of `Lifecycle`. -/
theorem Operation.lifecycle_of_no_result (h : op.apply env db = .ok db')
    (hresult : op.result db = none) : Lifecycle op.readings db.books db'.books := by
  by_cases hop : op.bringsResult = false
  · exact (op.follows h hop).books
  cases op with
  | gateway request seen success chargeId =>
    obtain ⟨⟨db₁, result⟩, hrun, rfl⟩ := map_eq_ok_iff.mp h
    obtain ⟨fingerprint, r, -, hanswered, -⟩ := MockPaymentGateway.finishCharge_eq_ok hrun
    cases hanswered <;> exact .idle
  | settle paymentId success response chargeId now =>
    obtain ⟨p, b', rfl, ⟨hp, -⟩, -⟩ := settle_eq_ok h
    have hget : db.attempts.get? p.id = some p := Table.get?_key hp
    simp [Operation.result, hget] at hresult
  | webhook eventType payload provider providerEventId now =>
    obtain ⟨event, hvalid, hreceipts, ⟨hbooks, -⟩ | ⟨p, hnamed, -⟩⟩ := handleWebhook_eq_ok h
    · exact (Follows.idle hbooks hreceipts).books
    · simp only [Operation.result, hvalid, hnamed, Option.map_some] at hresult
      split_ifs at hresult with hrecorded
      have hlookup : handleWebhook env db eventType payload provider providerEventId now = _ := h
      rw [handleWebhook_eq, hvalid, ok_bind, if_pos hrecorded] at hlookup
      obtain rfl := pure_eq_ok_iff.mp hlookup
      exact .idle
  | _ => exact absurd rfl hop

/-- The effect on the books of a transaction with a result of the provider. -/
theorem Operation.books_of_result (hdb : db.Consistent) (h : op.apply env db = .ok db')
    (hresult : op.result db = some r) {i : Invoice} {s : Subscription} (hi : i ∈ db.invoices)
    (hpi : i.id = r.payment.invoiceId) (hs : s ∈ db.subscriptions)
    (hsi : s.id = i.subscriptionId) :
    db'.books = settledBooks env db.books r.payment i s r.success r.response r.incoming r.now := by
  cases op with
  | settle paymentId success response chargeId now =>
    obtain ⟨p, hget, rfl⟩ := Option.map_eq_some_iff.mp hresult
    obtain ⟨hp, rfl⟩ := Table.get?_eq_some_iff.mp hget
    have hsettle : PaymentService.settle env db p.id success response chargeId now = .ok db' := h
    rw [hdb.settle_eq hp hi hpi hs hsi] at hsettle
    split_ifs at hsettle
    exact congrArg Db.books (Except.ok.inj hsettle).symm
  | webhook eventType payload provider providerEventId now =>
    unfold Operation.result at hresult
    dsimp only at hresult
    split at hresult
    · cases hresult
    · rename_i event hvalid
      split_ifs at hresult with hrecorded
      obtain ⟨p, hnamed, rfl⟩ := Option.map_eq_some_iff.mp hresult
      have hnew : isRecorded db provider event.providerEventId = false := by simpa using hrecorded
      have hdelivery : handleWebhook env db eventType payload provider providerEventId now =
        .ok db' := h
      rw [handleWebhook_of_new hvalid hnew, recordWebhook_of_named hnew hnamed] at hdelivery
      obtain ⟨db₁, hsettle, hdb'⟩ := bind_eq_ok_iff.mp hdelivery
      have hevents := hdb.withEvents (db.webhookEvents.insert (receivedEvent db provider event))
      have houtcome : PaymentService.settle env _ p.id _ _ _ now = _ :=
        hevents.settle_eq (namedAttempt_mem hnamed) hi hpi hs hsi (payloadSuccess event.payload)
          event.payload (payloadChargeId event.payload) now
      rw [houtcome] at hsettle
      split_ifs at hsettle
      obtain rfl := Except.ok.inj hsettle
      obtain rfl := Except.ok.inj hdb'
      rfl
  | _ => cases hresult

end

/-! ## The subscription -/

section

variable {env : Env} {b b' : Books} {p : PaymentAttempt} {i : Invoice} {s t t' : Subscription}
  {response : List (String × Json)} {incoming : Json} {now : DateTime}

/-- After a payment, arrears are left if another invoice is in arrears. -/
theorem inArrears_paid (hi : i ∈ b.invoices) :
    ¬ InArrears (b.invoices.update (i.stamp .paid now)) s ↔ LastInArrears b.invoices s i := by
  constructor
  · intro h j hj hjs hne
    have hj' : j ∈ b.invoices.update (i.stamp .paid now) :=
      (Table.mem_update_of_mem hi (by rfl)).mpr (Or.inr ⟨hj, hne⟩)
    exact ⟨fun hfailed => h ⟨j, hj', hjs, Or.inl hfailed⟩,
      fun hoverdue => h ⟨j, hj', hjs, Or.inr hoverdue⟩⟩
  · rintro h ⟨j, hj, hjs, hstatus⟩
    rcases (Table.mem_update_of_mem hi (by rfl)).mp hj with rfl | ⟨hj, hne⟩
    · simp [Invoice.stamp] at hstatus
    · exact hstatus.elim (h j hj hjs hne).1 (h j hj hjs hne).2

/-- An accepted success pays the books. -/
theorem settledBooks_of_accepted (h : Accepted env b p i s incoming) :
    settledBooks env b p i s true response incoming now =
      paidBooks b (p.bound env response incoming) i s now := by
  unfold settledBooks
  rw [if_neg (by simp), if_neg (by simp [h.agrees]), if_neg (not_not.mpr h.unsettled),
    if_neg h.free, if_pos rfl, if_pos h.applicable]

/-- A transaction that settles an accepted success pays the invoice. -/
theorem Operation.paid_of_accepted {db db' : Db} {op : Operation} {r : ProviderResult}
    (hdb : db.Consistent) (hop : op.apply env db = .ok db') (hresult : op.result db = some r)
    (hsuccess : r.success = true) (hi : i ∈ db.invoices) (hpi : i.id = r.payment.invoiceId)
    (hs : s ∈ db.subscriptions) (hsi : s.id = i.subscriptionId)
    (h : Accepted env db.books r.payment i s r.incoming) :
    db'.invoices = db.invoices.update (i.stamp .paid r.now) ∧
      db'.subscriptions = db.subscriptions.update
        (s.reactivated (db.invoices.update (i.stamp .paid r.now)) r.now) := by
  have hbooks := op.books_of_result hdb hop hresult hi hpi hs hsi
  rw [hsuccess, settledBooks_of_accepted h] at hbooks
  exact ⟨congrArg Books.invoices hbooks, congrArg Books.subscriptions hbooks⟩

/-- A row that is updated from one that is not OVERDUE leaves the OVERDUE ones alone. -/
theorem overdue_update {subs : Table Subscription} {s' : Subscription} (hs : s ∈ subs)
    (hid : s'.id = s.id) (hstatus : s.status = .overdue → s'.status = .overdue) (ht : t ∈ subs)
    (ht' : t' ∈ subs.update s') (htt : t'.id = t.id) (hoverdue : t.status = .overdue) :
    t'.status = .overdue := by
  rcases Table.update_version hs hid ht ht' htt.symm with rfl | ⟨rfl, rfl⟩
  · exact hoverdue
  · exact hstatus hoverdue

/-- A decline leaves an OVERDUE subscription OVERDUE. -/
theorem declinedBooks_overdue {row : PaymentAttempt} (hs : s ∈ b.subscriptions)
    (ht : t ∈ b.subscriptions) (ht' : t' ∈ (declinedBooks b row i s now).subscriptions)
    (htt : t'.id = t.id) (hoverdue : t.status = .overdue) : t'.status = .overdue := by
  unfold declinedBooks at ht'
  split_ifs at ht'
  · refine overdue_update hs ?_ ?_ ht ht' htt hoverdue
    · unfold Subscription.declined
      split_ifs <;> rfl
    · intro hstatus
      rw [s.declined_status, hstatus]
      rfl
  · rwa [Table.eq_of_key_eq ht' ht htt]

/-- A result that is no accepted success leaves an OVERDUE subscription OVERDUE. -/
theorem settledBooks_overdue (hs : s ∈ b.subscriptions) {success : Bool}
    (h : ¬ (success = true ∧ Accepted env b p i s incoming)) (ht : t ∈ b.subscriptions)
    (ht' : t' ∈ (settledBooks env b p i s success response incoming now).subscriptions)
    (htt : t'.id = t.id) (hoverdue : t.status = .overdue) : t'.status = .overdue := by
  have hsame : t' ∈ b.subscriptions → t'.status = .overdue := by
    intro hmem
    rwa [Table.eq_of_key_eq hmem ht htt]
  unfold settledBooks at ht'
  by_cases hopen : p.Unsettled
  · rw [if_neg (fun h => h.2 hopen)] at ht'
    by_cases hconflict : conflictingCharge p incoming = true
    · rw [if_pos hconflict] at ht'
      exact hsame ht'
    rw [if_neg hconflict, if_neg (not_not.mpr hopen)] at ht'
    by_cases htaken : bindsCharge p incoming = true ∧ Taken b.attempts p (env.columnText incoming)
    · rw [if_pos htaken] at ht'
      exact hsame ht'
    rw [if_neg htaken] at ht'
    split_ifs at ht' with hsuccess happlicable hfailed
    · exact absurd ⟨hsuccess, hopen, by simpa using hconflict, htaken, happlicable⟩ h
    · exact hsame ht'
    · exact hsame ht'
    · exact hsame ht'
    · exact declinedBooks_overdue hs ht ht' htt hoverdue
  · split_ifs at ht' <;> exact hsame ht'

/-- Without a result of the provider an OVERDUE subscription does not become ACTIVE. -/
theorem Lifecycle.not_active {readings : List DateTime} (h : Lifecycle readings b b')
    (ht : t ∈ b.subscriptions) (ht' : t' ∈ b'.subscriptions) (htt : t'.id = t.id)
    (hoverdue : t.status = .overdue) : t'.status ≠ .active := by
  have hsame : t' ∈ b.subscriptions → t'.status ≠ .active := by
    intro hmem
    rw [Table.eq_of_key_eq hmem ht htt, hoverdue]
    decide
  have hstart : ∀ {s : Subscription}, PeriodStart readings b.subscriptions b'.subscriptions s →
      t'.status ≠ .active := by
    intro s hstart
    rcases hstart.rows ht' with rfl | ⟨hmem, -⟩
    · rcases hstart.origin with hnew | ⟨s₀, hs₀, hid, hstatus⟩
      · exact absurd (htt.symm.trans hnew) (Table.key_lt ht).ne
      · rw [Table.eq_of_key_eq hs₀ ht (hid.trans htt), hoverdue] at hstatus
        rcases hstatus with hstatus | hstatus <;> cases hstatus
    · exact hsame hmem
  have hclosed : ∀ {s : Subscription} {reason : CancellationReason} {now : DateTime},
      s ∈ b.subscriptions → t' ∈ b.subscriptions.update (s.close reason now) →
      t'.status ≠ .active := by
    intro s reason now hs hmem
    rcases (Table.mem_update_of_mem hs (by rfl)).mp hmem with rfl | ⟨hold, -⟩
    · exact SubscriptionStatus.noConfusion
    · exact hsame hold
  cases h with
  | trialed hstatus =>
    rcases Table.mem_insert.mp ht' with hmem | rfl
    · exact hsame hmem
    · exact absurd htt.symm (Table.key_lt ht).ne
  | covered h => exact hstart h
  | billed h => exact hstart h
  | canceled hs => exact hclosed hs ht'
  | exhausted _ _ _ hs => exact hclosed hs ht'
  | _ => exact hsame ht'

end

/-- In every reachable state, invoices are closed together with their subscription. -/
theorem Reaches.closedTogether {env : Env} {db : Db} (h : Reachable env db) :
    ClosedTogether db.books := by
  refine h.invariant (I := fun db => ClosedTogether db.books) ?_ ?_
  · intro i hi
    simp [Db.books, Db.empty] at hi
  · intro a b _ hclosed hstep
    obtain ⟨_, hbooks⟩ := hstep.books
    exact hbooks.closedTogether hclosed

end Chargeflow
