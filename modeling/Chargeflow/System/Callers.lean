import Chargeflow.Foundation.CompareAndSet
import Chargeflow.Database

/-!
# Callers of `transition_to`

`transition_to` statement by statement: the check on the instance in memory, the filtered update of
the row, and the assignments to the instance.  The check and the assignments touch nothing but the
caller's own instance, so a call takes effect at once, at its filtered update.  What it leaves
behind when it raises is part of its result.
-/

namespace Chargeflow

open Foundation

/-- `Invoice.transition_to`, with the database and the instance it leaves behind. -/
def Invoice.callTransitionTo (db : Db) (i : Invoice) (newStatus : InvoiceStatus) (now : DateTime) :
    Except Err Unit × Db × Invoice :=
  let (result, invoices, i') := db.invoices.transition Invoice.status invoiceTransitions
    Invoice.stamp (cannotTransition i.status.value newStatus.value)
    (changedUnderneath "Invoice" i.status.value newStatus.value) i newStatus now
  (result, { db with invoices := invoices }, i')

/-- `Subscription.transition_to`, with the database and the instance it leaves behind. -/
def Subscription.callTransitionTo (db : Db) (s : Subscription) (newStatus : SubscriptionStatus)
    (now : DateTime) : Except Err Unit × Db × Subscription :=
  let (result, subscriptions, s') := db.subscriptions.transition Subscription.status
    subscriptionTransitions Subscription.stamp (cannotTransition s.status.value newStatus.value)
    (changedUnderneath "Subscription" s.status.value newStatus.value) s newStatus now
  (result, { db with subscriptions := subscriptions }, s')

/-! ## Invoices -/

section

variable {db : Db} {i row : Invoice} {newStatus : InvoiceStatus} {now : DateTime}

/-- A call along an edge from the stored status stamps the row and the instance. -/
theorem Invoice.callTransitionTo_accepts (hedge : newStatus ∈ invoiceTransitions i.status)
    (hrow : db.invoices.get? i.id = some row) (hstatus : row.status = i.status) :
    i.callTransitionTo db newStatus now =
      (.ok (), { db with invoices := db.invoices.update (row.stamp newStatus now) },
        i.stamp newStatus now) := by
  unfold Invoice.callTransitionTo
  rw [Table.transition_accepts hedge hrow hstatus]

/-- Any other call changes neither the row nor the instance. -/
theorem Invoice.callTransitionTo_refuses (h : ¬ (newStatus ∈ invoiceTransitions i.status ∧
      ∃ row, db.invoices.get? i.id = some row ∧ row.status = i.status)) :
    i.callTransitionTo db newStatus now =
      (.error (if newStatus ∈ invoiceTransitions i.status then
        changedUnderneath "Invoice" i.status.value newStatus.value
        else cannotTransition i.status.value newStatus.value), db, i) := by
  unfold Invoice.callTransitionTo
  rw [Table.transition_refuses h]

/-- The services call `transition_to` in a transaction, which aborts when the call raises. -/
theorem Invoice.transitionTo_eq_call (db : Db) (i : Invoice) (newStatus : InvoiceStatus)
    (now : DateTime) :
    i.transitionTo db newStatus now =
      match i.callTransitionTo db newStatus now with
      | (.ok (), db', i') => .ok (db', i')
      | (.error e, _, _) => .error e := by
  by_cases h : newStatus ∈ invoiceTransitions i.status ∧
      ∃ row, db.invoices.get? i.id = some row ∧ row.status = i.status
  · obtain ⟨hedge, row, hrow, hstatus⟩ := h
    rw [callTransitionTo_accepts hedge hrow hstatus]
    simp only [transitionTo, if_pos hedge, hrow, if_pos hstatus]
  · rw [callTransitionTo_refuses h]
    unfold transitionTo
    by_cases hedge : newStatus ∈ invoiceTransitions i.status
    · rw [if_pos hedge, if_pos hedge]
      cases hrow : db.invoices.get? i.id with
      | none => rfl
      | some row => exact if_neg fun hstatus => h ⟨hedge, row, hrow, hstatus⟩
    · rw [if_neg hedge, if_neg hedge]

/-- The status machine of the invoices. -/
def Invoice.machine : CompareAndSet Db Invoice InvoiceStatus DateTime Err where
  find db n := db.invoices.get? n
  key := Invoice.id
  status := Invoice.status
  edges := invoiceTransitions
  stamp := Invoice.stamp
  Refusal e := ∃ message, e = .invalidStatusTransition message
  transitionTo db i newStatus now := i.callTransitionTo db newStatus now
  status_stamp _ _ _ := rfl
  accepts hedge hrow hstatus :=
    ⟨_, Invoice.callTransitionTo_accepts hedge hrow hstatus,
      fun n => Table.get?_update hrow (by rfl) n⟩
  refuses h := by
    refine ⟨_, ?_, Invoice.callTransitionTo_refuses h⟩
    split_ifs
    · exact ⟨_, rfl⟩
    · exact ⟨_, rfl⟩

end

/-! ## Subscriptions -/

section

variable {db : Db} {s row : Subscription} {newStatus : SubscriptionStatus} {now : DateTime}

/-- A call along an edge from the stored status stamps the row and the instance. -/
theorem Subscription.callTransitionTo_accepts (hedge : newStatus ∈ subscriptionTransitions s.status)
    (hrow : db.subscriptions.get? s.id = some row) (hstatus : row.status = s.status) :
    s.callTransitionTo db newStatus now =
      (.ok (), { db with subscriptions := db.subscriptions.update (row.stamp newStatus now) },
        s.stamp newStatus now) := by
  unfold Subscription.callTransitionTo
  rw [Table.transition_accepts hedge hrow hstatus]

/-- Any other call changes neither the row nor the instance. -/
theorem Subscription.callTransitionTo_refuses (h : ¬ (newStatus ∈ subscriptionTransitions s.status ∧
      ∃ row, db.subscriptions.get? s.id = some row ∧ row.status = s.status)) :
    s.callTransitionTo db newStatus now =
      (.error (if newStatus ∈ subscriptionTransitions s.status then
        changedUnderneath "Subscription" s.status.value newStatus.value
        else cannotTransition s.status.value newStatus.value), db, s) := by
  unfold Subscription.callTransitionTo
  rw [Table.transition_refuses h]

/-- `transition_to` is the call whose error ends the transaction. -/
theorem Subscription.transitionTo_eq_call (db : Db) (s : Subscription)
    (newStatus : SubscriptionStatus) (now : DateTime) :
    s.transitionTo db newStatus now =
      match s.callTransitionTo db newStatus now with
      | (.ok (), db', s') => .ok (db', s')
      | (.error e, _, _) => .error e := by
  by_cases h : newStatus ∈ subscriptionTransitions s.status ∧
      ∃ row, db.subscriptions.get? s.id = some row ∧ row.status = s.status
  · obtain ⟨hedge, row, hrow, hstatus⟩ := h
    rw [callTransitionTo_accepts hedge hrow hstatus]
    simp only [transitionTo, if_pos hedge, hrow, if_pos hstatus]
  · rw [callTransitionTo_refuses h]
    unfold transitionTo
    by_cases hedge : newStatus ∈ subscriptionTransitions s.status
    · rw [if_pos hedge, if_pos hedge]
      cases hrow : db.subscriptions.get? s.id with
      | none => rfl
      | some row => exact if_neg fun hstatus => h ⟨hedge, row, hrow, hstatus⟩
    · rw [if_neg hedge, if_neg hedge]

/-- The status machine of the subscriptions. -/
def Subscription.machine : CompareAndSet Db Subscription SubscriptionStatus DateTime Err where
  find db n := db.subscriptions.get? n
  key := Subscription.id
  status := Subscription.status
  edges := subscriptionTransitions
  stamp := Subscription.stamp
  Refusal e := ∃ message, e = .invalidStatusTransition message
  transitionTo db s newStatus now := s.callTransitionTo db newStatus now
  status_stamp _ _ _ := rfl
  accepts hedge hrow hstatus :=
    ⟨_, Subscription.callTransitionTo_accepts hedge hrow hstatus,
      fun n => Table.get?_update hrow (by rfl) n⟩
  refuses h := by
    refine ⟨_, ?_, Subscription.callTransitionTo_refuses h⟩
    split_ifs
    · exact ⟨_, rfl⟩
    · exact ⟨_, rfl⟩

end

end Chargeflow
