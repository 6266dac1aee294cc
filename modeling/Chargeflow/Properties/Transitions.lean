import Chargeflow.System.Callers
import Chargeflow.System.Operations

/-!
# Status changes without locks

Any number of callers hold instances of invoices, or of subscriptions, that they read at some
earlier time, and call `transition_to` in any order.  A call moves the row along one edge from the
status of its instance, or raises and changes nothing; so the statuses of a row form a path of its
transition table, and its time stamps tell which statuses it took.
-/

namespace Chargeflow

open Foundation

/-- The transition tables hold for stale instances too, and the time stamps follow the path. -/
theorem transitions_follow_edges :
    ((∀ (db : Db) (i : Invoice) (newStatus : InvoiceStatus) (now : DateTime),
        (∃ row, db.invoices.get? i.id = some row ∧ row.status = i.status ∧
          newStatus ∈ invoiceTransitions i.status ∧
          i.callTransitionTo db newStatus now =
            (.ok (), { db with invoices := db.invoices.update (row.stamp newStatus now) },
              i.stamp newStatus now)) ∨
        ∃ message, i.callTransitionTo db newStatus now =
          (.error (.invalidStatusTransition message), db, i)) ∧
      ∀ (c : Callers Db Invoice) (n : ℕ) (row : Invoice), c.store.invoices.get? n = some row →
        ∀ events, ∃ row', Invoice.machine.Path n c events row row' ∧
          (row.issuedAt = none →
            (row'.issuedAt ≠ none ↔ .issued ∈ Invoice.machine.targets n c events)) ∧
          (row.paidAt = none →
            (row'.paidAt ≠ none ↔ .paid ∈ Invoice.machine.targets n c events))) ∧
    (∀ (db : Db) (s : Subscription) (newStatus : SubscriptionStatus) (now : DateTime),
        (∃ row, db.subscriptions.get? s.id = some row ∧ row.status = s.status ∧
          newStatus ∈ subscriptionTransitions s.status ∧
          s.callTransitionTo db newStatus now =
            (.ok (), { db with subscriptions := db.subscriptions.update (row.stamp newStatus now) },
              s.stamp newStatus now)) ∨
        ∃ message, s.callTransitionTo db newStatus now =
          (.error (.invalidStatusTransition message), db, s)) ∧
      ∀ (c : Callers Db Subscription) (n : ℕ) (row : Subscription),
        c.store.subscriptions.get? n = some row →
        ∀ events, ∃ row', Subscription.machine.Path n c events row row' ∧
          (row.canceledAt = none →
            (row'.canceledAt ≠ none ↔ .canceled ∈ Subscription.machine.targets n c events)) := by
  refine ⟨⟨?_, ?_⟩, ?_, ?_⟩
  · intro db i newStatus now
    by_cases h : newStatus ∈ invoiceTransitions i.status ∧
        ∃ row, db.invoices.get? i.id = some row ∧ row.status = i.status
    · obtain ⟨hedge, row, hrow, hstatus⟩ := h
      exact Or.inl ⟨row, hrow, hstatus, hedge,
        Invoice.callTransitionTo_accepts hedge hrow hstatus⟩
    · obtain ⟨_, ⟨message, rfl⟩, hcall⟩ := Invoice.machine.refuses (t := now) h
      exact Or.inr ⟨message, hcall⟩
  · intro c n row hrow events
    refine ⟨_, CompareAndSet.path_run (M := Invoice.machine) hrow events, ?_, ?_⟩
    · intro hnone
      rw [CompareAndSet.mark_moved Invoice.issuedAt .issued (fun _ _ _ => rfl)]
      simp [hnone, CompareAndSet.targets]
    · intro hnone
      rw [CompareAndSet.mark_moved Invoice.paidAt .paid (fun _ _ _ => rfl)]
      simp [hnone, CompareAndSet.targets]
  · intro db s newStatus now
    by_cases h : newStatus ∈ subscriptionTransitions s.status ∧
        ∃ row, db.subscriptions.get? s.id = some row ∧ row.status = s.status
    · obtain ⟨hedge, row, hrow, hstatus⟩ := h
      exact Or.inl ⟨row, hrow, hstatus, hedge,
        Subscription.callTransitionTo_accepts hedge hrow hstatus⟩
    · obtain ⟨_, ⟨message, rfl⟩, hcall⟩ := Subscription.machine.refuses (t := now) h
      exact Or.inr ⟨message, hcall⟩
  · intro c n row hrow events
    refine ⟨_, CompareAndSet.path_run (M := Subscription.machine) hrow events, ?_⟩
    intro hnone
    rw [CompareAndSet.mark_moved Subscription.canceledAt .canceled (fun _ _ _ => rfl)]
    simp [hnone, CompareAndSet.targets]

/-- Two callers read an ISSUED invoice.  The first one fails it, so the second one is refused; after
the first one has issued it again, the stale status of the second one is that of the row. -/
def racingCalls : List (CallerEvent InvoiceStatus DateTime) :=
  [.read 1, .read 1, .call 0 .failed (sampleTime 0 2), .call 1 .paid (sampleTime 0 3),
    .call 0 .issued (sampleTime 0 4), .call 1 .paid (sampleTime 0 5),
    .call 0 .canceled (sampleTime 0 6)]

/-- The racing calls take the invoice from FAILED over ISSUED to PAID. -/
theorem transitions_follow_edges_racing :
    Invoice.machine.targets 1 ⟨Db.empty.after sampleEnv subscribed, []⟩ racingCalls =
        [.failed, .issued, .paid] ∧
      ∃ row row', Invoice.machine.Path 1 ⟨Db.empty.after sampleEnv subscribed, []⟩ racingCalls
        row row' ∧ row'.paidAt ≠ none := by
  have htargets : Invoice.machine.targets 1 ⟨Db.empty.after sampleEnv subscribed, []⟩
      racingCalls = [.failed, .issued, .paid] := by decide
  obtain ⟨row, hrow, hid, hunpaid⟩ : ∃ row ∈ (Db.empty.after sampleEnv subscribed).invoices,
      row.id = 1 ∧ row.paidAt = none := by decide
  have hget : (Db.empty.after sampleEnv subscribed).invoices.get? 1 = some row :=
    Table.get?_eq_some_iff.mpr ⟨hrow, hid⟩
  obtain ⟨row', hpath, -, hpaid⟩ := transitions_follow_edges.1.2
    ⟨Db.empty.after sampleEnv subscribed, []⟩ 1 row hget racingCalls
  exact ⟨htargets, row, row', hpath, (hpaid hunpaid).mpr (by rw [htargets]; decide)⟩

end Chargeflow
