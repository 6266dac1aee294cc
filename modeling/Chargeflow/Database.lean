import Chargeflow.Domain.Subscriptions
import Chargeflow.Domain.Invoices
import Chargeflow.Domain.Payments
import Chargeflow.Foundation.Transitions

/-!
# The database

The tables of the billing system, the errors a service may raise, and the parts of Python's library
the services call and whose results they only compare.  A service is a function from the database to
`Except Err`: an error aborts the transaction, so the caller keeps the database it had.

The row locks of the services make the transactions on one subscription run one after another; here
a transaction runs in one piece.  `chargeTasks` is the log of the `charge_invoice.delay` calls that
committed transactions made.
-/

namespace Chargeflow

open Foundation

/-- The exceptions a service may raise, with their messages. -/
inductive Err where
  | doesNotExist (model : String)
  | invalidStatusTransition (message : String)
  | valueError (message : String)
  | validationError (message : String)
  | integrityError (constraint : String)
  | dataError (column : String)
  /-- `decimal.InvalidOperation`. -/
  | invalidOperation
  | overflowError (message : String)
  | runtimeError (message : String)
  | invoiceNotPayable (message : String)
  | idempotencyConflict (message : String)
  deriving DecidableEq

/-- What the services take from the Python library without looking inside. -/
structure Env where
  /-- The hexadecimal SHA-256 digest of the UTF-8 bytes of a text. -/
  sha256 : String → String
  /-- `str` of a value that is not a text, as a text column stores it. -/
  str : Json → String

/-- The text a text column stores for a value. -/
def Env.columnText (env : Env) : Json → String
  | .str s => s
  | v => env.str v

/-- The tables of the billing part, and what has been handed to the worker. -/
structure Db where
  plans : Table Plan
  customers : Table Customer
  subscriptions : Table Subscription
  invoices : Table Invoice
  invoiceLines : Table InvoiceLine
  attempts : Table PaymentAttempt
  webhookEvents : Table WebhookEvent
  receipts : Table MockChargeReceipt
  /-- The invoices handed to the charge worker so far. -/
  chargeTasks : List ℕ

/-- The database without rows. -/
def Db.empty : Db where
  plans := Table.empty
  customers := Table.empty
  subscriptions := Table.empty
  invoices := Table.empty
  invoiceLines := Table.empty
  attempts := Table.empty
  webhookEvents := Table.empty
  receipts := Table.empty
  chargeTasks := []

/-- `objects.get(pk=...)`. -/
def fetch {α : Type} [Keyed α] (t : Table α) (model : String) (n : ℕ) : Except Err α :=
  match t.get? n with
  | some a => .ok a
  | none => .error (.doesNotExist model)

/-- A row is fetched exactly when it is in the table under that key. -/
theorem fetch_eq_ok_iff {α : Type} [Keyed α] {t : Table α} {model : String} {n : ℕ} {a : α} :
    fetch t model n = .ok a ↔ a ∈ t ∧ key a = n := by
  rw [← Table.get?_eq_some_iff]
  unfold fetch
  cases t.get? n <;> simp

/-- A stored row is fetched under its own key. -/
theorem fetch_key {α : Type} [Keyed α] {t : Table α} {model : String} {a : α} (ha : a ∈ t) :
    fetch t model (key a) = .ok a :=
  fetch_eq_ok_iff.mpr ⟨ha, rfl⟩

/-- A check that aborts the transaction when it fails. -/
def ensure (holds : Bool) (e : Err) : Except Err Unit :=
  if holds then .ok () else .error e

/-- A check passes exactly when its condition holds. -/
@[simp] theorem ensure_eq_ok_iff {holds : Bool} {e : Err} {u : Unit} :
    ensure holds e = .ok u ↔ holds = true := by
  cases holds <;> simp [ensure]

/-- The message of a transition the table of transitions does not allow. -/
def cannotTransition (current new : String) : Err :=
  .invalidStatusTransition ("Cannot transition from '" ++ current ++ "' to '" ++ new ++ "'")

/-- The message of a transition that lost its compare-and-set. -/
def changedUnderneath (model current new : String) : Err :=
  .invalidStatusTransition
    (model ++ " changed from '" ++ current ++ "' underneath the transition to '" ++ new ++ "'")

/-! ## Status transitions -/

/-- `Subscription.transition_to`, on an instance in memory that may be stale: the target is checked
against the status in memory, and the row is written only if it still has that status. -/
def Subscription.transitionTo (db : Db) (s : Subscription) (newStatus : SubscriptionStatus)
    (now : DateTime) : Except Err (Db × Subscription) :=
  if newStatus ∈ subscriptionTransitions s.status then
    match db.subscriptions.get? s.id with
    | some row =>
      if row.status = s.status then
        .ok ({ db with subscriptions := db.subscriptions.update (row.stamp newStatus now) },
          s.stamp newStatus now)
      else .error (changedUnderneath "Subscription" s.status.value newStatus.value)
    | none => .error (changedUnderneath "Subscription" s.status.value newStatus.value)
  else .error (cannotTransition s.status.value newStatus.value)

/-- `Invoice.transition_to`, on an instance in memory that may be stale. -/
def Invoice.transitionTo (db : Db) (i : Invoice) (newStatus : InvoiceStatus) (now : DateTime) :
    Except Err (Db × Invoice) :=
  if newStatus ∈ invoiceTransitions i.status then
    match db.invoices.get? i.id with
    | some row =>
      if row.status = i.status then
        .ok ({ db with invoices := db.invoices.update (row.stamp newStatus now) },
          i.stamp newStatus now)
      else .error (changedUnderneath "Invoice" i.status.value newStatus.value)
    | none => .error (changedUnderneath "Invoice" i.status.value newStatus.value)
  else .error (cannotTransition i.status.value newStatus.value)

/-- A stored subscription moves along an edge of its transition table. -/
theorem Subscription.transitionTo_eq_ok {db db' : Db} {s s' : Subscription}
    {newStatus : SubscriptionStatus} {now : DateTime}
    (h : s.transitionTo db newStatus now = .ok (db', s')) (hs : s ∈ db.subscriptions) :
    newStatus ∈ subscriptionTransitions s.status ∧ s' = s.stamp newStatus now ∧
      db' = { db with subscriptions := db.subscriptions.update (s.stamp newStatus now) } := by
  have hget : db.subscriptions.get? s.id = some s := Table.get?_key hs
  unfold Subscription.transitionTo at h
  rw [hget] at h
  split_ifs at h with hmem
  simp only [if_true, Except.ok.injEq, Prod.mk.injEq] at h
  exact ⟨hmem, h.2.symm, h.1.symm⟩

/-- A stored invoice moves along an edge of its transition table. -/
theorem Invoice.transitionTo_eq_ok {db db' : Db} {i i' : Invoice} {newStatus : InvoiceStatus}
    {now : DateTime} (h : i.transitionTo db newStatus now = .ok (db', i'))
    (hi : i ∈ db.invoices) :
    newStatus ∈ invoiceTransitions i.status ∧ i' = i.stamp newStatus now ∧
      db' = { db with invoices := db.invoices.update (i.stamp newStatus now) } := by
  have hget : db.invoices.get? i.id = some i := Table.get?_key hi
  unfold Invoice.transitionTo at h
  rw [hget] at h
  split_ifs at h with hmem
  simp only [if_true, Except.ok.injEq, Prod.mk.injEq] at h
  exact ⟨hmem, h.2.symm, h.1.symm⟩

end Chargeflow
