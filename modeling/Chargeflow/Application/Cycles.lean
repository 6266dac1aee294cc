import Chargeflow.Application.SubscriptionService

/-!
# The renewal and activation cycles

A cycle lists the subscriptions it is about and runs its handler for each of them, in a transaction
of its own.  The list is in any order.  Apart from what the handler does, a call of it may fail for
reasons of its own, which are given by the subscription.
-/

namespace Chargeflow

open Foundation

/-- What ends a call of a handler before its transaction commits. -/
inductive Raised where
  | operationalError
  | softTimeLimitExceeded
  | exception (e : Err)
  deriving DecidableEq

/-- `_run_batch`: the handler runs for one subscription after the other.  An exception is logged,
but a database error and the soft time limit end the batch. -/
def runBatch (handler : Db → ℕ → Except Raised Db) (db : Db) : List ℕ → Db × Option Raised
  | [] => (db, none)
  | subscriptionId :: subscriptionIds =>
    match handler db subscriptionId with
    | .ok db' => runBatch handler db' subscriptionIds
    | .error .operationalError => (db, some .operationalError)
    | .error .softTimeLimitExceeded => (db, some .softTimeLimitExceeded)
    | .error (.exception _) => runBatch handler db subscriptionIds

/-- The two cycles. -/
inductive Cycle where
  | renewals
  | activations
  deriving DecidableEq

namespace Cycle

/-- The status of the subscriptions that a cycle is about. -/
def status : Cycle → SubscriptionStatus
  | renewals => .active
  | activations => .trial

/-- The filter of `run_renewals` and `run_trial_activations`. -/
def selects (cycle : Cycle) (now : DateTime) (s : Subscription) : Bool :=
  s.status == cycle.status && decide (s.currentPeriodEnd ≤ now)

/-- `due_ids` and `expired_ids`. -/
def ids (cycle : Cycle) (db : Db) (now : DateTime) : List ℕ :=
  (db.subscriptions.filter (cycle.selects now)).map Subscription.id

/-- `_renew_if_still_due` and `_activate_if_still_expired`, with one reading of the clock. -/
def handler (cycle : Cycle) (now : DateTime) (db : Db) (subscriptionId : ℕ) : Except Err Db :=
  match cycle with
  | renewals => SubscriptionService.renewIfStillDue db subscriptionId now now now now
  | activations => SubscriptionService.activateIfStillExpired db subscriptionId now now now

/-- The handler, where some calls fail for other reasons. -/
def handlerRaising (raises : ℕ → Option Raised) (cycle : Cycle) (now : DateTime) (db : Db)
    (subscriptionId : ℕ) : Except Raised Db :=
  match raises subscriptionId with
  | some e => .error e
  | none => (cycle.handler now db subscriptionId).mapError .exception

/-- `run_renewals` and `run_trial_activations`, once the subscriptions are listed. -/
def run (raises : ℕ → Option Raised) (cycle : Cycle) (now : DateTime) (db : Db)
    (subscriptionIds : List ℕ) : Db × Option Raised :=
  runBatch (cycle.handlerRaising raises now) db subscriptionIds

end Cycle

end Chargeflow
