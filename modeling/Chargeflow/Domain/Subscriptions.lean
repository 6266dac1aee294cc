import Chargeflow.Foundation.Table
import Chargeflow.Foundation.Calendar

/-!
# Plans, customers and subscriptions

The rows of the plan, customer and subscription tables, and the status machine of a subscription.
Columns that no billing service reads (names of customers, descriptions of plans, the creation and
update stamps) are left out.
-/

namespace Chargeflow

open Foundation

/-- `PlanStatus`. -/
inductive PlanStatus where
  | active
  | archived
  deriving DecidableEq

/-- The text stored for a plan status. -/
def PlanStatus.value : PlanStatus → String
  | active => "active"
  | archived => "archived"

/-- The billing interval of a plan.  The column is a plain text: the listed choices are not
enforced by the database, so any other text may stand in it. -/
inductive PlanInterval where
  | day
  | week
  | month
  | year
  | other (text : String)
  deriving DecidableEq

/-- A row of the plan table.  The price is a number of hundredths, as the column has two decimal
places. -/
structure Plan where
  id : ℕ
  organizationId : ℕ
  name : String
  price : ℤ
  currency : String
  status : PlanStatus
  interval : PlanInterval
  trialPeriodDays : ℤ

/-- A row of the customer table. -/
structure Customer where
  id : ℕ
  organizationId : ℕ
  providerCustomerId : String
  providerPaymentMethodId : String

/-- `SubscriptionStatus`. -/
inductive SubscriptionStatus where
  | trial
  | active
  | overdue
  | canceled
  deriving DecidableEq

/-- The text stored for a subscription status. -/
def SubscriptionStatus.value : SubscriptionStatus → String
  | trial => "trial"
  | active => "active"
  | overdue => "overdue"
  | canceled => "canceled"

/-- `CancellationReason`. -/
inductive CancellationReason where
  | voluntary
  | nonPayment
  deriving DecidableEq

/-- `SUBSCRIPTION_TRANSITIONS`: the statuses a subscription may move to. -/
def subscriptionTransitions : SubscriptionStatus → List SubscriptionStatus
  | .trial => [.active, .canceled]
  | .active => [.overdue, .canceled]
  | .overdue => [.active, .canceled]
  | .canceled => []

/-- A row of the subscription table. -/
structure Subscription where
  id : ℕ
  organizationId : ℕ
  customerId : ℕ
  planId : ℕ
  status : SubscriptionStatus
  currentPeriodStart : DateTime
  currentPeriodEnd : DateTime
  canceledAt : Option DateTime
  canceledReason : Option CancellationReason

/-- The primary key of a plan. -/
instance : Keyed Plan := ⟨Plan.id, fun n p => { p with id := n }, fun _ _ => rfl⟩

/-- The primary key of a customer. -/
instance : Keyed Customer := ⟨Customer.id, fun n c => { c with id := n }, fun _ _ => rfl⟩

/-- The primary key of a subscription. -/
instance : Keyed Subscription := ⟨Subscription.id, fun n s => { s with id := n }, fun _ _ => rfl⟩

/-- The key of a subscription, as a field. -/
@[simp] theorem key_subscription (s : Subscription) : key s = s.id := rfl

/-- The fields `transition_to` writes: the status, and the cancellation time when it cancels. -/
def Subscription.stamp (s : Subscription) (newStatus : SubscriptionStatus) (now : DateTime) :
    Subscription :=
  { s with
    status := newStatus
    canceledAt := if newStatus = .canceled then some now else s.canceledAt }

end Chargeflow
