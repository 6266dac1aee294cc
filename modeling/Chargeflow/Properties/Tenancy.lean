import Chargeflow.System.Interleaving

/-!
# Structural tenancy

Every row belongs to the organization of its parents, and a webhook event to the one of the attempt
its payload names.  The saves of the models keep this next to each other and next to the services,
with one exception: `clean` of an invoice, an invoice line or a payment attempt returns at once when
the key of its parent is missing in memory, and the save may then write any organization.
-/

namespace Chargeflow

open Foundation

/-- In every interleaving of saves and services, starting from a state with structural tenancy, it
holds in every state, when no save moves a record whose parent is missing in memory. -/
theorem structural_tenancy {env : Env} {lookupKey : Json → Option ℕ}
    (hlookup : ∀ n : ℕ, 0 < n → lookupKey (.int n) = some n) {db : Db} (htenancy : Tenancy db)
    (hevents : EventsOwned lookupKey db) {v : Interleaved Db Save BillingRow}
    (hrun : Reaches (transactions env fun db save => save.Unmoved db).Step ⟨db, []⟩ v) :
    Tenancy v.state ∧ EventsOwned lookupKey v.state :=
  (transactions_guarded hlookup).invariant ⟨htenancy, hevents⟩ hrun

/-- The lookup by a JSON value that is an integer. -/
def sampleLookup : Json → Option ℕ
  | .int n => if 0 < n then some n.toNat else none
  | _ => none

/-- The sample looks a positive integer up as itself. -/
theorem sampleLookup_int (n : ℕ) (hn : 0 < n) : sampleLookup (.int n) = some n := by
  simp [sampleLookup, hn]

/-- A second customer without subscriptions, and a prepared charge. -/
def twoCustomers : Db :=
  Db.empty.after sampleEnv (subscribed ++ [.saveCustomer sampleCustomer,
    .prepare 1 none true "key_1" (sampleTime 0 2)])

/-- The sample with two customers keeps its tenants apart. -/
theorem twoCustomers_tenancy : Tenancy twoCustomers :=
  Reachable.tenancy (reaches_after sampleEnv Db.empty _)

/-- The sample with two customers has no webhook events. -/
theorem twoCustomers_events : EventsOwned sampleLookup twoCustomers := by
  intro e he
  exact absurd he (List.not_mem_nil (a := e))

/-- A webhook with the result of the prepared charge. -/
def chargeFailed : Operation :=
  .webhook (.str "payment") (.obj [("payment_attempt_id", .int 1), ("status", .str "failed"),
    ("provider_charge_id", .str "ch_1")]) "mock" (.str "evt_1") (sampleTime 0 3)

/-- The second customer, moved to another organization in memory. -/
def movedCustomer : Save := .customer ⟨some 2, .of 2, "cus_1", "pm_1"⟩ none

/-- A step that commits leads to the state it computes. -/
theorem eq_ok_getD {α : Type} {x : Except Err α} (a : α) (h : x.toOption.isSome = true) :
    x = .ok (x.toOption.getD a) := by
  cases x with
  | ok b => rfl
  | error e => simp [Except.toOption] at h

/-- The webhook is handled while the customer is being moved. -/
theorem structural_tenancy_moving :
    ∃ db, db.customers.any (fun c => c.organizationId == 2) = true ∧
      db.webhookEvents.any (fun e => e.organizationId == some 1) = true ∧
      Tenancy db ∧ EventsOwned sampleLookup db := by
  have hwebhook : chargeFailed.apply sampleEnv twoCustomers = .ok _ :=
    apply_eq_after chargeFailed (by decide)
  have hwrite := eq_ok_getD (x := movedCustomer.write (twoCustomers.after sampleEnv [chargeFailed]))
    twoCustomers (by decide)
  have hchecks : (transactions sampleEnv fun db save => save.Unmoved db).checks twoCustomers
      ⟨movedCustomer, movedCustomer.locks twoCustomers⟩ := by
    refine ⟨movedCustomer, ?_, trivial, rfl, rfl⟩
    intro n hn
    obtain rfl := Option.some.inj hn
    decide
  have hrun : Reaches (transactions sampleEnv fun db save => save.Unmoved db).Step ⟨twoCustomers, []⟩
      ⟨_, []⟩ :=
    .tail (.tail (.single (.check hchecks (by simp)))
      (.whole ⟨chargeFailed, rfl, hwebhook, rfl⟩ fun _ _ => Lock.Compatible.nil _))
      (.write (List.Perm.refl _) hwrite)
  exact ⟨_, by decide, by decide,
    structural_tenancy sampleLookup_int twoCustomers_tenancy twoCustomers_events hrun⟩

/-- The first invoice, with another organization and without its subscription. -/
def strayInvoice : Save :=
  .invoice ⟨some 1, .of 2, ⟨none, none⟩, .issued, 1999, "USD", sampleTime 0 0, sampleTime 1 0, none,
    none⟩ (some [.organization])

/-- The save of an invoice without its subscription in memory moves it to another organization. -/
theorem structural_tenancy_broken :
    ¬ ∀ (env : Env) (lookupKey : Json → Option ℕ),
      (∀ n : ℕ, 0 < n → lookupKey (.int n) = some n) →
      ∀ db, Tenancy db → EventsOwned lookupKey db → ∀ v : Interleaved Db Save BillingRow,
        Reaches (transactions env fun _ _ => True).Step ⟨db, []⟩ v →
        Tenancy v.state ∧ EventsOwned lookupKey v.state := by
  intro h
  have hwrite := eq_ok_getD (x := strayInvoice.write twoCustomers) twoCustomers (by decide)
  have hchecks : (transactions sampleEnv fun _ _ => True).checks twoCustomers ⟨strayInvoice, []⟩ := by
    refine ⟨strayInvoice, ⟨?_, ?_⟩, trivial, rfl, rfl⟩
    · intro n hn
      obtain rfl := Option.some.inj hn
      decide
    · intro n hn
      cases hn
  have hrun : Reaches (transactions sampleEnv fun _ _ => True).Step ⟨twoCustomers, []⟩ ⟨_, []⟩ :=
    .tail (.single (.check hchecks (by simp))) (.write (List.Perm.refl _) hwrite)
  have htenancy := (h sampleEnv sampleLookup sampleLookup_int twoCustomers twoCustomers_tenancy
    twoCustomers_events _ hrun).1.subscription
  have hstray : ∃ i ∈ ((strayInvoice.write twoCustomers).toOption.getD twoCustomers).invoices,
      ∀ s ∈ ((strayInvoice.write twoCustomers).toOption.getD twoCustomers).subscriptions,
        s.organizationId ≠ i.organizationId := by decide
  obtain ⟨i, hi, hother⟩ := hstray
  obtain ⟨s, hs, -, hsame⟩ := htenancy i hi
  exact hother s hs hsame

end Chargeflow
