import Chargeflow.Effects.Cycles
import Chargeflow.Foundation.Renaming
import Chargeflow.System.Clock

/-!
# Runs of a cycle

A run of a cycle applies the bills of the subscriptions it lists, one after the other, and leaves
out those whose handler fails.  The bill of a subscription is the same before and after the others
are applied, and the order of the bills changes nothing but the keys of the new rows.
-/

namespace Chargeflow

open Foundation

variable {env : Env} {db : Db} {now : DateTime}

/-! ## Bills -/

/-- The database after some bills. -/
def applyBills (now : DateTime) (db : Db) (bills : List Bill) : Db :=
  bills.foldl (Bill.apply now) db

/-- The bill of a subscription in a run, if its handler does not fail. -/
def Cycle.billOf (raises : ℕ → Option Raised) (now : DateTime) (db : Db) (subscriptionId : ℕ) :
    Option Bill :=
  match raises subscriptionId with
  | some _ => none
  | none => (db.subscriptions.get? subscriptionId).bind (nextBill db now)

/-- All bills at once: the new invoices and lines stand behind the old ones, in the order of the
bills. -/
theorem applyBills_eq (now : DateTime) (db : Db) (bills : List Bill) :
    applyBills now db bills = { db with
      subscriptions := db.subscriptions.updateAll (bills.map Bill.subscription)
      invoices := db.invoices.insertAll (bills.map (Bill.invoice · now))
      invoiceLines := db.invoiceLines.insertAll
        (bills.mapIdx fun k b => b.line (db.invoices.next + k))
      chargeTasks :=
        db.chargeTasks ++ (List.range bills.length).map (db.invoices.next + ·) } := by
  induction bills generalizing db with
  | nil => simp [applyBills, Table.updateAll, Table.insertAll]
  | cons b bills ih =>
    have hlines : (bills.mapIdx fun k b => b.line (db.invoices.next + 1 + k)) =
        bills.mapIdx fun k b => b.line (db.invoices.next + (k + 1)) := by
      simp only [Nat.add_assoc, Nat.add_comm 1]
    have htasks : (List.range bills.length).map (db.invoices.next + 1 + ·) =
        ((List.range bills.length).map Nat.succ).map (db.invoices.next + ·) := by
      rw [List.map_map]
      refine List.map_congr_left fun k _ => ?_
      rw [Function.comp_apply, Nat.succ_eq_add_one, Nat.add_assoc, Nat.add_comm 1]
    have hrest := ih (b.apply now db)
    have hnext : (b.apply now db).invoices.next = db.invoices.next + 1 := rfl
    rw [hnext, hlines, htasks] at hrest
    refine hrest.trans ?_
    rw [List.mapIdx_cons, List.length_cons, List.range_succ_eq_map]
    simp only [Bill.apply, Bill.issue, List.map_cons, Nat.add_zero, List.append_assoc,
      List.singleton_append]
    rfl

/-! ## A run -/

/-- The handler of a listed subscription applies its bill, or raises. -/
theorem Cycle.handler_of_reaches {cycle : Cycle} (h : Reaches (ClockedStep env) Db.empty db)
    {s : Subscription} (hs : s ∈ db.subscriptions) (hselects : cycle.selects now s = true) :
    match nextBill db now s with
    | some b => cycle.handler now db s.id = .ok (b.apply now db)
    | none => ∃ e, cycle.handler now db s.id = .error e := by
  have hreach : Reachable env db := h.mono fun _ _ => ClockedStep.step
  refine handler_of_selects hreach.tenancy hs hselects ?_
  have hlisted := hselects
  unfold selects at hlisted
  rw [Bool.and_eq_true, beq_iff_eq, decide_eq_true_eq] at hlisted
  refine Reaches.ended h hs ?_ hlisted.2
  cases cycle with
  | renewals => exact Or.inl hlisted.1
  | activations => exact Or.inr hlisted.1

/-- A handler that returns is a transaction of the system. -/
theorem Cycle.clockedStep_of_handler {cycle : Cycle} {db' : Db} {subscriptionId : ℕ}
    (h : cycle.handler now db subscriptionId = .ok db') : ClockedStep env db db' := by
  cases cycle with
  | renewals => exact ⟨.renewIfStillDue subscriptionId now now now now,
      by simp [Operation.readings], h⟩
  | activations => exact ⟨.activateIfStillExpired subscriptionId now now now,
      by simp [Operation.readings], h⟩

/-- Bills of other subscriptions do not change a bill. -/
theorem Cycle.billOf_apply {raises : ℕ → Option Raised} {b : Bill} {subscriptionId : ℕ}
    (hne : subscriptionId ≠ b.subscription.id) :
    billOf raises now (b.apply now db) subscriptionId = billOf raises now db subscriptionId := by
  have hget : (db.subscriptions.update b.subscription).get? subscriptionId =
      db.subscriptions.get? subscriptionId := by
    refine Option.ext fun s => ?_
    rw [Table.get?_eq_some_iff, Table.get?_eq_some_iff, Table.mem_update]
    constructor
    · rintro ⟨⟨rfl, -⟩ | ⟨hs, -⟩, hid⟩
      · exact absurd hid.symm hne
      · exact ⟨hs, hid⟩
    · rintro ⟨hs, rfl⟩
      exact ⟨Or.inr ⟨hs, hne⟩, rfl⟩
  have hbill : nextBill (b.apply now db) now = nextBill db now := rfl
  unfold billOf
  split
  · rfl
  · rw [hbill, show (b.apply now db).subscriptions.get? subscriptionId =
      db.subscriptions.get? subscriptionId from hget]

/-- What a run of a cycle starts from. -/
structure Cycle.Starts (env : Env) (raises : ℕ → Option Raised) (cycle : Cycle) (now : DateTime)
    (db : Db) (ids : List ℕ) : Prop where
  reached : Reaches (ClockedStep env) Db.empty db
  raises : ∀ id e, raises id = some e → ∃ e', e = .exception e'
  nodup : ids.Nodup
  listed : ∀ id ∈ ids, ∃ s ∈ db.subscriptions, s.id = id ∧ cycle.selects now s = true

/-- The induction is on the list.  When the first subscription is billed, the others are still
listed, and their bills are what they were. -/
theorem Cycle.run_eq {raises : ℕ → Option Raised} {cycle : Cycle} {ids : List ℕ}
    (h : cycle.Starts env raises now db ids) :
    cycle.run raises now db ids = (applyBills now db (ids.filterMap (billOf raises now db)), none) ∧
      Reaches (ClockedStep env) Db.empty
        (applyBills now db (ids.filterMap (billOf raises now db))) := by
  induction ids generalizing db with
  | nil => exact ⟨rfl, h.reached⟩
  | cons id ids ih =>
    obtain ⟨hfirst, hnodup⟩ := List.nodup_cons.mp h.nodup
    obtain ⟨s, hs, rfl, hselects⟩ := h.listed id List.mem_cons_self
    have hskip : cycle.Starts env raises now db ids :=
      ⟨h.reached, h.raises, hnodup, fun id hid => h.listed id (List.mem_cons_of_mem _ hid)⟩
    have hget : db.subscriptions.get? s.id = some s := Table.get?_key hs
    cases hraise : raises s.id with
    | some e =>
      obtain ⟨e', rfl⟩ := h.raises s.id e hraise
      have hbill : billOf raises now db s.id = none := by
        unfold billOf
        rw [hraise]
      have hcall : cycle.handlerRaising raises now db s.id = .error (.exception e') := by
        unfold handlerRaising
        rw [hraise]
      rw [List.filterMap_cons_none hbill]
      unfold run runBatch
      rw [hcall]
      exact ih hskip
    | none =>
      have hbill : billOf raises now db s.id = nextBill db now s := by
        unfold billOf
        rw [hraise, hget]
        rfl
      have hcall : cycle.handlerRaising raises now db s.id =
          (cycle.handler now db s.id).mapError .exception := by
        unfold handlerRaising
        rw [hraise]
      have hhandler := handler_of_reaches h.reached hs hselects
      cases hnext : nextBill db now s with
      | none =>
        rw [hnext] at hhandler hbill
        obtain ⟨e, he⟩ := hhandler
        rw [List.filterMap_cons_none hbill]
        unfold run runBatch
        rw [hcall, he]
        exact ih hskip
      | some b =>
        rw [hnext] at hhandler hbill
        obtain ⟨e, -, hrow, -⟩ := nextBill_eq_some hnext
        have hid : b.subscription.id = s.id := by rw [hrow]; rfl
        have hothers : ids.filterMap (billOf raises now (b.apply now db)) =
            ids.filterMap (billOf raises now db) :=
          List.filterMap_congr fun id hmem =>
            billOf_apply (hid ▸ fun heq => hfirst (heq ▸ hmem))
        have hrest : cycle.Starts env raises now (b.apply now db) ids := by
          refine ⟨h.reached.tail (clockedStep_of_handler hhandler), h.raises, hnodup, ?_⟩
          intro id hmem
          obtain ⟨t, ht, rfl, htselects⟩ := hskip.listed id hmem
          refine ⟨t, Table.mem_update.mpr (Or.inr ⟨ht, ?_⟩), rfl, htselects⟩
          intro heq
          have hsame : t.id = s.id := heq.trans hid
          exact hfirst (hsame ▸ hmem)
        rw [List.filterMap_cons_some hbill]
        unfold run runBatch
        rw [hcall, hhandler, ← hothers]
        exact ih hrest

end Chargeflow
