import Chargeflow.Books.Periods
import Chargeflow.System.Operations

/-!
# Transactions under a clock

The readings that one transaction takes from the clock are in order.  Nothing is said about the
readings of different transactions.
-/

namespace Chargeflow

open Foundation

variable {env : Env}

/-- One transaction that commits, and takes its readings from a clock that does not go
backwards. -/
def ClockedStep (env : Env) (db db' : Db) : Prop :=
  ∃ op : Operation, op.readings.Pairwise (· ≤ ·) ∧ op.apply env db = .ok db'

/-- A clocked step is a step. -/
theorem ClockedStep.step {db db' : Db} (h : ClockedStep env db db') : Step env db db' := by
  obtain ⟨op, -, hop⟩ := h
  exact ⟨op, hop⟩

/-- The transactions of a list run under the clock if the readings of each are in order. -/
theorem clocked_after (env : Env) (db : Db) (ops : List Operation)
    (h : ∀ op ∈ ops, op.readings.Pairwise (· ≤ ·)) :
    Reaches (ClockedStep env) db (db.after env ops) := by
  induction ops generalizing db with
  | nil => exact Relation.ReflTransGen.refl
  | cons op ops ih =>
    have hops := fun db => ih db fun op' hop' => h op' (List.mem_cons_of_mem _ hop')
    unfold Db.after
    split
    · rename_i db' hop
      exact Relation.ReflTransGen.head ⟨op, h op List.mem_cons_self, hop⟩ (hops db')
    · exact hops db

/-- Along a clocked run the periods are in order. -/
theorem Reaches.periods {db : Db} (h : Reaches (ClockedStep env) Db.empty db) :
    Periods db.subscriptions db.invoices := by
  refine h.invariant (I := fun db => Periods db.subscriptions db.invoices) ?_ ?_
  · exact ⟨fun i hi => by simp [Db.empty] at hi, fun i hi => by simp [Db.empty] at hi,
      fun s hs => by simp [Db.empty] at hs, fun s hs => by simp [Db.empty] at hs⟩
  · intro a b hreach hperiods hstep
    obtain ⟨op, hclock, hop⟩ := hstep
    have hreach : Reachable env a := hreach.mono fun _ _ => ClockedStep.step
    have hsound := hreach.sound
    exact (op.apply_eq_ok hop).periods hclock hperiods hsound.linked hsound.inStanding

/-- A subscription that a cycle lists has no period that has not ended: its current one has, and one
with a trial was never billed. -/
theorem Reaches.ended {db : Db} (h : Reaches (ClockedStep env) Db.empty db) {s : Subscription}
    (hs : s ∈ db.subscriptions) {now : DateTime} (hstatus : s.status = .active ∨ s.status = .trial)
    (hdue : s.currentPeriodEnd ≤ now) : ∀ i ∈ db.invoices, i.subscriptionId = s.id →
      i.periodEnd ≤ now := by
  intro i hi hsub
  rcases hstatus with hactive | htrial
  · have hperiods := Reaches.periods h
    rcases hperiods.past s hs i hi hsub with ⟨-, -, hend⟩ | hpast
    · exact hend.le.trans hdue
    · obtain ⟨j, hj, -, hstart, hend⟩ := hperiods.current s hs (Or.inl hactive)
      have hlt : s.currentPeriodStart < s.currentPeriodEnd := by
        rw [← hstart, ← hend]
        exact hperiods.nonempty j hj
      exact hpast.trans (hlt.le.trans hdue)
  · have hreach : Reachable env db := h.mono fun _ _ => ClockedStep.step
    exact absurd htrial (hreach.sound.inStanding.agrees s hs i hi hsub).billed

end Chargeflow
