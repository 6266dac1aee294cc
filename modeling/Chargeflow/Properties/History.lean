import Chargeflow.System.Provider

/-!
# The history only moves forward

From one database to any later one no row is lost.  The status of an attempt only rises, a flag and
a charge id stay, and what was sent to the provider is never edited; what is closed, an invoice or a
subscription, stays closed.  The rules are read off the `Later` relations, which hold for every way
a settlement may end and for the rows that the services read again under their locks.
-/

namespace Chargeflow

open Foundation

variable {env : Env}

/-- The order PENDING, FAILED, SUCCESS. -/
def PaymentStatus.rank : PaymentStatus → ℕ
  | .pending => 0
  | .failed => 1
  | .success => 2

/-- An attempt moves forward: neither its status nor what is settled goes back. -/
structure PaymentAttempt.Forward (p p' : PaymentAttempt) : Prop where
  rank : p.status.rank ≤ p'.status.rank
  frozen : p.needsReconciliation = true → p'.status = p.status
  flag : p.needsReconciliation = true → p'.needsReconciliation = true
  chargeId : p.providerChargeId ≠ "" → p'.providerChargeId = p.providerChargeId
  snapshot : p.SameSnapshot p'

/-- An invoice that is PAID or CANCELED stays so, with its `paid_at`. -/
structure Invoice.Forward (i i' : Invoice) : Prop where
  closed : i.status = .paid ∨ i.status = .canceled → i'.status = i.status
  paidAt : i.status = .paid ∨ i.status = .canceled → i'.paidAt = i.paidAt

/-- A CANCELED subscription stays so, with its `canceled_at`. -/
structure Subscription.Forward (s s' : Subscription) : Prop where
  canceled : s.status = .canceled → s'.status = .canceled
  canceledAt : s.status = .canceled → s'.canceledAt = s.canceledAt

/-- Every row has a version in the later database, further on in its history. -/
structure MovesForward (db db' : Db) : Prop where
  attempts : ∀ p ∈ db.attempts, ∃ p' ∈ db'.attempts, p'.id = p.id ∧ p.Forward p'
  invoices : ∀ i ∈ db.invoices, ∃ i' ∈ db'.invoices, i'.id = i.id ∧ i.Forward i'
  subscriptions : ∀ s ∈ db.subscriptions, ∃ s' ∈ db'.subscriptions, s'.id = s.id ∧ s.Forward s'

/-- A later version of an attempt has moved forward. -/
theorem PaymentAttempt.Later.forward {p p' : PaymentAttempt} (h : p.Later p') : p.Forward p' where
  rank := by
    cases hstatus : p.status with
    | pending => exact Nat.zero_le _
    | failed =>
      -- a FAILED attempt does not become PENDING again
      have hpending : p'.status ≠ .pending := by
        intro hp'
        have hp := h.pending hp'
        rw [hstatus] at hp
        cases hp
      cases hstatus' : p'.status with
      | pending => exact absurd hstatus' hpending
      | failed => exact le_rfl
      | success => exact Nat.le_succ _
    | success => rw [h.success hstatus]
  frozen hflag := (h.flag hflag).2
  flag hflag := (h.flag hflag).1
  chargeId := h.chargeId
  snapshot := h.snapshot

/-- A later version of an invoice has moved forward. -/
theorem Invoice.Later.forward {i i' : Invoice} (h : i.Later i') : i.Forward i' := by
  have hsame : i.status = .paid ∨ i.status = .canceled → i' = i := fun hclosed =>
    hclosed.elim h.paid h.canceled
  refine ⟨?_, ?_⟩
  · intro hclosed
    rw [hsame hclosed]
  · intro hclosed
    rw [hsame hclosed]

/-- A later version of a subscription has moved forward. -/
theorem Subscription.Later.forward {s s' : Subscription} (h : s.Later s') : s.Forward s' := by
  refine ⟨?_, ?_⟩
  · intro hcanceled
    rw [h.canceled hcanceled, hcanceled]
  · intro hcanceled
    rw [h.canceled hcanceled]

/-- A run of the services with a consistent provider is, seen from the database, a run of the
services. -/
theorem Reaches.steps {sys sys' : Sys} (h : Reaches (SysStep env) sys sys') :
    Reaches (Step env) sys.db sys'.db :=
  h.simulation (f := Sys.db) fun _ _ => SysStep.db

/-- The history of every row only moves forward, through every transaction of the services and
through an undisturbed charge. -/
theorem history_moves_forward :
    (∀ db db', Reaches (Step env) db db' → MovesForward db db') ∧
      ∀ db db' paymentId success chargeId now payment,
        PaymentService.charge env db paymentId success chargeId now = .ok (db', payment) →
        MovesForward db db' := by
  have hforward : ∀ db db', Reaches (Step env) db db' → MovesForward db db' := by
    intro db db' h
    refine ⟨?_, ?_, ?_⟩
    · intro p hp
      obtain ⟨p', hp', hid, hlater⟩ := (Reaches.attempts h).kept p hp
      exact ⟨p', hp', hid, hlater.forward⟩
    · intro i hi
      obtain ⟨i', hi', hid, hlater⟩ := (Reaches.invoices h).kept i hi
      exact ⟨i', hi', hid, hlater.forward⟩
    · intro s hs
      obtain ⟨s', hs', hid, hlater⟩ := (Reaches.subscriptions h).kept s hs
      exact ⟨s', hs', hid, hlater.forward⟩
  refine ⟨hforward, ?_⟩
  intro db db' paymentId success chargeId now payment hcharge
  exact hforward db db' (Reaches.steps (charge_reaches hcharge []))

/-- The first charge fails. -/
def declinedRun : Db :=
  Db.empty.after sampleEnv (subscribed ++
    [.prepare 1 none true "key_1" (sampleTime 0 2), .settle 1 false [] "ch_1" (sampleTime 0 3)])

/-- Then dunning reissues the invoice, and the provider reports the first charge once more. -/
def reportedRun : Db :=
  declinedRun.after sampleEnv
    [.dun 1 (sampleTime 0 4), .settle 1 true [] "ch_1" (sampleTime 0 5)]

/-- The attempt of the reported run keeps its charge id. -/
theorem history_moves_forward_reportedRun :
    ∃ p' ∈ reportedRun.attempts, p'.id = 1 ∧ PaymentStatus.failed.rank ≤ p'.status.rank ∧
      p'.providerChargeId = "ch_1" := by
  obtain ⟨p, hp, hid, hstatus, hcharge⟩ : ∃ p ∈ declinedRun.attempts, p.id = 1 ∧
      p.status = .failed ∧ p.providerChargeId = "ch_1" := by decide
  have hrun : Reaches (Step sampleEnv) declinedRun reportedRun := reaches_after _ _ _
  obtain ⟨p', hp', hid', hforward⟩ :=
    (history_moves_forward.1 declinedRun reportedRun hrun).attempts p hp
  refine ⟨p', hp', hid'.trans hid, ?_, ?_⟩
  · exact hstatus ▸ hforward.rank
  · rw [hforward.chargeId (by rw [hcharge]; decide), hcharge]

end Chargeflow
