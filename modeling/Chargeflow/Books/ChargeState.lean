import Chargeflow.Domain.Subscriptions
import Chargeflow.Domain.Invoices
import Chargeflow.Domain.Payments

/-!
# The state of a charge

What the settlements of one attempt decide, and what they depend on: the attempt's own columns, the
statuses of its invoice and its subscription, and three facts about other rows that no settlement of
this attempt changes.  On such a state a settlement is a small machine with two inputs, a success
and a failure.  Once a success has been settled nothing changes any more, a second failure changes
nothing, and a success after a failure leads where the success alone would have led; so a list of
settlements is worth one of them (`settleAll_outcome`).
-/

namespace Chargeflow

/-- What decides about the settlements of one attempt: the attempt, its invoice, its subscription
and three facts about the other rows. -/
structure ChargeState where
  status : PaymentStatus
  needsReconciliation : Bool
  providerChargeId : String
  invoice : InvoiceStatus
  subscription : SubscriptionStatus
  /-- Another attempt of the invoice is SUCCESS. -/
  otherSuccess : Bool
  /-- Another invoice of the subscription is FAILED or OVERDUE. -/
  otherArrears : Bool
  /-- The charge id of the results belongs to another attempt. -/
  taken : Bool
  deriving DecidableEq

namespace ChargeState

/-- The attempt has been settled: it is SUCCESS, or flagged. -/
def Done (v : ChargeState) : Prop := v.status = .success ∨ v.needsReconciliation = true

/-- A result brings another charge id than the recorded one. -/
def Conflicts (v : ChargeState) (c : String) : Prop :=
  v.providerChargeId ≠ "" ∧ c ≠ "" ∧ c ≠ v.providerChargeId

/-- The charge id of a result is recorded, as none was before. -/
def Binds (v : ChargeState) (c : String) : Prop := c ≠ "" ∧ v.providerChargeId = ""

/-- The invoice can be paid or fail by the attempt. -/
def Open (v : ChargeState) : Prop :=
  v.subscription ≠ .canceled ∧ v.invoice ∈ payableInvoiceStatuses ∧ v.otherSuccess = false

/-- Whether an attempt is done can be computed. -/
instance (v : ChargeState) : Decidable v.Done := by unfold Done; infer_instance

/-- Whether a charge id conflicts can be computed. -/
instance (v : ChargeState) (c : String) : Decidable (v.Conflicts c) := by
  unfold Conflicts; infer_instance

/-- Whether a charge id is bound can be computed. -/
instance (v : ChargeState) (c : String) : Decidable (v.Binds c) := by
  unfold Binds; infer_instance

/-- Whether an invoice is open can be computed. -/
instance (v : ChargeState) : Decidable v.Open := by unfold Open; infer_instance

/-- The attempt takes up the charge id of a result. -/
def bind (v : ChargeState) (c : String) : ChargeState :=
  { v with providerChargeId := if v.Binds c then c else v.providerChargeId }

/-- The attempt is left to an operator. -/
def flag (v : ChargeState) : ChargeState := { v with needsReconciliation := true }

/-- A success pays the invoice, and brings the subscription back unless it has other arrears. -/
def pay (v : ChargeState) : ChargeState :=
  { v with
    status := .success
    invoice := .paid
    subscription :=
      if v.subscription = .overdue ∧ v.otherArrears = false then .active else v.subscription }

/-- A success: the invoice is paid, or the attempt is flagged when it is not open. -/
def succeed (v : ChargeState) : ChargeState := if v.Open then v.pay else v.flag

/-- A failure fails the invoice, and puts the subscription in arrears. -/
def lapse (v : ChargeState) : ChargeState :=
  { v with
    status := .failed
    invoice := if v.invoice = .issued then .failed else v.invoice
    subscription := if v.subscription = .active then .overdue else v.subscription }

/-- A failure: the attempt fails, and an open invoice with it. -/
def decline (v : ChargeState) : ChargeState :=
  if v.status = .failed then v
  else if v.Open then v.lapse
  else { v with status := .failed }

/-- A settlement with the charge id `c`.  One whose charge id does not fit its column aborts. -/
def settle (c : String) (v : ChargeState) (success : Bool) : ChargeState :=
  if success = false ∧ v.Done then v
  else if v.Conflicts c then v.flag
  else if v.Done then v
  else if v.Binds c ∧ 255 < c.length then v
  else if v.Binds c ∧ v.taken = true then v.flag
  else if success then (v.bind c).succeed
  else (v.bind c).decline

/-- What a caller sees of a state. -/
def outcome (v : ChargeState) : Bool × Bool × String × InvoiceStatus × SubscriptionStatus :=
  (v.status == .success, v.needsReconciliation, v.providerChargeId, v.invoice, v.subscription)

variable {v : ChargeState} {c : String}

/-! ## One settlement after another -/

/-- A result without a conflict changes nothing about an attempt that is done. -/
theorem settle_of_done (hdone : v.Done) (hconflict : ¬ v.Conflicts c) (success : Bool) :
    v.settle c success = v := by
  unfold settle
  rw [if_neg hconflict, if_pos hdone, ite_self]

/-- A charge id that does not fit its column rolls the settlement back. -/
theorem settle_of_long (hdone : ¬ v.Done) (hconflict : ¬ v.Conflicts c)
    (hlong : v.Binds c ∧ 255 < c.length) (success : Bool) : v.settle c success = v := by
  unfold settle
  rw [if_neg fun h => hdone h.2, if_neg hconflict, if_neg hdone, if_pos hlong]

/-- Otherwise the charge id is bound, and the outcome applied. -/
theorem settle_of_fits (hdone : ¬ v.Done) (hconflict : ¬ v.Conflicts c)
    (hfits : ¬ (v.Binds c ∧ 255 < c.length)) (hfree : v.taken = false) (success : Bool) :
    v.settle c success = if success then (v.bind c).succeed else (v.bind c).decline := by
  have htaken : ¬ (v.Binds c ∧ v.taken = true) := by simp [hfree]
  unfold settle
  rw [if_neg fun h => hdone h.2, if_neg hconflict, if_neg hdone, if_neg hfits, if_neg htaken]

/-- An attempt is done after a success, paid or flagged. -/
theorem succeed_done (v : ChargeState) : v.succeed.Done := by
  unfold succeed
  split_ifs
  · exact Or.inl rfl
  · exact Or.inr rfl

/-- A success leaves the charge id alone. -/
theorem succeed_providerChargeId (v : ChargeState) :
    v.succeed.providerChargeId = v.providerChargeId := by
  unfold succeed
  split_ifs <;> rfl

/-- A failure leaves the charge id alone. -/
theorem decline_providerChargeId (v : ChargeState) :
    v.decline.providerChargeId = v.providerChargeId := by
  unfold decline
  split_ifs <;> rfl

/-- An attempt is FAILED after a failure. -/
theorem decline_status (v : ChargeState) : v.decline.status = .failed := by
  unfold decline
  split_ifs with hfailed
  · exact hfailed
  · rfl
  · rfl

/-- A failure leaves an open invoice open. -/
theorem lapse_open (hopen : v.Open) : v.lapse.Open := by
  obtain ⟨hcanceled, hpayable, hother⟩ := hopen
  refine ⟨?_, ?_, hother⟩
  · simp only [lapse]
    split_ifs
    · exact SubscriptionStatus.noConfusion
    · exact hcanceled
  · simp only [lapse]
    split_ifs
    · decide
    · exact hpayable

/-- A success after a failure leads where the success alone would have led: an ACTIVE subscription
has no other arrears, so it comes back. -/
theorem decline_succeed_outcome (hstatus : v.status ≠ .success)
    (hstanding : v.subscription = .active → v.otherArrears = false) :
    v.decline.succeed.outcome = v.succeed.outcome := by
  unfold decline
  by_cases hfailed : v.status = .failed
  · rw [if_pos hfailed]
  rw [if_neg hfailed]
  by_cases hopen : v.Open
  · rw [if_pos hopen, succeed, succeed, if_pos (lapse_open hopen), if_pos hopen]
    by_cases hactive : v.subscription = .active
    · simp [outcome, pay, lapse, hactive, hstanding hactive]
    · simp [outcome, pay, lapse, hactive]
  · have hclosed : ¬ ({ v with status := .failed } : ChargeState).Open := hopen
    rw [if_neg hopen, succeed, succeed, if_neg hclosed, if_neg hopen]
    have hsame : (PaymentStatus.failed == .success) = (v.status == .success) := by
      cases hv : v.status with
      | success => exact absurd hv hstatus
      | _ => rfl
    simp only [outcome, flag, hsame]

/-- What it takes for a settlement to flag an attempt. -/
theorem settle_flagged {success : Bool} (h : (v.settle c success).needsReconciliation = true) :
    v.needsReconciliation = true ∨ v.Conflicts c ∨ v.Binds c ∧ v.taken = true ∨
      ¬ v.Done ∧ success = true ∧ ¬ v.Open := by
  have hdecline : ∀ {w : ChargeState}, w.decline.needsReconciliation = w.needsReconciliation := by
    intro w
    unfold decline
    split_ifs <;> rfl
  unfold settle at h
  by_cases hearly : success = false ∧ v.Done
  · rw [if_pos hearly] at h
    exact Or.inl h
  rw [if_neg hearly] at h
  by_cases hconflict : v.Conflicts c
  · exact Or.inr (Or.inl hconflict)
  rw [if_neg hconflict] at h
  by_cases hdone : v.Done
  · rw [if_pos hdone] at h
    exact Or.inl h
  rw [if_neg hdone] at h
  by_cases hlong : v.Binds c ∧ 255 < c.length
  · rw [if_pos hlong] at h
    exact Or.inl h
  rw [if_neg hlong] at h
  by_cases htaken : v.Binds c ∧ v.taken = true
  · exact Or.inr (Or.inr (Or.inl htaken))
  rw [if_neg htaken] at h
  cases success with
  | false =>
    rw [if_neg (by decide), hdecline] at h
    exact Or.inl h
  | true =>
    rw [if_pos rfl, succeed] at h
    by_cases hopen : v.Open
    · rw [if_pos (by exact hopen)] at h
      exact Or.inl h
    · exact Or.inr (Or.inr (Or.inr ⟨hdone, rfl, hopen⟩))

/-- A settlement records no other charge id than its own. -/
theorem settle_providerChargeId (v : ChargeState) (c : String) (success : Bool) :
    (v.settle c success).providerChargeId = v.providerChargeId ∨
      (v.settle c success).providerChargeId = c := by
  have hbind : (v.bind c).providerChargeId = v.providerChargeId ∨
      (v.bind c).providerChargeId = c := by
    unfold bind
    by_cases hbinds : v.Binds c
    · exact Or.inr (if_pos hbinds)
    · exact Or.inl (if_neg hbinds)
  unfold settle
  split_ifs
  · exact Or.inl rfl
  · exact Or.inl rfl
  · exact Or.inl rfl
  · exact Or.inl rfl
  · exact Or.inl rfl
  · rwa [succeed_providerChargeId]
  · rwa [decline_providerChargeId]

/-! ## A list of settlements -/

/-- A state whose attempt is not flagged and may record the charge id `c`, and whose subscription is
in good standing when it is ACTIVE. -/
structure Receptive (c : String) (v : ChargeState) : Prop where
  unflagged : v.needsReconciliation = false
  chargeId : v.providerChargeId = "" ∨ v.providerChargeId = c
  free : v.taken = false
  standing : v.subscription = .active → v.otherArrears = false

/-- The results of a list, settled one after the other. -/
def settleAll (c : String) (v : ChargeState) (l : List Bool) : ChargeState := l.foldl (settle c) v

/-- An attempt that is receptive to a charge id has no other. -/
theorem Receptive.not_conflicts (h : v.Receptive c) : ¬ v.Conflicts c := by
  rintro ⟨hrecorded, -, hne⟩
  rcases h.chargeId with hempty | hsame
  · exact hrecorded hempty
  · exact hne hsame.symm

/-- A receptive attempt takes up a charge id that is not empty. -/
theorem Receptive.bind_providerChargeId (h : v.Receptive c) (hc : c ≠ "") :
    (v.bind c).providerChargeId = c := by
  unfold bind
  by_cases hbinds : v.Binds c
  · exact if_pos hbinds
  · rcases h.chargeId with hempty | hsame
    · exact absurd ⟨hc, hempty⟩ hbinds
    · exact (if_neg hbinds).trans hsame

/-- A state that every result leaves as it is stays so under a list of results. -/
theorem settleAll_of_fixed (h : ∀ success, v.settle c success = v) (l : List Bool) :
    v.settleAll c l = v := by
  induction l with
  | nil => rfl
  | cons success l ih => rw [settleAll, List.foldl_cons, h]; exact ih

/-- The failures of a list change nothing after the first, and nothing changes after a success.  The
induction is on the list; `w` is the state once a failure has been settled. -/
theorem settleAll_declined {w : ChargeState} (hrecorded : w.providerChargeId = c)
    (hstatus : w.status = .failed) (hunflagged : w.needsReconciliation = false)
    (hfree : w.taken = false) (hc : c ≠ "") (l : List Bool) :
    w.settleAll c l = if true ∈ l then w.succeed else w := by
  have hdone : ¬ w.Done := by simp [Done, hstatus, hunflagged]
  have hconflict : ¬ w.Conflicts c := fun h => h.2.2 hrecorded.symm
  have hbinds : ¬ w.Binds c := fun h => hc (hrecorded.symm.trans h.2)
  have hbind : w.bind c = w := by simp [bind, hbinds]
  have hsettle : ∀ success, w.settle c success = if success then w.succeed else w := by
    intro success
    rw [settle_of_fits hdone hconflict (fun h => hbinds h.1) hfree, hbind, decline,
      if_pos hstatus]
  induction l with
  | nil => rfl
  | cons success l ih =>
    rw [settleAll, List.foldl_cons, hsettle]
    cases success with
    | false => simpa [settleAll] using ih
    | true =>
      have hclosed : ¬ w.succeed.Conflicts c := fun h =>
        h.2.2 (hrecorded.symm.trans (succeed_providerChargeId w).symm)
      rw [if_pos rfl, if_pos List.mem_cons_self]
      exact settleAll_of_fixed (settle_of_done (succeed_done w) hclosed) l

/-- A list of settlements with one charge id is worth one settlement: a success if there is one in
the list, and a failure otherwise. -/
theorem settleAll_outcome (h : v.Receptive c) (hc : c ≠ "") {l : List Bool} (hl : l ≠ []) :
    (v.settleAll c l).outcome = (v.settle c (decide (true ∈ l))).outcome := by
  by_cases hdone : v.Done
  · have hfixed := settle_of_done hdone h.not_conflicts
    rw [settleAll_of_fixed hfixed, hfixed]
  by_cases hlong : v.Binds c ∧ 255 < c.length
  · have hfixed := settle_of_long hdone h.not_conflicts hlong
    rw [settleAll_of_fixed hfixed, hfixed]
  have hsettle := settle_of_fits hdone h.not_conflicts hlong h.free
  have hstatus : (v.bind c).status ≠ .success := fun hs => hdone (Or.inl hs)
  have hcharge := h.bind_providerChargeId hc
  cases l with
  | nil => exact absurd rfl hl
  | cons success l =>
    rw [settleAll, List.foldl_cons, hsettle, hsettle]
    cases success with
    | true =>
      have hclosed : ¬ (v.bind c).succeed.Conflicts c := fun hne =>
        hne.2.2 (hcharge.symm.trans (succeed_providerChargeId _).symm)
      have hfixed := settleAll_of_fixed (settle_of_done (succeed_done (v.bind c)) hclosed) l
      rw [if_pos rfl, if_pos (by simp)]
      exact congrArg outcome hfixed
    | false =>
      have hunflagged : (v.bind c).decline.needsReconciliation = false := by
        unfold decline
        split_ifs <;> exact h.unflagged
      have hfree : (v.bind c).decline.taken = false := by
        unfold decline
        split_ifs <;> exact h.free
      have hrest := settleAll_declined ((decline_providerChargeId _).trans hcharge)
        (decline_status (v.bind c)) hunflagged hfree hc l
      rw [if_neg (by decide)]
      refine (congrArg outcome hrest).trans ?_
      by_cases hsuccess : true ∈ l
      · rw [if_pos hsuccess, if_pos (by simp [hsuccess])]
        exact decline_succeed_outcome hstatus h.standing
      · rw [if_neg hsuccess, if_neg (by simp [hsuccess])]

end ChargeState

end Chargeflow
