import Chargeflow.Books.ChargeState
import Chargeflow.System.Settling

/-!
# Settlements of one attempt

`Books.chargeState` reads the state of a charge off the books, and a settlement of the books is a
step of the machine on these states (`settledBooks_rows`).  So what a list of settlements of one
attempt leaves behind depends neither on the clock nor on the responses of the provider.
-/

namespace Chargeflow

open Foundation PaymentService

/-- The state of the charge of the attempt `p`, whose invoice is `i` and whose subscription is `s`,
for results with the charge id `c`. -/
def Books.chargeState (b : Books) (p : PaymentAttempt) (i : Invoice) (s : Subscription)
    (c : String) : ChargeState where
  status := p.status
  needsReconciliation := p.needsReconciliation
  providerChargeId := p.providerChargeId
  invoice := i.status
  subscription := s.status
  otherSuccess := b.attempts.any fun q =>
    q.id != p.id && (q.invoiceId == p.invoiceId && q.status == .success)
  otherArrears := b.invoices.any fun j =>
    j.id != i.id && (j.subscriptionId == s.id && (j.status == .failed || j.status == .overdue))
  taken := c != "" && b.attempts.any fun q =>
    q.id != p.id && (q.provider == p.provider && q.providerChargeId == c)

section

variable {env : Env} {b : Books} {p p' : PaymentAttempt} {i i' : Invoice} {s s' : Subscription}
  {c : String}

/-! ## The tests of a settlement -/

/-- The charge is done when the attempt is settled. -/
theorem chargeState_done : (b.chargeState p i s c).Done ↔ ¬ p.Unsettled := by
  simp [ChargeState.Done, Books.chargeState, PaymentAttempt.Unsettled, imp_iff_not_or]

/-- The state knows when a charge id conflicts. -/
theorem chargeState_conflicts :
    (b.chargeState p i s c).Conflicts c ↔ conflictingCharge p (.str c) = true := by
  simp [ChargeState.Conflicts, Books.chargeState, conflictingCharge, Json.isText, and_assoc]

/-- The state knows when a charge id is bound. -/
theorem chargeState_binds :
    (b.chargeState p i s c).Binds c ↔ bindsCharge p (.str c) = true := by
  simp [ChargeState.Binds, Books.chargeState, bindsCharge]

/-- The state knows when a charge id is taken. -/
theorem chargeState_taken : (b.chargeState p i s c).taken = true ↔ Taken b.attempts p c := by
  simp [Books.chargeState, Taken]

/-- The state knows whether another attempt succeeded. -/
theorem chargeState_otherSuccess_eq_false (hpi : i.id = p.invoiceId) :
    (b.chargeState p i s c).otherSuccess = false ↔
      ∀ q ∈ b.attempts, q.invoiceId = i.id → q.status = .success → q.id = p.id := by
  simp only [Books.chargeState, Table.any_eq_false, Bool.and_eq_false_iff, bne_eq_false_iff_eq,
    beq_eq_false_iff_ne, hpi]
  constructor
  · intro h q hq hinvoice hsuccess
    rcases h q hq with hid | hne | hne
    · exact hid
    · exact absurd hinvoice hne
    · exact absurd hsuccess hne
  · intro h q hq
    by_cases hinvoice : q.invoiceId = p.invoiceId
    · by_cases hsuccess : q.status = .success
      · exact Or.inl (h q hq hinvoice hsuccess)
      · exact Or.inr (Or.inr hsuccess)
    · exact Or.inr (Or.inl hinvoice)

/-- The state knows whether a success applies. -/
theorem chargeState_open_iff_applicable (hpi : i.id = p.invoiceId) :
    (b.chargeState p i s c).Open ↔ Applicable b p i s := by
  unfold ChargeState.Open
  rw [chargeState_otherSuccess_eq_false hpi]
  exact ⟨fun h => ⟨h.1, h.2.1, h.2.2⟩, fun h => ⟨h.notCanceled, h.payable, h.noOther⟩⟩

/-- The state knows whether a decline applies. -/
theorem chargeState_open_iff_declinable (hp : p ∈ b.attempts) (hpi : i.id = p.invoiceId)
    (hopen : p.Unsettled) : (b.chargeState p i s c).Open ↔ Declinable b i s := by
  rw [chargeState_open_iff_applicable hpi]
  constructor
  · rintro ⟨hcanceled, hpayable, hother⟩
    refine ⟨hcanceled, hpayable, ?_⟩
    intro q hq hinvoice hsuccess
    obtain rfl := Table.eq_of_key_eq hq hp (hother q hq hinvoice hsuccess)
    exact hopen.1 hsuccess
  · rintro ⟨hcanceled, hpayable, hnone⟩
    exact ⟨hcanceled, hpayable, fun q hq hinvoice hsuccess =>
      absurd hsuccess (hnone q hq hinvoice)⟩

/-- The state of the bound attempt. -/
theorem chargeState_bind (response : List (String × Json)) :
    (b.chargeState p i s c).bind c = b.chargeState (p.bound env response (.str c)) i s c := by
  unfold ChargeState.bind
  by_cases hbinds : bindsCharge p (.str c) = true
  · have hrow : p.bound env response (.str c) =
        { p with providerResponse := .obj response, providerChargeId := c } := by
      rw [PaymentAttempt.bound, if_pos hbinds]
      rfl
    rw [if_pos (chargeState_binds.mpr hbinds), hrow]
    rfl
  · rw [if_neg (fun h => hbinds (chargeState_binds.mp h)), PaymentAttempt.bound_no_charge hbinds]
    rfl

/-- Once its invoice is paid, a subscription is in arrears for its other invoices only. -/
theorem inArrears_paid_iff (hi : i ∈ b.invoices) (now : DateTime) :
    InArrears (b.invoices.update (i.stamp .paid now)) s ↔
      (b.chargeState p i s c).otherArrears = true := by
  simp only [Books.chargeState, Table.any_eq_true, Bool.and_eq_true, bne_iff_ne, beq_iff_eq,
    Bool.or_eq_true]
  constructor
  · rintro ⟨j, hj, hjs, hstatus⟩
    rcases (Table.mem_update_of_mem hi (by rfl)).mp hj with rfl | ⟨hj, hne⟩
    · simp [Invoice.stamp] at hstatus
    · exact ⟨j, hj, fun hid => hne (Table.eq_of_key_eq hj hi hid), hjs, hstatus⟩
  · rintro ⟨j, hj, hne, hjs, hstatus⟩
    refine ⟨j, (Table.mem_update_of_mem hi (by rfl)).mpr (Or.inr ⟨hj, ?_⟩), hjs, hstatus⟩
    rintro rfl
    exact hne rfl

/-! ## The rows after a settlement -/

/-- New versions of the rows of an attempt, its invoice and its subscription. -/
structure Versions (p p' : PaymentAttempt) (i i' : Invoice) (s s' : Subscription) : Prop where
  attempt : p.SameSnapshot p'
  invoiceId : i'.id = i.id
  invoiceSubscription : i'.subscriptionId = i.subscriptionId
  subscriptionId : s'.id = s.id

/-- What a settlement of the attempt does not change in other rows it does not see. -/
theorem chargeState_update (h : Versions p p' i i' s s') :
    (⟨b.subscriptions.update s', b.invoices.update i', b.attempts.update p'⟩ :
      Books).chargeState p' i' s' c =
    { b.chargeState p i s c with
      status := p'.status
      needsReconciliation := p'.needsReconciliation
      providerChargeId := p'.providerChargeId
      invoice := i'.status
      subscription := s'.status } := by
  have hattempts : ∀ test : PaymentAttempt → Bool,
      ((b.attempts.update p').any fun q => q.id != p'.id && test q) =
        b.attempts.any fun q => q.id != p.id && test q := by
    intro test
    rw [Table.any_update, h.attempt.id]
    intro q hq
    simp [show q.id = p'.id from hq]
  have hinvoices : ∀ test : Invoice → Bool,
      ((b.invoices.update i').any fun j => j.id != i'.id && test j) =
        b.invoices.any fun j => j.id != i.id && test j := by
    intro test
    rw [Table.any_update, h.invoiceId]
    intro j hj
    simp [show j.id = i'.id from hj]
  simp only [Books.chargeState, hattempts, hinvoices, h.attempt.invoiceId, h.attempt.provider,
    h.subscriptionId]

/-- The books `b'` differ from `b` in the rows of the attempt, its invoice and its subscription,
which have the charge state `v`. -/
def SettledTo (b b' : Books) (p : PaymentAttempt) (i : Invoice) (s : Subscription) (c : String)
    (v : ChargeState) : Prop :=
  ∃ p' i' s', Versions p p' i i' s s' ∧
    b' = ⟨b.subscriptions.update s', b.invoices.update i', b.attempts.update p'⟩ ∧
    b'.chargeState p' i' s' c = v

/-- New versions of the three rows settle to their state. -/
theorem SettledTo.of_rows {v : ChargeState} (h : Versions p p' i i' s s')
    (hv : { b.chargeState p i s c with
      status := p'.status
      needsReconciliation := p'.needsReconciliation
      providerChargeId := p'.providerChargeId
      invoice := i'.status
      subscription := s'.status } = v) :
    SettledTo b ⟨b.subscriptions.update s', b.invoices.update i', b.attempts.update p'⟩ p i s c v :=
  ⟨p', i', s', h, rfl, (chargeState_update h).trans hv⟩

/-- A settlement that writes no more than the attempt. -/
theorem SettledTo.of_attempt {v : ChargeState} (hi : i ∈ b.invoices) (hs : s ∈ b.subscriptions)
    (h : p.SameSnapshot p')
    (hv : { b.chargeState p i s c with
      status := p'.status
      needsReconciliation := p'.needsReconciliation
      providerChargeId := p'.providerChargeId } = v) :
    SettledTo b { b with attempts := b.attempts.update p' } p i s c v := by
  have hrows := SettledTo.of_rows (b := b) (c := c) ⟨h, rfl, rfl, rfl⟩ hv
  rwa [Table.update_self hi, Table.update_self hs] at hrows

/-- The same rows settle to the state they have. -/
theorem SettledTo.of_kept (hp : p ∈ b.attempts) (hi : i ∈ b.invoices) (hs : s ∈ b.subscriptions) :
    SettledTo b b p i s c (b.chargeState p i s c) := by
  have hrows : SettledTo b { b with attempts := b.attempts.update p } p i s c
      (b.chargeState p i s c) := SettledTo.of_attempt hi hs (.refl p) rfl
  rwa [Table.update_self hp] at hrows

/-- The status of the subscription after the payment. -/
theorem reactivated_status (p : PaymentAttempt) (c : String) (hi : i ∈ b.invoices)
    (now : DateTime) :
    (s.reactivated (b.invoices.update (i.stamp .paid now)) now).status =
      if s.status = .overdue ∧ (b.chargeState p i s c).otherArrears = false then .active
      else s.status := by
  have harrears : ¬ InArrears (b.invoices.update (i.stamp .paid now)) s ↔
      (b.chargeState p i s c).otherArrears = false := by
    rw [inArrears_paid_iff (p := p) (c := c) hi, Bool.not_eq_true]
  simp only [Subscription.reactivated, harrears]
  split_ifs <;> rfl

/-- A success is applied, or flags the attempt. -/
theorem settledTo_succeed (hi : i ∈ b.invoices) (hpi : i.id = p.invoiceId)
    (hs : s ∈ b.subscriptions) (response : List (String × Json)) (now : DateTime) :
    SettledTo b
      (if Applicable b p i s then paidBooks b (p.bound env response (.str c)) i s now
        else { b with attempts := b.attempts.update (p.bound env response (.str c)).flagged })
      p i s c ((b.chargeState p i s c).bind c).succeed := by
  have hopen : (b.chargeState (p.bound env response (.str c)) i s c).Open ↔ Applicable b p i s :=
    chargeState_open_iff_applicable (b := b) (p := p) (c := c) hpi
  rw [chargeState_bind response, ChargeState.succeed]
  by_cases happ : Applicable b p i s
  · rw [if_pos happ, if_pos (hopen.mpr happ)]
    refine SettledTo.of_rows ⟨.of_eq rfl, rfl, rfl, reactivated_id _ now⟩ ?_
    rw [reactivated_status p c hi]
    rfl
  · rw [if_neg happ, if_neg (fun h => happ (hopen.mp h))]
    exact SettledTo.of_attempt hi hs (.of_eq rfl) rfl

/-- The failure of a PENDING attempt reaches its invoice, unless that is closed. -/
theorem settledTo_decline (hp : p ∈ b.attempts) (hi : i ∈ b.invoices) (hpi : i.id = p.invoiceId)
    (hs : s ∈ b.subscriptions) (hunsettled : p.Unsettled) (response : List (String × Json))
    (now : DateTime) :
    SettledTo b
      (if p.status = .failed then
        { b with attempts := b.attempts.update (p.afterSavepoint env response (.str c)) }
        else declinedBooks b (p.bound env response (.str c)) i s now)
      p i s c ((b.chargeState p i s c).bind c).decline := by
  have hopen : (b.chargeState (p.bound env response (.str c)) i s c).Open ↔ Declinable b i s :=
    (chargeState_open_iff_declinable hp hpi hunsettled : (b.chargeState p i s c).Open ↔ _)
  rw [chargeState_bind response, ChargeState.decline]
  by_cases hfailed : p.status = .failed
  · rw [if_pos hfailed, if_pos (by exact hfailed), PaymentAttempt.afterSavepoint]
    by_cases hbinds : bindsCharge p (.str c) = true
    · rw [if_pos hbinds]
      exact SettledTo.of_attempt hi hs (.of_eq rfl) rfl
    · rw [if_neg hbinds, PaymentAttempt.bound_no_charge hbinds]
      exact SettledTo.of_attempt hi hs (.refl p) rfl
  rw [if_neg hfailed, if_neg (by exact hfailed), declinedBooks]
  by_cases hdec : Declinable b i s
  · rw [if_pos hdec, if_pos (hopen.mpr hdec)]
    have hiid : (i.declined now).id = i.id ∧ (i.declined now).subscriptionId = i.subscriptionId := by
      unfold Invoice.declined
      split_ifs <;> exact ⟨rfl, rfl⟩
    have hsid : (s.declined now).id = s.id := by
      unfold Subscription.declined
      split_ifs <;> rfl
    refine SettledTo.of_rows ⟨.of_eq rfl, hiid.1, hiid.2, hsid⟩ ?_
    rw [Invoice.declined_status, Subscription.declined_status]
    rfl
  · rw [if_neg hdec, if_neg (fun h => hdec (hopen.mp h))]
    exact SettledTo.of_attempt hi hs (.of_eq rfl) rfl

/-- A settlement that commits is a step of the state of the charge. -/
theorem settledBooks_settledTo (hp : p ∈ b.attempts) (hi : i ∈ b.invoices)
    (hpi : i.id = p.invoiceId) (hs : s ∈ b.subscriptions) (hfits : ¬ tooLong env p (.str c))
    (success : Bool) (response : List (String × Json)) (now : DateTime) :
    SettledTo b (settledBooks env b p i s success response (.str c) now) p i s c
      ((b.chargeState p i s c).settle c success) := by
  unfold settledBooks ChargeState.settle
  simp only [chargeState_done, chargeState_conflicts, chargeState_binds, chargeState_taken]
  by_cases hearly : success = false ∧ ¬ p.Unsettled
  · rw [if_pos hearly, if_pos hearly]
    exact .of_kept hp hi hs
  rw [if_neg hearly, if_neg hearly]
  by_cases hconflict : conflictingCharge p (.str c) = true
  · rw [if_pos hconflict, if_pos hconflict]
    exact .of_attempt hi hs (.of_eq rfl) rfl
  rw [if_neg hconflict, if_neg hconflict]
  by_cases hunsettled : p.Unsettled
  · have hshort : ¬ (bindsCharge p (.str c) = true ∧ 255 < c.length) :=
      fun hlong => hfits ⟨hunsettled, hlong.1, hlong.2⟩
    rw [if_neg (not_not.mpr hunsettled), if_neg (not_not.mpr hunsettled), if_neg hshort]
    by_cases htaken : bindsCharge p (.str c) = true ∧ Taken b.attempts p c
    · rw [if_pos (by exact htaken), if_pos htaken]
      exact .of_attempt hi hs (.of_eq rfl) rfl
    rw [if_neg (by exact htaken), if_neg htaken]
    cases success with
    | true => exact settledTo_succeed hi hpi hs response now
    | false => exact settledTo_decline hp hi hpi hs hunsettled response now
  · rw [if_pos hunsettled, if_pos hunsettled]
    exact .of_kept hp hi hs

/-- A settlement that aborts leaves the state of the charge as it is. -/
theorem settle_of_tooLong (hlong : tooLong env p (.str c)) (success : Bool) :
    (b.chargeState p i s c).settle c success = b.chargeState p i s c := by
  obtain ⟨hunsettled, hbinds, hlength⟩ := hlong
  have hbinds' : (b.chargeState p i s c).Binds c := chargeState_binds.mpr hbinds
  exact ChargeState.settle_of_long (fun hdone => chargeState_done.mp hdone hunsettled)
    (fun hconflict => hconflict.1 hbinds'.2) ⟨hbinds', hlength⟩ success

end

/-! ## The state of a charge in a database -/

/-- The books hold versions of an attempt, its invoice and its subscription whose charge state is
`v`. -/
def Books.HasState (b : Books) (p : PaymentAttempt) (i : Invoice) (s : Subscription) (c : String)
    (v : ChargeState) : Prop :=
  ∃ p' ∈ b.attempts, ∃ i' ∈ b.invoices, ∃ s' ∈ b.subscriptions, Versions p p' i i' s s' ∧
    b.chargeState p' i' s' c = v

section

variable {env : Env} {db : Db} {p p' : PaymentAttempt} {i i' : Invoice} {s s' : Subscription}
  {c : String} {v : ChargeState}

/-- Rows are versions of themselves. -/
theorem Versions.refl (p : PaymentAttempt) (i : Invoice) (s : Subscription) :
    Versions p p i i s s := ⟨.refl p, rfl, rfl, rfl⟩

/-- Versions of versions are versions. -/
theorem Versions.trans {p'' : PaymentAttempt} {i'' : Invoice} {s'' : Subscription}
    (h : Versions p p' i i' s s') (h' : Versions p' p'' i' i'' s' s'') :
    Versions p p'' i i'' s s'' :=
  ⟨h.attempt.trans h'.attempt, h'.invoiceId.trans h.invoiceId,
    h'.invoiceSubscription.trans h.invoiceSubscription, h'.subscriptionId.trans h.subscriptionId⟩

/-- What is settled for the versions is the state of the first rows. -/
theorem SettledTo.hasState {b b' : Books} (h : SettledTo b b' p' i' s' c v)
    (hversions : Versions p p' i i' s s') (hp : p' ∈ b.attempts) (hi : i' ∈ b.invoices)
    (hs : s' ∈ b.subscriptions) : b'.HasState p i s c v := by
  obtain ⟨p'', i'', s'', hnew, rfl, hv⟩ := h
  exact ⟨p'', Table.mem_update_self hp hnew.attempt.id, i'',
    Table.mem_update_self hi hnew.invoiceId, s'', Table.mem_update_self hs hnew.subscriptionId,
    hversions.trans hnew, hv⟩

/-- A settlement with a charge id that fits its column commits, and is a step of the state of the
charge. -/
theorem settle_commits (h : db.Consistent) (hp : p ∈ db.attempts) (hi : i ∈ db.invoices)
    (hpi : i.id = p.invoiceId) (hs : s ∈ db.subscriptions) (hsi : s.id = i.subscriptionId)
    (success : Bool) {response : List (String × Json)} {chargeId : String}
    (hcharge : incomingChargeId response chargeId = .str c) (hfits : ¬ tooLong env p (.str c))
    (now : DateTime) :
    ∃ b', settle env db p.id success response chargeId now = .ok (db.withBooks b') ∧
      SettledTo db.books b' p i s c ((db.books.chargeState p i s c).settle c success) := by
  refine ⟨_, ?_, settledBooks_settledTo hp hi hpi hs hfits success response now⟩
  rw [h.settle_eq hp hi hpi hs hsi, hcharge, if_neg hfits]

/-- A settlement commits and is a step of the state of the charge, or it aborts, and the step leaves
the state as it is. -/
theorem settle_step (h : db.Consistent) (hp : p ∈ db.attempts) (hi : i ∈ db.invoices)
    (hpi : i.id = p.invoiceId) (hs : s ∈ db.subscriptions) (hsi : s.id = i.subscriptionId)
    (success : Bool) {response : List (String × Json)} {chargeId : String}
    (hcharge : incomingChargeId response chargeId = .str c) (now : DateTime) :
    (∃ b', settle env db p.id success response chargeId now = .ok (db.withBooks b') ∧
        SettledTo db.books b' p i s c ((db.books.chargeState p i s c).settle c success)) ∨
      (∃ e, settle env db p.id success response chargeId now = .error e) ∧
        (db.books.chargeState p i s c).settle c success = db.books.chargeState p i s c := by
  by_cases hlong : tooLong env p (.str c)
  · have habort : settle env db p.id success response chargeId now =
        .error (.dataError "provider_charge_id") := by
      rw [h.settle_eq hp hi hpi hs hsi, hcharge, if_pos hlong]
    exact Or.inr ⟨⟨_, habort⟩, settle_of_tooLong hlong success⟩
  · exact Or.inl (settle_commits h hp hi hpi hs hsi success hcharge hlong now)

end

end Chargeflow
