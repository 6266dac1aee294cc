import Chargeflow.Books.Links

/-!
# Invoices and their attempts

`Coupled` ties the status of an invoice to the statuses of its attempts: it is PAID when one of them
is SUCCESS, no two of them are SUCCESS or PENDING, and a FAILED invoice has a FAILED attempt.  A
settlement changes one attempt and perhaps its invoice (`Coupled.update`); the other transactions
move invoices between statuses other than PAID, or add a row.
-/

namespace Chargeflow

open Foundation

/-- An attempt of the invoice has the status. -/
def HasAttempt (attempts : Table PaymentAttempt) (i : Invoice) (status : PaymentStatus) : Prop :=
  ∃ p ∈ attempts, p.invoiceId = i.id ∧ p.status = status

/-- At most one attempt of each invoice has the status. -/
def AtMostOne (attempts : Table PaymentAttempt) (status : PaymentStatus) : Prop :=
  ∀ p ∈ attempts, ∀ q ∈ attempts, p.invoiceId = q.invoiceId → p.status = status →
    q.status = status → p = q

/-- An attempt of the same invoice, other than `p`, has the status. -/
def HasOther (attempts : Table PaymentAttempt) (p : PaymentAttempt) (status : PaymentStatus) :
    Prop :=
  ∃ q ∈ attempts, q ≠ p ∧ q.invoiceId = p.invoiceId ∧ q.status = status

/-! ## When an attempt changes -/

section Update

variable {attempts : Table PaymentAttempt} {p p' : PaymentAttempt} {status : PaymentStatus}

/-- The statuses of the attempts of its invoice. -/
theorem hasAttempt_update_own {j : Invoice} (hp : p ∈ attempts) (hpid : p'.id = p.id)
    (hpinv : p'.invoiceId = p.invoiceId) (hj : j.id = p.invoiceId) :
    HasAttempt (attempts.update p') j status ↔ p'.status = status ∨ HasOther attempts p status := by
  have hmem : ∀ q, q ∈ attempts.update p' ↔ q = p' ∨ (q ∈ attempts ∧ q ≠ p) :=
    fun q => Table.mem_update_of_mem hp hpid
  constructor
  · rintro ⟨q, hq, hinvoice, hstatus⟩
    rcases (hmem q).mp hq with rfl | ⟨hq, hne⟩
    · exact Or.inl hstatus
    · exact Or.inr ⟨q, hq, hne, hinvoice.trans hj, hstatus⟩
  · rintro (hstatus | ⟨q, hq, hne, hinvoice, hstatus⟩)
    · exact ⟨p', (hmem p').mpr (Or.inl rfl), hpinv.trans hj.symm, hstatus⟩
    · exact ⟨q, (hmem q).mpr (Or.inr ⟨hq, hne⟩), hinvoice.trans hj.symm, hstatus⟩

/-- The invoice of an attempt has an attempt with a status if this one or another one has it. -/
theorem hasAttempt_own {j : Invoice} (hp : p ∈ attempts) (hj : j.id = p.invoiceId) :
    HasAttempt attempts j status ↔ p.status = status ∨ HasOther attempts p status := by
  have hself : HasAttempt (attempts.update p) j status ↔
      p.status = status ∨ HasOther attempts p status := hasAttempt_update_own hp rfl rfl hj
  rwa [Table.update_self hp] at hself

/-- The attempts of other invoices keep their statuses. -/
theorem hasAttempt_update_other {j : Invoice} (hp : p ∈ attempts) (hpid : p'.id = p.id)
    (hpinv : p'.invoiceId = p.invoiceId) (hj : j.id ≠ p.invoiceId) :
    HasAttempt (attempts.update p') j status ↔ HasAttempt attempts j status := by
  have hmem : ∀ q, q ∈ attempts.update p' ↔ q = p' ∨ (q ∈ attempts ∧ q ≠ p) :=
    fun q => Table.mem_update_of_mem hp hpid
  constructor
  · rintro ⟨q, hq, hinvoice, hstatus⟩
    rcases (hmem q).mp hq with rfl | ⟨hq, -⟩
    · exact absurd (hinvoice.symm.trans hpinv) hj
    · exact ⟨q, hq, hinvoice, hstatus⟩
  · rintro ⟨q, hq, hinvoice, hstatus⟩
    refine ⟨q, (hmem q).mpr (Or.inr ⟨hq, ?_⟩), hinvoice, hstatus⟩
    rintro rfl
    exact hj hinvoice.symm

/-- The one attempt with a status has no other beside it. -/
theorem AtMostOne.not_hasOther (h : AtMostOne attempts status) (hp : p ∈ attempts)
    (hstatus : p.status = status) : ¬ HasOther attempts p status := by
  rintro ⟨q, hq, hne, hinvoice, hq'⟩
  exact hne (h q hq p hp hinvoice hq' hstatus)

/-- An attempt may take a status that no other attempt of its invoice has. -/
theorem AtMostOne.update (h : AtMostOne attempts status) (hp : p ∈ attempts)
    (hpid : p'.id = p.id) (hpinv : p'.invoiceId = p.invoiceId)
    (hnew : p'.status = status → ¬ HasOther attempts p status) :
    AtMostOne (attempts.update p') status := by
  intro q hq r hr hqr hqs hrs
  rcases (Table.mem_update_of_mem hp hpid).mp hq with rfl | ⟨hq₀, hqp⟩ <;>
    rcases (Table.mem_update_of_mem hp hpid).mp hr with rfl | ⟨hr₀, hrp⟩
  · rfl
  · exact absurd ⟨r, hr₀, hrp, hqr.symm.trans hpinv, hrs⟩ (hnew hqs)
  · exact absurd ⟨q, hq₀, hqp, hqr.trans hpinv, hqs⟩ (hnew hrs)
  · exact h q hq₀ r hr₀ hqr hqs hrs

end Update

/-! ## Invoices and attempts -/

/-- The status of an invoice agrees with those of its attempts. -/
structure Coupled (invoices : Table Invoice) (attempts : Table PaymentAttempt) : Prop where
  paid : ∀ i ∈ invoices, i.status = .paid ↔ HasAttempt attempts i .success
  success : AtMostOne attempts .success
  pending : AtMostOne attempts .pending
  failed : ∀ i ∈ invoices, i.status = .failed → HasAttempt attempts i .failed

namespace Coupled

variable {invoices invoices' : Table Invoice} {attempts : Table PaymentAttempt}

/-- Invoices change without becoming PAID or FAILED, or are new. -/
theorem of_invoices (h : Coupled invoices attempts)
    (hrows : ∀ i' ∈ invoices',
      (∃ i ∈ invoices, i.id = i'.id ∧ (i'.status = .paid ↔ i.status = .paid) ∧
        (i'.status = .failed → i.status = .failed)) ∨
      (i'.status = .issued ∧ ∀ p ∈ attempts, p.invoiceId ≠ i'.id)) :
    Coupled invoices' attempts where
  paid i' hi' := by
    rcases hrows i' hi' with ⟨i, hi, hid, hpaid, -⟩ | ⟨hissued, hnone⟩
    · rw [hpaid, h.paid i hi]
      simp only [HasAttempt, hid]
    · constructor
      · intro hpaid
        simp [hissued] at hpaid
      · rintro ⟨p, hp, hinvoice, -⟩
        exact absurd hinvoice (hnone p hp)
  success := h.success
  pending := h.pending
  failed i' hi' hfailed := by
    rcases hrows i' hi' with ⟨i, hi, hid, -, hfailed'⟩ | ⟨hissued, -⟩
    · obtain ⟨p, hp, hinvoice, hstatus⟩ := h.failed i hi (hfailed' hfailed)
      exact ⟨p, hp, hinvoice.trans hid, hstatus⟩
    · simp [hissued] at hfailed

/-- A PENDING attempt is added to an invoice all of whose attempts failed. -/
theorem insert (h : Coupled invoices attempts) {p : PaymentAttempt} {i : Invoice}
    (hinvoice : p.invoiceId = i.id) (hpending : p.status = .pending)
    (hfailed : ∀ q ∈ attempts, q.invoiceId = i.id → q.status = .failed) :
    Coupled invoices (attempts.insert p) := by
  have hold : ∀ {q : PaymentAttempt} {status : PaymentStatus}, status ≠ .pending →
      q ∈ attempts.insert p → q.status = status → q ∈ attempts := by
    intro q status hne hq hstatus
    rcases Table.mem_insert.mp hq with hq | rfl
    · exact hq
    · exact absurd (hstatus.symm.trans hpending) hne
  have hhas : ∀ {j : Invoice} {status : PaymentStatus}, status ≠ .pending →
      (HasAttempt (attempts.insert p) j status ↔ HasAttempt attempts j status) := by
    intro j status hne
    constructor
    · rintro ⟨q, hq, hj, hstatus⟩
      exact ⟨q, hold hne hq hstatus, hj, hstatus⟩
    · rintro ⟨q, hq, hj, hstatus⟩
      exact ⟨q, Table.mem_insert_of_mem hq, hj, hstatus⟩
  refine ⟨?_, ?_, ?_, ?_⟩
  · intro j hj
    rw [hhas (by decide)]
    exact h.paid j hj
  · intro q hq r hr hqr hqs hrs
    exact h.success q (hold (by decide) hq hqs) r (hold (by decide) hr hrs) hqr hqs hrs
  · intro q hq r hr hqr hqs hrs
    rcases Table.mem_insert.mp hq with hq | rfl <;> rcases Table.mem_insert.mp hr with hr | rfl
    · exact h.pending q hq r hr hqr hqs hrs
    · simp [hfailed q hq (hqr.trans hinvoice)] at hqs
    · simp [hfailed r hr (hqr.symm.trans hinvoice)] at hrs
    · rfl
  · intro j hj hstatus
    rw [hhas (by decide)]
    exact h.failed j hj hstatus

/-- An attempt and its invoice change together.  The conditions compare the new rows with the other
attempts of the invoice. -/
theorem update (h : Coupled invoices attempts) {p p' : PaymentAttempt} {i i' : Invoice}
    (hp : p ∈ attempts) (hi : i ∈ invoices) (hpi : i.id = p.invoiceId)
    (hpid : p'.id = p.id) (hpinv : p'.invoiceId = p.invoiceId) (hiid : i'.id = i.id)
    (hpaid : i'.status = .paid ↔ p'.status = .success ∨ HasOther attempts p .success)
    (hsuccess : p'.status = .success → ¬ HasOther attempts p .success)
    (hpending : p'.status = .pending → p.status = .pending)
    (hfailed : i'.status = .failed → p'.status = .failed ∨ HasOther attempts p .failed) :
    Coupled (invoices.update i') (attempts.update p') := by
  have hinvoices : ∀ j ∈ invoices.update i',
      (j = i' ∧ j.id = p.invoiceId) ∨ (j ∈ invoices ∧ j.id ≠ p.invoiceId) := by
    intro j hj
    rcases (Table.mem_update_of_mem hi hiid).mp hj with rfl | ⟨hj, hne⟩
    · exact Or.inl ⟨rfl, hiid.trans hpi⟩
    · exact Or.inr ⟨hj, fun hid => hne (Table.eq_of_key_eq hj hi (hid.trans hpi.symm))⟩
  have hstill : p'.status = .pending → ¬ HasOther attempts p .pending :=
    fun hp' => h.pending.not_hasOther hp (hpending hp')
  refine ⟨?_, h.success.update hp hpid hpinv hsuccess, h.pending.update hp hpid hpinv hstill, ?_⟩
  · intro j hj
    rcases hinvoices j hj with ⟨rfl, hid⟩ | ⟨hj, hid⟩
    · rw [hasAttempt_update_own hp hpid hpinv hid]
      exact hpaid
    · rw [hasAttempt_update_other hp hpid hpinv hid]
      exact h.paid j hj
  · intro j hj hstatus
    rcases hinvoices j hj with ⟨rfl, hid⟩ | ⟨hj, hid⟩
    · rw [hasAttempt_update_own hp hpid hpinv hid]
      exact hfailed hstatus
    · rw [hasAttempt_update_other hp hpid hpinv hid]
      exact h.failed j hj hstatus

/-- An attempt changes without changing its status. -/
theorem same_status (h : Coupled invoices attempts) {p p' : PaymentAttempt} (hp : p ∈ attempts)
    (hpid : p'.id = p.id) (hpinv : p'.invoiceId = p.invoiceId) (hstatus : p'.status = p.status) :
    Coupled invoices (attempts.update p') := by
  have hhas : ∀ {j : Invoice} {status : PaymentStatus},
      HasAttempt (attempts.update p') j status ↔ HasAttempt attempts j status := by
    intro j status
    by_cases hid : j.id = p.invoiceId
    · rw [hasAttempt_update_own hp hpid hpinv hid, hasAttempt_own hp hid, hstatus]
    · exact hasAttempt_update_other hp hpid hpinv hid
  have hone : ∀ {status : PaymentStatus}, AtMostOne attempts status →
      AtMostOne (attempts.update p') status := by
    intro status hone
    exact hone.update hp hpid hpinv fun hp' => hone.not_hasOther hp (hstatus.symm.trans hp')
  refine ⟨?_, hone h.success, hone h.pending, ?_⟩
  · intro i hi
    rw [hhas]
    exact h.paid i hi
  · intro i hi hfailed
    rw [hhas]
    exact h.failed i hi hfailed

end Coupled

/-! ## One transaction -/

variable {env : Env} {readings : List DateTime} {b b' : Books}

/-- Closing an invoice gives it no status but CANCELED. -/
theorem closeOpen_status {subscriptionId : ℕ} {i : Invoice} {status : InvoiceStatus}
    (hstatus : status ≠ .canceled) (h : (closeOpen subscriptionId i).status = status) :
    i.status = status := by
  unfold closeOpen at h
  split_ifs at h
  · exact absurd h.symm hstatus
  · exact h

/-- Closing makes no invoice PAID, and none unpaid. -/
theorem closeOpen_paid (subscriptionId : ℕ) (i : Invoice) :
    (closeOpen subscriptionId i).status = .paid ↔ i.status = .paid := by
  refine ⟨closeOpen_status (by decide), ?_⟩
  intro h
  rw [(i.edge_closeOpen subscriptionId).later.paid h, h]

/-- What brings no result of the provider keeps invoices and attempts in agreement. -/
theorem Lifecycle.coupled (h : Lifecycle readings b b') (hb : Coupled b.invoices b.attempts)
    (hlinked : Linked b) : Coupled b'.invoices b'.attempts := by
  cases h with
  | billed =>
    refine hb.of_invoices ?_
    intro j hj
    rcases Table.mem_insert.mp hj with hj | rfl
    · exact Or.inl ⟨j, hj, rfl, Iff.rfl, fun h => h⟩
    · refine Or.inr ⟨rfl, ?_⟩
      intro p hp hinvoice
      obtain ⟨i, hi, hid, -⟩ := hlinked.invoice p hp
      exact (Table.key_lt hi).ne (hid.trans hinvoice)
  | canceled _ _ _ _ _ hclosed =>
    refine hb.of_invoices ?_
    intro j hj
    obtain ⟨i, hi, rfl⟩ := (hclosed j).mp hj
    exact Or.inl ⟨i, hi, (closeOpen_id _ i).symm, closeOpen_paid _ i, closeOpen_status (by decide)⟩
  | prepared hc => exact hb.insert rfl rfl hc.allFailed
  | reissued hi hstatus =>
    refine hb.of_invoices ?_
    intro j hj
    rcases (Table.mem_update_of_mem hi (by rfl)).mp hj with rfl | ⟨hj, -⟩
    · exact Or.inl ⟨_, hi, rfl, by simp [hstatus, Invoice.stamp], by simp [Invoice.stamp]⟩
    · exact Or.inl ⟨j, hj, rfl, Iff.rfl, fun h => h⟩
  | abandoned hi hstatus =>
    refine hb.of_invoices ?_
    intro j hj
    rcases (Table.mem_update_of_mem hi (by rfl)).mp hj with rfl | ⟨hj, -⟩
    · exact Or.inl ⟨_, hi, rfl, by simp [hstatus, Invoice.stamp], by simp [Invoice.stamp]⟩
    · exact Or.inl ⟨j, hj, rfl, Iff.rfl, fun h => h⟩
  | exhausted hi hstatus _ _ _ _ _ _ hclosed =>
    refine hb.of_invoices ?_
    intro j hj
    obtain ⟨k, hk, rfl⟩ := (hclosed j).mp hj
    rcases (Table.mem_update_of_mem hi (by rfl)).mp hk with rfl | ⟨hk, -⟩
    · refine Or.inl ⟨_, hi, ?_, ?_, ?_⟩
      · rw [closeOpen_id]
        rfl
      · rw [closeOpen_paid]
        simp [hstatus, Invoice.stamp]
      · intro h
        have := closeOpen_status (by decide) h
        simp [Invoice.stamp] at this
    · exact Or.inl ⟨k, hk, (closeOpen_id _ k).symm, closeOpen_paid _ k,
        closeOpen_status (by decide)⟩
  | _ => exact hb

/-- A settlement keeps invoices and attempts in agreement. -/
theorem Settles.coupled {p : PaymentAttempt} {success : Bool} {response : List (String × Json)}
    {incoming : Json} {now : DateTime} (h : Settles env b p success response incoming now b')
    (hb : Coupled b.invoices b.attempts) : Coupled b'.invoices b'.attempts := by
  obtain ⟨hp, i, hi, s, -, hpi, -, h⟩ := h
  cases h with
  | ignored => exact hb
  | mismatched => exact hb.same_status hp rfl rfl rfl
  | collided => exact hb.same_status hp rfl rfl rfl
  | repeated _ _ _ _ hrow => rcases hrow with rfl | rfl <;> exact hb.same_status hp rfl rfl rfl
  | inapplicable => exact hb.same_status hp rfl rfl rfl
  | applied hopen _ _ happ =>
    refine hb.update hp hi hpi rfl rfl rfl ⟨fun _ => Or.inl rfl, fun _ => rfl⟩
      ?_ (fun h => PaymentStatus.noConfusion h)
      (fun h => InvoiceStatus.noConfusion h)
    rintro _ ⟨q, hq, hne, hinvoice, hq'⟩
    exact hne (Table.eq_of_key_eq hq hp (happ.noOther q hq (hinvoice.trans hpi.symm) hq'))
  | declined hopen _ _ hpending hdec =>
    have hunpaid : i.status ≠ .paid := by
      rcases Invoice.payable_iff.mp hdec.payable with h | h | h <;> simp [h]
    have hstill : (i.declined now).status ≠ .paid := by
      rw [i.declined_status]
      split_ifs
      · decide
      · exact hunpaid
    refine hb.update hp hi hpi rfl rfl (i.edge_declined now).later.id
      ⟨fun h => absurd h hstill, ?_⟩ (fun h => PaymentStatus.noConfusion h)
      (fun h => PaymentStatus.noConfusion h) (fun _ => Or.inl rfl)
    intro h
    rcases h with h | ⟨q, hq, -, hinvoice, hq'⟩
    · exact PaymentStatus.noConfusion h
    · exact absurd hq' (hdec.noSuccess q hq (hinvoice.trans hpi.symm))
  | declinedClosed hopen _ _ hpending hdec =>
    have hself : b.invoices = b.invoices.update i := (Table.update_self hi).symm
    -- neither before nor after is the attempt the one that pays the invoice
    have hpaid : i.status = .paid ↔ PaymentStatus.failed = .success ∨
        HasOther b.attempts p .success := by
      rw [hb.paid i hi, hasAttempt_own hp hpi]
      simp [hpending]
    simp only
    rw [hself]
    exact hb.update hp hi hpi rfl rfl rfl hpaid (fun h => PaymentStatus.noConfusion h)
      (fun h => PaymentStatus.noConfusion h) (fun _ => Or.inl rfl)

/-- A step keeps invoices and attempts in agreement. -/
theorem BooksStep.coupled (h : BooksStep env readings b b') (hb : Coupled b.invoices b.attempts)
    (hlinked : Linked b) : Coupled b'.invoices b'.attempts := by
  cases h with
  | lifecycle h => exact h.coupled hb hlinked
  | settled h => exact h.coupled hb

end Chargeflow
