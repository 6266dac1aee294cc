import Chargeflow.Books.Links
import Chargeflow.Effects.Receipts

/-!
# Attempts and receipts

A consistent provider answers every charge with the one receipt of its key, so that a settlement
always brings the outcome of the receipt of its attempt.  Then the attempts tell the truth about the
ledger: a FAILED attempt has a receipt of a declined charge.  As an attempt is only created when all
others of its invoice are FAILED, an invoice has at most one attempt that may have been charged.
-/

namespace Chargeflow

open Foundation MockPaymentGateway

/-- The ledger holds a receipt with an outcome for an attempt. -/
def HasReceipt (receipts : Table MockChargeReceipt) (p : PaymentAttempt) (success : Bool) : Prop :=
  ∃ r ∈ receipts, r.providerIdempotencyKey = p.providerIdempotencyKey ∧ r.success = success

/-- The attempts agree with the receipts of the provider, and an invoice has one attempt that has
not failed. -/
structure Truthful (attempts : Table PaymentAttempt) (receipts : Table MockChargeReceipt) :
    Prop where
  unique : ∀ r ∈ receipts, ∀ r' ∈ receipts,
    r.providerIdempotencyKey = r'.providerIdempotencyKey → r = r'
  failed : ∀ p ∈ attempts, p.status = .failed → HasReceipt receipts p false
  single : ∀ p ∈ attempts, ∀ q ∈ attempts, p.invoiceId = q.invoiceId → p.status ≠ .failed →
    q.status ≠ .failed → p = q

namespace Truthful

variable {attempts : Table PaymentAttempt} {receipts : Table MockChargeReceipt}

/-- An attempt that was charged is not FAILED. -/
theorem not_failed (h : Truthful attempts receipts) {p : PaymentAttempt} (hp : p ∈ attempts)
    (hcharged : HasReceipt receipts p true) : p.status ≠ .failed := by
  intro hfailed
  obtain ⟨r, hr, hkey, hsuccess⟩ := hcharged
  obtain ⟨r', hr', hkey', hdeclined⟩ := h.failed p hp hfailed
  rw [h.unique r hr r' hr' (hkey.trans hkey'.symm), hdeclined] at hsuccess
  exact Bool.noConfusion hsuccess

/-- At most one attempt of an invoice was charged, and it was charged once. -/
theorem charged_unique (h : Truthful attempts receipts) {p q : PaymentAttempt} (hp : p ∈ attempts)
    (hq : q ∈ attempts) (hpq : p.invoiceId = q.invoiceId) {r r' : MockChargeReceipt}
    (hr : r ∈ receipts) (hr' : r' ∈ receipts)
    (hrp : r.providerIdempotencyKey = p.providerIdempotencyKey)
    (hrq : r'.providerIdempotencyKey = q.providerIdempotencyKey) (hsuccess : r.success = true)
    (hsuccess' : r'.success = true) : r = r' := by
  have hsame : p = q := h.single p hp q hq hpq (h.not_failed hp ⟨r, hr, hrp, hsuccess⟩)
    (h.not_failed hq ⟨r', hr', hrq, hsuccess'⟩)
  exact h.unique r hr r' hr' (by rw [hrp, hrq, hsame])

/-- The attempts change, and each that ends has the receipt for it. -/
theorem evolve (h : Truthful attempts receipts) {attempts' : Table PaymentAttempt}
    (hrows : ∀ p' ∈ attempts', ∃ p ∈ attempts, p.id = p'.id ∧ p.Later p' ∧
      (p'.status = p.status ∨ p'.status = .success ∧ HasReceipt receipts p true ∨
        p'.status = .failed ∧ HasReceipt receipts p false)) :
    Truthful attempts' receipts := by
  have hreceipt : ∀ {p p' : PaymentAttempt} {success : Bool}, p.Later p' →
      HasReceipt receipts p success → HasReceipt receipts p' success := by
    intro p p' success hlater hp
    obtain ⟨r, hr, hkey, hsuccess⟩ := hp
    exact ⟨r, hr, hkey.trans hlater.snapshot.providerIdempotencyKey.symm, hsuccess⟩
  -- an attempt that is not FAILED was not FAILED before
  have hopen : ∀ p' ∈ attempts', p'.status ≠ .failed → ∃ p ∈ attempts, p.id = p'.id ∧
      p.invoiceId = p'.invoiceId ∧ p.status ≠ .failed := by
    intro p' hp' hstatus
    obtain ⟨p, hp, hid, hlater, hcase⟩ := hrows p' hp'
    refine ⟨p, hp, hid, hlater.snapshot.invoiceId.symm, ?_⟩
    rcases hcase with hsame | ⟨-, hcharged⟩ | ⟨hfailed, -⟩
    · rwa [← hsame]
    · exact h.not_failed hp hcharged
    · exact absurd hfailed hstatus
  refine ⟨h.unique, ?_, ?_⟩
  · intro p' hp' hfailed
    obtain ⟨p, hp, -, hlater, hcase⟩ := hrows p' hp'
    rcases hcase with hsame | ⟨hsuccess, -⟩ | ⟨-, hdeclined⟩
    · exact hreceipt hlater (h.failed p hp (hsame.symm.trans hfailed))
    · simp [hsuccess] at hfailed
    · exact hreceipt hlater hdeclined
  · intro p' hp' q' hq' hpq hpopen hqopen
    obtain ⟨p, hp, hpid, hpinv, hpstatus⟩ := hopen p' hp' hpopen
    obtain ⟨q, hq, hqid, hqinv, hqstatus⟩ := hopen q' hq' hqopen
    have hsame : p = q := h.single p hp q hq (by rw [hpinv, hqinv, hpq]) hpstatus hqstatus
    exact Table.eq_of_key_eq hp' hq' (by rw [key_attempt, key_attempt, ← hpid, ← hqid, hsame])

/-- A PENDING attempt is added to an invoice all of whose attempts failed. -/
theorem insert (h : Truthful attempts receipts) {p : PaymentAttempt}
    (hpending : p.status = .pending)
    (hall : ∀ q ∈ attempts, q.invoiceId = p.invoiceId → q.status = .failed) :
    Truthful (attempts.insert p) receipts := by
  have hnew : (withKey attempts.next p).status = .pending := hpending
  refine ⟨h.unique, ?_, ?_⟩
  · intro q hq hfailed
    rcases Table.mem_insert.mp hq with hq | rfl
    · exact h.failed q hq hfailed
    · simp [hnew] at hfailed
  · intro q hq q' hq' hqq' hopen hopen'
    rcases Table.mem_insert.mp hq with hq | rfl <;> rcases Table.mem_insert.mp hq' with hq' | rfl
    · exact h.single q hq q' hq' hqq' hopen hopen'
    · exact absurd (hall q hq hqq') hopen
    · exact absurd (hall q' hq' hqq'.symm) hopen'
    · rfl

end Truthful

/-! ## One transaction -/

variable {env : Env} {readings : List DateTime} {b b' : Books}
  {receipts : Table MockChargeReceipt}

/-- What brings no result of the provider keeps attempts and receipts in agreement. -/
theorem Lifecycle.truthful (h : Lifecycle readings b b') (hb : Truthful b.attempts receipts) :
    Truthful b'.attempts receipts := by
  cases h with
  | prepared hc => exact hb.insert rfl hc.allFailed
  | _ => exact hb

/-- A settlement changes the status of its own attempt only, to the outcome it brings. -/
theorem Settles.status_cases {p : PaymentAttempt} {success : Bool}
    {response : List (String × Json)} {incoming : Json} {now : DateTime}
    (h : Settles env b p success response incoming now b') {q' : PaymentAttempt}
    (hq' : q' ∈ b'.attempts) : ∃ q ∈ b.attempts, q.id = q'.id ∧ q.Later q' ∧
      (q'.status = q.status ∨ q = p ∧ q'.status = if success then .success else .failed) := by
  obtain ⟨q, hq, hid, hlater⟩ := h.attempt_origin hq'
  refine ⟨q, hq, hid, hlater, ?_⟩
  obtain ⟨hp, i, -, s, -, -, -, h⟩ := h
  have hsame : ∀ {p' : PaymentAttempt}, p'.id = p.id → p'.status = p.status →
      q' ∈ b.attempts.update p' → q'.status = q.status := by
    intro p' hpid hstatus hmem
    exact Table.update_field PaymentAttempt.status hp hpid hstatus hq hmem hid
  have hends : ∀ {p' : PaymentAttempt}, p'.id = p.id →
      p'.status = (if success then .success else .failed) → q' ∈ b.attempts.update p' →
      q'.status = q.status ∨ q = p ∧ q'.status = if success then .success else .failed := by
    intro p' hpid hstatus hmem
    rcases Table.update_version hp hpid hq hmem hid with rfl | ⟨rfl, rfl⟩
    · exact Or.inl rfl
    · exact Or.inr ⟨rfl, hstatus⟩
  cases h with
  | ignored => exact Or.inl (congrArg _ (Table.eq_of_key_eq hq' hq hid.symm))
  | mismatched => exact Or.inl (hsame (by rfl) (by rfl) hq')
  | collided => exact Or.inl (hsame (by rfl) (by rfl) hq')
  | repeated _ _ _ _ hrepeated =>
    rcases hrepeated with rfl | rfl <;> exact Or.inl (hsame (by rfl) (by rfl) hq')
  | inapplicable => exact Or.inl (hsame (by rfl) (by rfl) hq')
  | applied _ _ hsuccess =>
    refine hends (by rfl) ?_ hq'
    rw [hsuccess]
    rfl
  | declined _ _ hfailure =>
    refine hends (by rfl) ?_ hq'
    rw [hfailure]
    rfl
  | declinedClosed _ _ hfailure =>
    refine hends (by rfl) ?_ hq'
    rw [hfailure]
    rfl

/-- A settlement with the outcome of the receipt. -/
theorem Settles.truthful {p : PaymentAttempt} {success : Bool} {response : List (String × Json)}
    {incoming : Json} {now : DateTime} (h : Settles env b p success response incoming now b')
    (hb : Truthful b.attempts receipts) (hreceipt : HasReceipt receipts p success) :
    Truthful b'.attempts receipts := by
  refine hb.evolve ?_
  intro q' hq'
  obtain ⟨q, hq, hid, hlater, hsame | ⟨rfl, hends⟩⟩ := h.status_cases hq'
  · exact ⟨q, hq, hid, hlater, Or.inl hsame⟩
  · refine ⟨q, hq, hid, hlater, Or.inr ?_⟩
    cases success with
    | true => exact Or.inl ⟨hends, hreceipt⟩
    | false => exact Or.inr ⟨hends, hreceipt⟩

/-- A call of the gateway leaves the attempts alone, and the receipts it finds. -/
theorem MockPaymentGateway.Answered.truthful {db db' : Db} {request : ChargeRequest}
    {fingerprint : String} {seen : Option MockChargeReceipt} {success : Bool} {chargeId : String}
    {r : MockChargeReceipt} (h : Answered db request fingerprint seen success chargeId db' r)
    (hdb : Truthful db.attempts db.receipts) : Truthful db'.attempts db'.receipts := by
  cases h with
  | drawn _ hfree =>
    refine ⟨?_, ?_, hdb.single⟩
    · intro r hr r' hr' hkey
      rcases Table.mem_insert.mp hr with hr | rfl <;> rcases Table.mem_insert.mp hr' with hr' | rfl
      · exact hdb.unique r hr r' hr' hkey
      · exact absurd hkey (hfree r hr)
      · exact absurd hkey.symm (hfree r' hr')
      · rfl
    · intro p hp hfailed
      obtain ⟨r, hr, hdeclined⟩ := hdb.failed p hp hfailed
      exact ⟨r, Table.mem_insert_of_mem hr, hdeclined⟩
  | _ => exact hdb

end Chargeflow
