import Chargeflow.Books.Issues

/-!
# The rounds of dunning

As long as charges are only made of ISSUED invoices, an invoice has one attempt for each time it was
issued, and an ISSUED one may still lack the last of them.  Once an invoice is FAILED all its
attempts are, so their number, by which dunning decides, is the number of issues
(`Invoice.InRound`).
-/

namespace Chargeflow

open Foundation

/-- The attempts of the invoice `n`. -/
def attemptsOf (attempts : Table PaymentAttempt) (n : ℕ) : List PaymentAttempt :=
  attempts.filter fun p => p.invoiceId == n

/-- All attempts of the invoice `n` failed. -/
def AllFailed (attempts : Table PaymentAttempt) (n : ℕ) : Prop :=
  ∀ p ∈ attempts, p.invoiceId = n → p.status = .failed

/-- The FAILED attempts of an invoice are all of them. -/
theorem AllFailed.filter_failed {attempts : Table PaymentAttempt} {n : ℕ}
    (h : AllFailed attempts n) :
    (attempts.filter fun p => p.invoiceId == n && p.status == .failed) = attemptsOf attempts n := by
  refine List.filter_congr ?_
  intro p hp
  by_cases hinvoice : p.invoiceId = n
  · simp [h p hp hinvoice]
  · simp [hinvoice]

/-- The attempts of an invoice agree with the number `k` of its issues. -/
structure Invoice.InRound (i : Invoice) (attempts : Table PaymentAttempt) (k : ℕ) : Prop where
  count : (attemptsOf attempts i.id).length ≤ k
  limit : k ≤ maxDunningAttempts
  issued : i.status = .issued →
    AllFailed attempts i.id ∧ (attemptsOf attempts i.id).length + 1 = k ∨
      HasAttempt attempts i .pending ∧ (attemptsOf attempts i.id).length = k
  failed : i.status = .failed → AllFailed attempts i.id ∧ (attemptsOf attempts i.id).length = k

/-- Every invoice is in the round that `k` says, and a key without an invoice has none. -/
structure InRounds (b : Books) (k : ℕ → ℕ) : Prop where
  free : ∀ n, (∀ i ∈ b.invoices, i.id ≠ n) → k n = 0
  invoices : ∀ i ∈ b.invoices, i.InRound b.attempts (k i.id)

/-! ## One invoice -/

namespace Invoice.InRound

variable {i i' : Invoice} {attempts : Table PaymentAttempt} {p p' : PaymentAttempt} {k : ℕ}

/-- An invoice that leaves dunning. -/
theorem close (h : i.InRound attempts k) (hid : i'.id = i.id) (hissued : i'.status ≠ .issued)
    (hfailed : i'.status ≠ .failed) : i'.InRound attempts k :=
  ⟨hid ▸ h.count, h.limit, fun hstatus => absurd hstatus hissued,
    fun hstatus => absurd hstatus hfailed⟩

/-- The number of the attempts of an invoice does not change with their statuses. -/
theorem length_update (hp : p ∈ attempts) (hpid : p'.id = p.id)
    (hpinv : p'.invoiceId = p.invoiceId) (n : ℕ) :
    (attemptsOf (attempts.update p') n).length = (attemptsOf attempts n).length := by
  refine Table.length_filter_update ?_
  intro q hq hkey
  rw [Table.eq_of_key_eq hq hp (hkey.trans hpid), hpinv]

/-- All attempts have failed if none has another status. -/
theorem allFailed_iff : AllFailed attempts i.id ↔
    ∀ status, status ≠ .failed → ¬ HasAttempt attempts i status := by
  constructor
  · rintro h status hne ⟨p, hp, hinvoice, rfl⟩
    exact hne (h p hp hinvoice)
  · intro h p hp hinvoice
    by_contra hne
    exact h p.status hne ⟨p, hp, hinvoice, rfl⟩

/-- An attempt changes that belongs to another invoice, or that keeps its status. -/
theorem update (h : i.InRound attempts k) (hp : p ∈ attempts) (hpid : p'.id = p.id)
    (hpinv : p'.invoiceId = p.invoiceId) (hsame : i.id = p.invoiceId → p'.status = p.status) :
    i.InRound (attempts.update p') k := by
  have hhas : ∀ status, HasAttempt (attempts.update p') i status ↔ HasAttempt attempts i status := by
    intro status
    by_cases hid : i.id = p.invoiceId
    · rw [hasAttempt_update_own hp hpid hpinv hid, hasAttempt_own hp hid, hsame hid]
    · exact hasAttempt_update_other hp hpid hpinv hid
  have hlength := length_update hp hpid hpinv i.id
  refine ⟨hlength ▸ h.count, h.limit, ?_, ?_⟩
  · simp only [allFailed_iff, hhas, hlength]
    simpa only [allFailed_iff] using h.issued
  · simp only [allFailed_iff, hhas, hlength]
    simpa only [allFailed_iff] using h.failed

/-- A FAILED invoice is issued again while it has not used up its attempts. -/
theorem reissue (h : i.InRound attempts k) (hstatus : i.status = .failed)
    (hcount : (attempts.filter fun p => p.invoiceId == i.id && p.status == .failed).length <
      maxDunningAttempts) (hid : i'.id = i.id) (hissued : i'.status = .issued) :
    i'.InRound attempts (k + 1) := by
  obtain ⟨hall, hlength⟩ := h.failed hstatus
  rw [hall.filter_failed, hlength] at hcount
  refine ⟨?_, hcount, fun _ => Or.inl ?_, ?_⟩
  · rw [hid, hlength]
    omega
  · rw [hid]
    exact ⟨hall, by omega⟩
  · intro hfail
    simp [hissued] at hfail

/-- An ISSUED invoice gets the attempt of its round. -/
theorem insert (h : i.InRound attempts k) (hpending : p.status = .pending)
    (hown : p.invoiceId = i.id → i.status = .issued ∧ AllFailed attempts i.id) :
    i.InRound (attempts.insert p) k := by
  have hlength : (attemptsOf (attempts.insert p) i.id).length =
      (attemptsOf attempts i.id).length + if p.invoiceId = i.id then 1 else 0 := by
    have hinsert := Table.length_filter_insert (t := attempts) (a := p)
      (p := fun q => q.invoiceId == i.id)
    have hinvoice : (withKey attempts.next p).invoiceId = p.invoiceId := rfl
    simpa [attemptsOf, hinvoice] using hinsert
  by_cases hinvoice : p.invoiceId = i.id
  · obtain ⟨hissued, hall⟩ := hown hinvoice
    rw [if_pos hinvoice] at hlength
    have hfull : (attemptsOf attempts i.id).length + 1 = k := by
      rcases h.issued hissued with ⟨-, hround⟩ | ⟨⟨q, hq, hqi, hqs⟩, -⟩
      · exact hround
      · simp [hall q hq hqi] at hqs
    refine ⟨by omega, h.limit, fun _ => Or.inr ⟨?_, by omega⟩, ?_⟩
    · exact ⟨_, Table.mem_insert_self, hinvoice, hpending⟩
    · intro hfailed
      simp [hissued] at hfailed
  · rw [if_neg hinvoice] at hlength
    have hrows : ∀ q ∈ attempts.insert p, q.invoiceId = i.id → q ∈ attempts := by
      intro q hq hqi
      rcases Table.mem_insert.mp hq with hq | rfl
      · exact hq
      · exact absurd hqi hinvoice
    have hall : AllFailed attempts i.id → AllFailed (attempts.insert p) i.id :=
      fun hall q hq hqi => hall q (hrows q hq hqi) hqi
    refine ⟨by have := h.count; omega, h.limit, ?_, ?_⟩
    · intro hissued
      rcases h.issued hissued with ⟨hfailed, hround⟩ | ⟨⟨q, hq, hqi, hqs⟩, hround⟩
      · exact Or.inl ⟨hall hfailed, by omega⟩
      · exact Or.inr ⟨⟨q, Table.mem_insert_of_mem hq, hqi, hqs⟩, by omega⟩
    · intro hfailed
      obtain ⟨hfailed', hround⟩ := h.failed hfailed
      exact ⟨hall hfailed', by omega⟩

/-- An invoice leaves dunning by the change of one of its attempts. -/
theorem close_update (h : i.InRound attempts k) (hp : p ∈ attempts) (hpid : p'.id = p.id)
    (hpinv : p'.invoiceId = p.invoiceId) (hid : i'.id = i.id) (hissued : i'.status ≠ .issued)
    (hfailed : i'.status ≠ .failed) : i'.InRound (attempts.update p') k := by
  refine ⟨?_, h.limit, fun hstatus => absurd hstatus hissued,
    fun hstatus => absurd hstatus hfailed⟩
  rw [hid, length_update hp hpid hpinv]
  exact h.count

/-- The attempt of the round fails, and with it the invoice. -/
theorem fail (h : i.InRound attempts k) (hissued : i.status = .issued) (hp : p ∈ attempts)
    (hpi : i.id = p.invoiceId) (hpending : p.status = .pending)
    (hone : AtMostOne attempts .pending) (hnone : ¬ HasAttempt attempts i .success)
    (hpid : p'.id = p.id) (hpinv : p'.invoiceId = p.invoiceId) (hpfailed : p'.status = .failed)
    (hid : i'.id = i.id) (hfailed : i'.status = .failed) :
    i'.InRound (attempts.update p') k := by
  have hfull : (attemptsOf attempts i.id).length = k := by
    rcases h.issued hissued with ⟨hall, -⟩ | ⟨-, hround⟩
    · simp [hall p hp hpi.symm] at hpending
    · exact hround
  have hlength := length_update hp hpid hpinv i.id
  refine ⟨by rw [hid]; omega, h.limit, fun hstatus => ?_, fun _ => ⟨?_, by rw [hid]; omega⟩⟩
  · simp [hfailed] at hstatus
  · intro q hq hqi
    rcases (Table.mem_update_of_mem hp hpid).mp hq with rfl | ⟨hq, hne⟩
    · exact hpfailed
    · rw [hid] at hqi
      cases hstatus : q.status with
      | failed => rfl
      | pending => exact absurd (hone q hq p hp (hqi.trans hpi) hstatus hpending) hne
      | success => exact absurd ⟨q, hq, hqi, hstatus⟩ hnone

end Invoice.InRound

/-! ## One transaction -/

/-- A transaction that issues no invoice with the key of the row. -/
theorem not_issuedBy {b b' : Books} {i' : Invoice} (hi' : i' ∈ b'.invoices)
    (h : i'.status = .issued → ∃ i ∈ b.invoices, i.id = i'.id ∧ i.status = .issued) :
    ¬ IssuedBy b b' i'.id := by
  rintro ⟨⟨j, hj, hid, hissued⟩, hbefore⟩
  rw [Table.eq_of_key_eq hj hi' hid] at hissued
  obtain ⟨i, hi, hid', hstatus⟩ := h hissued
  exact hbefore i hi hid' hstatus

/-- The number of the issues of an invoice after a transaction. -/
def issuesAfter (b b' : Books) (k : ℕ → ℕ) (n : ℕ) : ℕ := k n + if IssuedBy b b' n then 1 else 0

section

variable {env : Env} {readings : List DateTime} {b b' : Books} {k : ℕ → ℕ}

/-- A row that is not issued keeps its round. -/
theorem InRounds.kept {i' : Invoice} (hi' : i' ∈ b'.invoices)
    (hround : i'.InRound b'.attempts (k i'.id))
    (h : i'.status = .issued → ∃ i ∈ b.invoices, i.id = i'.id ∧ i.status = .issued) :
    i'.InRound b'.attempts (issuesAfter b b' k i'.id) := by
  rw [issuesAfter, if_neg (not_issuedBy hi' h)]
  exact hround

/-- Closing an invoice keeps it in its round. -/
theorem InRounds.closeOpen (hb : InRounds b k) {i : Invoice} (hi : i ∈ b.invoices)
    (subscriptionId : ℕ) {b' : Books} (hi' : Chargeflow.closeOpen subscriptionId i ∈ b'.invoices)
    (hattempts : b'.attempts = b.attempts) :
    (Chargeflow.closeOpen subscriptionId i).InRound b'.attempts
      (issuesAfter b b' k (Chargeflow.closeOpen subscriptionId i).id) := by
  refine InRounds.kept hi' ?_ ?_
  · rw [hattempts, closeOpen_id]
    unfold Chargeflow.closeOpen
    split_ifs
    · exact (hb.invoices i hi).close rfl (by simp) (by simp)
    · exact hb.invoices i hi
  · intro hissued
    exact ⟨i, hi, (closeOpen_id _ i).symm, closeOpen_status (by decide) hissued⟩

/-- Attempts are only created for ISSUED invoices. -/
def ChargesIssued (b b' : Books) : Prop :=
  ∀ p' ∈ b'.attempts, (∀ p ∈ b.attempts, p.id ≠ p'.id) → ∀ i ∈ b.invoices, i.id = p'.invoiceId →
    i.status = .issued

/-- What brings no result of the provider keeps every invoice in its round. -/
theorem Lifecycle.inRound (h : Lifecycle readings b b') (hb : InRounds b k) (hlinked : Linked b)
    (hcharges : ChargesIssued b b') {i' : Invoice} (hi' : i' ∈ b'.invoices) :
    i'.InRound b'.attempts (issuesAfter b b' k i'.id) := by
  have hsame : i' ∈ b.invoices → b'.attempts = b.attempts →
      i'.InRound b'.attempts (issuesAfter b b' k i'.id) := by
    intro hi hattempts
    exact InRounds.kept hi' (hattempts ▸ hb.invoices i' hi) fun hissued => ⟨i', hi, rfl, hissued⟩
  cases h with
  | idle => exact hsame hi' rfl
  | trialed => exact hsame hi' rfl
  | covered => exact hsame hi' rfl
  | @billed subs s hstart plan now hnone =>
    rcases Table.mem_insert.mp hi' with hi | rfl
    · exact hsame hi rfl
    · -- the first issue of an invoice without attempts
      have hby : IssuedBy b { b with
          subscriptions := subs
          invoices := b.invoices.insert (issuedInvoice plan s now) } b.invoices.next :=
        ⟨⟨_, hi', rfl, rfl⟩, fun j hj hjid => absurd hjid (Table.key_lt hj).ne⟩
      have hnone : ∀ p ∈ b.attempts, p.invoiceId ≠ b.invoices.next := by
        intro p hp
        obtain ⟨j, hj, hid, -⟩ := hlinked.invoice p hp
        exact hid ▸ (Table.key_lt hj).ne
      have hempty : attemptsOf b.attempts b.invoices.next = [] :=
        List.filter_eq_nil_iff.mpr fun p hp => by simp [hnone p hp]
      have hk : issuesAfter b { b with
          subscriptions := subs
          invoices := b.invoices.insert (issuedInvoice plan s now) } k b.invoices.next = 1 := by
        rw [issuesAfter, if_pos hby, hb.free _ fun j hj => (Table.key_lt hj).ne]
      refine hk ▸ ⟨by simp [withKey, hempty], by decide, fun _ => Or.inl ⟨?_, ?_⟩, ?_⟩
      · exact fun p hp hinvoice => absurd hinvoice (hnone p hp)
      · simp [withKey, hempty]
      · exact fun hfailed => InvoiceStatus.noConfusion hfailed
  | canceled _ _ _ _ _ hclosed =>
    obtain ⟨i, hi, rfl⟩ := (hclosed i').mp hi'
    exact hb.closeOpen hi _ hi' rfl
  | prepared hc customer key providerKey now =>
    refine InRounds.kept hi' ?_ fun hissued => ⟨i', hi', rfl, hissued⟩
    refine (hb.invoices i' hi').insert rfl ?_
    intro hinvoice
    obtain rfl := Table.eq_of_key_eq hc.invoice hi' hinvoice
    refine ⟨?_, hc.allFailed⟩
    exact hcharges _ Table.mem_insert_self (fun p hp => (Table.key_lt hp).ne) _ hi' rfl
  | @reissued i hi hstatus hcount now =>
    rcases (Table.mem_update_of_mem hi (by rfl)).mp hi' with rfl | ⟨hold, -⟩
    · have hby : IssuedBy b { b with invoices := b.invoices.update (i.stamp .issued now) }
          (i.stamp .issued now).id := by
        refine ⟨⟨_, hi', rfl, rfl⟩, ?_⟩
        intro j hj hjid
        rw [Table.eq_of_key_eq hj hi hjid, hstatus]
        exact InvoiceStatus.noConfusion
      rw [issuesAfter, if_pos hby]
      exact (hb.invoices i hi).reissue hstatus hcount rfl rfl
    · exact hsame hold rfl
  | abandoned hi hstatus _ _ _ now =>
    rcases (Table.mem_update_of_mem hi (by rfl)).mp hi' with rfl | ⟨hold, -⟩
    · refine InRounds.kept hi' ((hb.invoices _ hi).close rfl ?_ ?_) ?_ <;> simp [Invoice.stamp]
    · exact hsame hold rfl
  | @exhausted i hi hstatus _ s _ _ _ now _ _ hclosed =>
    obtain ⟨j, hj, rfl⟩ := (hclosed i').mp hi'
    rcases (Table.mem_update_of_mem hi (by rfl)).mp hj with rfl | ⟨hold, -⟩
    · have hclosedStatus : ∀ status, status ≠ .canceled → status ≠ .overdue →
          (Chargeflow.closeOpen s.id (i.stamp .overdue now)).status ≠ status := by
        intro status hne hne' hstatus'
        exact hne' (closeOpen_status hne hstatus').symm
      have hissued := hclosedStatus .issued (by decide) (by decide)
      refine InRounds.kept hi' ?_ fun h => absurd h hissued
      rw [closeOpen_id]
      exact (hb.invoices i hi).close (closeOpen_id s.id (i.stamp .overdue now)) hissued
        (hclosedStatus .failed (by decide) (by decide))
    · exact hb.closeOpen hold _ hi' rfl

/-- A settlement keeps every invoice in its round. -/
theorem Settles.inRound {p : PaymentAttempt} {success : Bool} {response : List (String × Json)}
    {incoming : Json} {now : DateTime} (h : Settles env b p success response incoming now b')
    (hb : InRounds b k) (hstanding : InStanding b.subscriptions b.invoices)
    (hcoupled : Coupled b.invoices b.attempts) {i' : Invoice} (hi' : i' ∈ b'.invoices) :
    i'.InRound b'.attempts (issuesAfter b b' k i'.id) := by
  have hsettles := h
  obtain ⟨hp, i, hi, s, hs, hpi, hsi, h⟩ := h
  -- an invoice that stays, and an attempt that keeps its status or belongs to another invoice
  have hkept : ∀ {p' : PaymentAttempt}, b'.attempts = b.attempts.update p' → p'.id = p.id →
      p'.invoiceId = p.invoiceId → (i'.id = p.invoiceId → p'.status = p.status) →
      i' ∈ b.invoices → i'.InRound b'.attempts (issuesAfter b b' k i'.id) := by
    intro p' hattempts hpid hpinv hsame hold
    refine InRounds.kept hi' ?_ fun hissued => ⟨i', hold, rfl, hissued⟩
    rw [hattempts]
    exact (hb.invoices i' hold).update hp hpid hpinv hsame
  have hother : ∀ {j : Invoice}, j ∈ b.invoices → j ≠ i → j.id ≠ p.invoiceId :=
    fun hj hne hid => hne (Table.eq_of_key_eq hj hi (hid.trans hpi.symm))
  -- a FAILED invoice has no PENDING attempt
  have hnotFailed : p.status = .pending → i.status ≠ .failed := by
    intro hpending hfailed
    simp [((hb.invoices i hi).failed hfailed).1 p hp hpi.symm] at hpending
  cases h with
  | ignored =>
    exact InRounds.kept hi' (hb.invoices i' hi') fun hissued => ⟨i', hi', rfl, hissued⟩
  | mismatched => exact hkept rfl rfl rfl (fun _ => rfl) hi'
  | collided => exact hkept rfl rfl rfl (fun _ => rfl) hi'
  | repeated _ _ _ _ hrow =>
    rcases hrow with rfl | rfl <;> exact hkept rfl rfl rfl (fun _ => rfl) hi'
  | inapplicable => exact hkept rfl rfl rfl (fun _ => rfl) hi'
  | applied =>
    rcases (Table.mem_update_of_mem hi (by rfl)).mp hi' with rfl | ⟨hold, hne⟩
    · refine InRounds.kept hi' ((hb.invoices i hi).close_update hp rfl rfl rfl ?_ ?_) ?_ <;>
        simp [Invoice.stamp]
    · exact hkept rfl rfl rfl (fun hid => absurd hid (hother hold hne)) hold
  | declined hopen _ _ hpending hdec =>
    rcases (Table.mem_update_of_mem hi (i.edge_declined now).later.id).mp hi' with
      rfl | ⟨hold, hne⟩
    · by_cases hissued : i.status = .issued
      · have hfailed : (i.declined now).status = .failed := by
          rw [i.declined_status, if_pos hissued]
        refine InRounds.kept hi' ?_ fun h => by simp [hfailed] at h
        rw [(i.edge_declined now).later.id]
        refine (hb.invoices i hi).fail hissued hp hpi hpending hcoupled.pending ?_ rfl rfl rfl
          (i.edge_declined now).later.id hfailed
        rintro ⟨q, hq, hqi, hsuccess⟩
        exact hdec.noSuccess q hq hqi hsuccess
      · have hsame : i.declined now = i := if_neg hissued
        rw [hsame] at hi' ⊢
        refine InRounds.kept hi' ?_ fun h => absurd h hissued
        exact (hb.invoices i hi).close_update hp rfl rfl rfl hissued (hnotFailed hpending)
    · exact hkept rfl rfl rfl (fun hid => absurd hid (hother hold hne)) hold
  | declinedClosed hopen _ _ hpending hdec =>
    by_cases hown : i' = i
    · subst hown
      have hissued : i'.status ≠ .issued := by
        intro hissued
        have hsame := hsettles.status_eq hstanding hcoupled hi hi' hissued hp
          (Table.mem_update_self hp (by rfl)) rfl hpi.symm
        rw [hpending] at hsame
        exact PaymentStatus.noConfusion hsame
      refine InRounds.kept hi' ?_ fun h => absurd h hissued
      exact (hb.invoices i' hi).close_update hp rfl rfl rfl hissued (hnotFailed hpending)
    · exact hkept rfl rfl rfl (fun hid => absurd hid (hother hi' hown)) hi'

/-- A transaction that creates attempts for ISSUED invoices only keeps the rounds. -/
theorem BooksStep.inRounds (h : BooksStep env readings b b') (hb : InRounds b k)
    (hlinked : Linked b) (hstanding : InStanding b.subscriptions b.invoices)
    (hcoupled : Coupled b.invoices b.attempts) (hcharges : ChargesIssued b b') :
    InRounds b' (issuesAfter b b' k) where
  free n hn := by
    have hnot : ¬ IssuedBy b b' n := by
      rintro ⟨⟨i', hi', hid, -⟩, -⟩
      exact hn i' hi' hid
    rw [issuesAfter, if_neg hnot, hb.free n]
    intro i hi hid
    obtain ⟨i', hi', hid', -⟩ := h.invoices.kept i hi
    exact hn i' hi' (hid'.trans hid)
  invoices i' hi' := by
    cases h with
    | lifecycle h => exact h.inRound hb hlinked hcharges hi'
    | settled h => exact h.inRound hb hstanding hcoupled hi'

/-- A transaction moves the invoice `n` to OVERDUE. -/
def GivenUpBy (b b' : Books) (n : ℕ) : Prop :=
  (∃ i' ∈ b'.invoices, i'.id = n ∧ i'.status = .overdue) ∧
    ∀ i ∈ b.invoices, i.id = n → i.status ≠ .overdue

/-- Whether a step gives an invoice up can be computed. -/
instance (b b' : Books) (n : ℕ) : Decidable (GivenUpBy b b' n) := by
  unfold GivenUpBy; infer_instance

/-- An invoice is given up by a turn of dunning that counts its failed attempts: while it is FAILED
its subscription is not canceled. -/
theorem Lifecycle.givenUp (h : Lifecycle readings b b')
    (hstanding : InStanding b.subscriptions b.invoices) {n : ℕ} (hgiven : GivenUpBy b b' n) :
    ∃ i ∈ b.invoices, i.id = n ∧ i.status = .failed ∧
      maxDunningAttempts ≤ (b.failedCharges i).length ∧ b'.attempts = b.attempts := by
  obtain ⟨⟨i', hi', rfl, hoverdue⟩, hbefore⟩ := hgiven
  have hsame : ∀ i ∈ b.invoices, i.id = i'.id → i.status = .overdue →
      ∃ i ∈ b.invoices, i.id = i'.id ∧ i.status = .failed ∧
        maxDunningAttempts ≤ (b.failedCharges i).length ∧ b'.attempts = b.attempts :=
    fun i hi hid hstatus => absurd hstatus (hbefore i hi hid)
  have hclose : ∀ i ∈ b.invoices, ∀ subscriptionId, i' = closeOpen subscriptionId i →
      ∃ i ∈ b.invoices, i.id = i'.id ∧ i.status = .failed ∧
        maxDunningAttempts ≤ (b.failedCharges i).length ∧ b'.attempts = b.attempts := by
    rintro i hi subscriptionId rfl
    exact hsame i hi (closeOpen_id _ i).symm (closeOpen_status (by decide) hoverdue)
  cases h with
  | billed =>
    rcases Table.mem_insert.mp hi' with hi | rfl
    · exact hsame i' hi rfl hoverdue
    · cases hoverdue
  | canceled _ _ _ _ _ hclosed =>
    obtain ⟨i, hi, rfl⟩ := (hclosed i').mp hi'
    exact hclose i hi _ rfl
  | reissued hi =>
    rcases (Table.mem_update_of_mem hi (by rfl)).mp hi' with rfl | ⟨hold, -⟩
    · cases hoverdue
    · exact hsame i' hold rfl hoverdue
  | @abandoned i hi hstatus s hs hid hcanceled now =>
    have hactive := (hstanding.agrees s hs i hi hid.symm).failed hstatus
    simp [hcanceled] at hactive
  | @exhausted i hi hstatus hcount s _ _ _ now _ _ hclosed =>
    obtain ⟨j, hj, rfl⟩ := (hclosed i').mp hi'
    rcases (Table.mem_update_of_mem hi (by rfl)).mp hj with rfl | ⟨hold, -⟩
    · exact ⟨i, hi, (closeOpen_id s.id (i.stamp .overdue now)).symm, hstatus, hcount, rfl⟩
    · exact hclose j hold _ rfl
  | _ => exact hsame i' hi' rfl hoverdue

/-- No settlement gives an invoice up. -/
theorem Settles.not_givenUp {p : PaymentAttempt} {success : Bool} {response : List (String × Json)}
    {incoming : Json} {now : DateTime} (h : Settles env b p success response incoming now b')
    (n : ℕ) : ¬ GivenUpBy b b' n := by
  rintro ⟨⟨i', hi', rfl, hoverdue⟩, hbefore⟩
  obtain ⟨-, i, hi, s, -, -, -, h⟩ := h
  cases h with
  | applied =>
    rcases (Table.mem_update_of_mem hi (by rfl)).mp hi' with rfl | ⟨hold, -⟩
    · cases hoverdue
    · exact hbefore i' hold rfl hoverdue
  | declined =>
    rcases (Table.mem_update_of_mem hi (i.edge_declined now).later.id).mp hi' with rfl | ⟨hold, -⟩
    · rw [i.declined_status] at hoverdue
      split_ifs at hoverdue
      exact hbefore i hi (i.edge_declined now).later.id.symm hoverdue
    · exact hbefore i' hold rfl hoverdue
  | _ => exact hbefore i' hi' rfl hoverdue

/-- An invoice is given up with exactly as many FAILED attempts as dunning allows. -/
theorem BooksStep.failed_of_givenUp (h : BooksStep env readings b b') (hb : InRounds b k)
    (hstanding : InStanding b.subscriptions b.invoices) {n : ℕ} (hgiven : GivenUpBy b b' n) :
    (b'.attempts.filter fun p => p.invoiceId == n && p.status == .failed).length =
      maxDunningAttempts := by
  cases h with
  | lifecycle h =>
    obtain ⟨i, hi, rfl, hfailed, hcount, hattempts⟩ := h.givenUp hstanding hgiven
    have hround := hb.invoices i hi
    obtain ⟨hall, hlength⟩ := hround.failed hfailed
    have hlimit := hround.limit
    rw [Books.failedCharges, hall.filter_failed] at hcount
    rw [hattempts, hall.filter_failed]
    omega
  | settled h => exact absurd hgiven (h.not_givenUp n)

end

end Chargeflow
