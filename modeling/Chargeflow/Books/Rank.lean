import Chargeflow.Books.Issues

/-!
# How far an invoice is from its end

Dunning moves an invoice to and fro between ISSUED and FAILED, and every attempt that fails brings
it nearer to its end.  `Invoice.rank` counts the stages that are left: for each attempt that the
invoice may still have it is ISSUED, then the attempt is under way, and then the invoice is FAILED.
No transaction raises the rank, and an invoice whose rank stays the same stays at its stage
(`BooksStep.level`).
-/

namespace Chargeflow

open Foundation

/-- The number of the FAILED attempts of the invoice `n`. -/
def failures (attempts : Table PaymentAttempt) (n : ℕ) : ℕ :=
  (attempts.filter fun p => p.invoiceId == n && p.status == .failed).length

/-- An attempt of the invoice `n` is PENDING. -/
def underWay (attempts : Table PaymentAttempt) (n : ℕ) : Bool :=
  attempts.any fun p => p.invoiceId == n && p.status == .pending

/-- The number of stages that are left: three for each attempt that the invoice still may fail. -/
def Invoice.rank (i : Invoice) (attempts : Table PaymentAttempt) : ℕ :=
  match i.status with
  | .issued => 3 * (maxDunningAttempts - failures attempts i.id) -
      if underWay attempts i.id then 1 else 0
  | .failed => 3 * (maxDunningAttempts - failures attempts i.id) + 1
  | _ => 0

/-- The invoice is neither to be charged nor to be dunned. -/
def Invoice.Ended (i : Invoice) : Prop := i.status ≠ .issued ∧ i.status ≠ .failed

/-- An ISSUED invoice has an attempt left. -/
def Unexhausted (b : Books) : Prop :=
  ∀ i ∈ b.invoices, i.status = .issued → failures b.attempts i.id < maxDunningAttempts

/-- An invoice has an attempt under way if one of its attempts is PENDING. -/
theorem underWay_eq_true_iff {attempts : Table PaymentAttempt} {n : ℕ} :
    underWay attempts n = true ↔ ∃ p ∈ attempts, p.invoiceId = n ∧ p.status = .pending := by
  simp [underWay, Table.any_eq_true]

namespace Invoice

variable {i : Invoice} {attempts : Table PaymentAttempt}

/-- An invoice that has ended has no stage left. -/
theorem rank_of_ended (h : i.Ended) : i.rank attempts = 0 := by
  unfold rank
  cases hstatus : i.status with
  | issued => exact absurd hstatus h.1
  | failed => exact absurd hstatus h.2
  | _ => rfl

/-- The rank of a FAILED invoice. -/
theorem rank_of_failed (h : i.status = .failed) :
    i.rank attempts = 3 * (maxDunningAttempts - failures attempts i.id) + 1 := by
  rw [rank, h]

/-- The rank of an ISSUED invoice without an attempt under way. -/
theorem rank_of_issued (h : i.status = .issued) (hfree : underWay attempts i.id = false) :
    i.rank attempts = 3 * (maxDunningAttempts - failures attempts i.id) := by
  rw [rank, h]
  simp [hfree]

/-- The rank of an ISSUED invoice with an attempt under way. -/
theorem rank_of_underWay (h : i.status = .issued) (hpending : underWay attempts i.id = true) :
    i.rank attempts = 3 * (maxDunningAttempts - failures attempts i.id) - 1 := by
  rw [rank, h]
  simp [hpending]

/-- The two ranks of an ISSUED invoice. -/
theorem rank_issued_bounds (attempts : Table PaymentAttempt) (h : i.status = .issued) :
    3 * (maxDunningAttempts - failures attempts i.id) - 1 ≤ i.rank attempts ∧
      i.rank attempts ≤ 3 * (maxDunningAttempts - failures attempts i.id) := by
  cases hpending : underWay attempts i.id with
  | true => rw [rank_of_underWay h hpending]; omega
  | false => rw [rank_of_issued h hpending]; omega

end Invoice

/-! ## One transaction -/

section

variable {env : Env} {readings : List DateTime} {b b' : Books} {i i' : Invoice}

/-- A FAILED attempt stays FAILED until its invoice is PAID. -/
theorem BooksStep.failed_kept (h : BooksStep env readings b b')
    (hcoupled : Coupled b'.invoices b'.attempts) (hi' : i' ∈ b'.invoices)
    (hunpaid : i'.status ≠ .paid) {p : PaymentAttempt} (hp : p ∈ b.attempts)
    (hinvoice : p.invoiceId = i'.id) (hfailed : p.status = .failed) :
    ∃ p' ∈ b'.attempts, p'.id = p.id ∧ p'.invoiceId = i'.id ∧ p'.status = .failed := by
  obtain ⟨p', hp', hid, hlater⟩ := h.attempts.kept p hp
  have hinvoice' : p'.invoiceId = i'.id := hlater.snapshot.invoiceId.trans hinvoice
  refine ⟨p', hp', hid, hinvoice', ?_⟩
  cases hstatus : p'.status with
  | failed => rfl
  | pending =>
    have hpending := hlater.pending hstatus
    rw [hfailed] at hpending
    cases hpending
  | success => exact absurd ((hcoupled.paid i' hi').mpr ⟨p', hp', hinvoice', hstatus⟩) hunpaid

/-- An unpaid invoice keeps its FAILED attempts. -/
theorem BooksStep.failures_le (h : BooksStep env readings b b')
    (hcoupled : Coupled b'.invoices b'.attempts) (hi' : i' ∈ b'.invoices)
    (hunpaid : i'.status ≠ .paid) : failures b.attempts i'.id ≤ failures b'.attempts i'.id := by
  refine Table.length_filter_le ?_
  intro p hp htest
  simp only [Bool.and_eq_true, beq_iff_eq] at htest
  obtain ⟨p', hp', hid, hinvoice, hfailed⟩ := h.failed_kept hcoupled hi' hunpaid hp htest.1 htest.2
  exact ⟨p', hp', hid, by simp [hinvoice, hfailed]⟩

/-- An ISSUED invoice becomes FAILED when its PENDING attempt fails. -/
theorem BooksStep.failed_by (h : BooksStep env readings b b') (hi : i ∈ b.invoices)
    (hi' : i' ∈ b'.invoices) (hid : i'.id = i.id) (hissued : i.status = .issued)
    (hfailed : i'.status = .failed) : ∃ p ∈ b.attempts, p.status = .pending ∧
      ∃ p' ∈ b'.attempts, p'.id = p.id ∧ p'.invoiceId = i.id ∧ p'.status = .failed := by
  have hsame : i' ∉ b.invoices := by
    intro hold
    rw [Table.eq_of_key_eq hold hi hid, hissued] at hfailed
    cases hfailed
  have hclosed : ∀ {j : Invoice} {n : ℕ}, i' = closeOpen n j → j.status = .failed := by
    rintro j n rfl
    exact closeOpen_status (by decide) hfailed
  cases h with
  | lifecycle h =>
    cases h with
    | idle | trialed | covered | prepared => exact absurd hi' hsame
    | billed =>
      rcases Table.mem_insert.mp hi' with hold | rfl
      · exact absurd hold hsame
      · cases hfailed
    | canceled _ _ _ _ _ hrows =>
      obtain ⟨j, hj, hji⟩ := (hrows i').mp hi'
      have hjid : j.id = i.id := by rw [← hid, hji, closeOpen_id]
      rw [Table.eq_of_key_eq hj hi hjid] at hji
      rw [hclosed hji] at hissued
      cases hissued
    | reissued hj _ _ now =>
      rcases (Table.mem_update_of_mem hj (by rfl)).mp hi' with rfl | ⟨hold, -⟩
      · cases hfailed
      · exact absurd hold hsame
    | abandoned hj _ _ _ _ now =>
      rcases (Table.mem_update_of_mem hj (by rfl)).mp hi' with rfl | ⟨hold, -⟩
      · cases hfailed
      · exact absurd hold hsame
    | @exhausted j hj _ _ s _ _ _ now _ _ hrows =>
      obtain ⟨k, hk, hki⟩ := (hrows i').mp hi'
      have hkfailed := hclosed hki
      have hkid : k.id = i.id := by rw [← hid, hki, closeOpen_id]
      rcases (Table.mem_update_of_mem hj (by rfl)).mp hk with rfl | ⟨hold, -⟩
      · cases hkfailed
      · rw [Table.eq_of_key_eq hold hi hkid, hissued] at hkfailed
        cases hkfailed
  | settled h =>
    obtain ⟨hp, j, hj, s, -, hpj, -, h⟩ := h
    cases h with
    | ignored | mismatched | collided | repeated | inapplicable | declinedClosed =>
      exact absurd hi' hsame
    | applied =>
      rcases (Table.mem_update_of_mem hj (by rfl)).mp hi' with rfl | ⟨hold, -⟩
      · cases hfailed
      · exact absurd hold hsame
    | declined _ _ _ hpending =>
      refine ⟨_, hp, hpending, _, Table.mem_update_self hp rfl, rfl, ?_, rfl⟩
      rcases (Table.mem_update_of_mem hj (j.edge_declined _).later.id).mp hi' with rfl | ⟨hold, -⟩
      · exact hpj.symm.trans ((j.edge_declined _).later.id.symm.trans hid)
      · exact absurd hold hsame

/-- An unpaid invoice has one more FAILED attempt when one of its attempts fails. -/
theorem BooksStep.failures_lt (h : BooksStep env readings b b')
    (hcoupled : Coupled b'.invoices b'.attempts) (hi' : i' ∈ b'.invoices)
    (hunpaid : i'.status ≠ .paid) {p p' : PaymentAttempt} (hp : p ∈ b.attempts)
    (hpending : p.status = .pending) (hp' : p' ∈ b'.attempts) (hpid : p'.id = p.id)
    (hinvoice : p'.invoiceId = i'.id) (hfailed : p'.status = .failed) :
    failures b.attempts i'.id < failures b'.attempts i'.id := by
  refine Table.length_filter_lt ?_ hp' (by simp [hinvoice, hfailed]) ?_
  · intro q hq htest
    simp only [Bool.and_eq_true, beq_iff_eq] at htest
    obtain ⟨q', hq', hqid, hqi, hqfailed⟩ := h.failed_kept hcoupled hi' hunpaid hq htest.1 htest.2
    exact ⟨q', hq', hqid, by simp [hqi, hqfailed]⟩
  · intro q hq hkey
    obtain rfl := Table.eq_of_key_eq hq hp (hkey.trans hpid)
    simp [hpending]

/-- The attempt that is under way for an unpaid invoice goes on, or fails. -/
theorem BooksStep.underWay_kept (h : BooksStep env readings b b')
    (hcoupled : Coupled b'.invoices b'.attempts) (hi' : i' ∈ b'.invoices)
    (hunpaid : i'.status ≠ .paid) {p : PaymentAttempt} (hp : p ∈ b.attempts)
    (hinvoice : p.invoiceId = i'.id) (hpending : p.status = .pending) :
    (∃ p' ∈ b'.attempts, p'.id = p.id ∧ p.Later p' ∧ p'.status = .pending) ∨
      failures b.attempts i'.id < failures b'.attempts i'.id := by
  obtain ⟨p', hp', hid, hlater⟩ := h.attempts.kept p hp
  have hinvoice' : p'.invoiceId = i'.id := hlater.snapshot.invoiceId.trans hinvoice
  cases hstatus : p'.status with
  | pending => exact Or.inl ⟨p', hp', hid, hlater, hstatus⟩
  | failed =>
    exact Or.inr (h.failures_lt hcoupled hi' hunpaid hp hpending hp' hid hinvoice' hstatus)
  | success => exact absurd ((hcoupled.paid i' hi').mpr ⟨p', hp', hinvoice', hstatus⟩) hunpaid

/-- An invoice that is ISSUED or FAILED was so before. -/
theorem BooksStep.open_origin (h : BooksStep env readings b b')
    (hstanding : InStanding b.subscriptions b.invoices) (hlinked : Linked b) (hi : i ∈ b.invoices)
    (hi' : i' ∈ b'.invoices) (hid : i'.id = i.id) (hopen : i'.status = .issued ∨ i'.status = .failed) :
    i.status = .issued ∨ i.status = .failed := by
  obtain rfl | ⟨newStatus, now, hmem, rfl⟩ := h.invoices_edge.rel hi hi' hid
  · exact hopen
  · obtain ⟨s, hs, hsid, -⟩ := hlinked.subscription i hi
    have hdraft := (hstanding.agrees s hs i hi hsid.symm).issued
    have hnew : newStatus = .issued ∨ newStatus = .failed := hopen
    cases hstatus : i.status with
    | issued => exact Or.inl rfl
    | failed => exact Or.inr rfl
    | draft => exact absurd hstatus hdraft
    | paid | overdue | canceled =>
      rw [hstatus] at hmem
      rcases hnew with rfl | rfl <;> simp [invoiceTransitions] at hmem

/-- No transaction raises the rank of an invoice. -/
theorem BooksStep.rank_le (h : BooksStep env readings b b')
    (hcoupled : Coupled b'.invoices b'.attempts) (hstanding : InStanding b.subscriptions b.invoices)
    (hlinked : Linked b) (hunexhausted : Unexhausted b) (hi : i ∈ b.invoices)
    (hi' : i' ∈ b'.invoices) (hid : i'.id = i.id) : i'.rank b'.attempts ≤ i.rank b.attempts := by
  by_cases hended : i'.Ended
  · rw [Invoice.rank_of_ended hended]
    exact Nat.zero_le _
  have hopen : i'.status = .issued ∨ i'.status = .failed := by
    by_contra hnot
    exact hended (not_or.mp hnot)
  have hunpaid : i'.status ≠ .paid := by
    intro hpaid
    simp [hpaid] at hopen
  have hle := h.failures_le hcoupled hi' hunpaid
  rcases h.open_origin hstanding hlinked hi hi' hid hopen with hissued | hfailed <;>
    rcases hopen with hissued' | hfailed'
  · obtain ⟨-, hafter⟩ := Invoice.rank_issued_bounds b'.attempts hissued'
    cases hpending : underWay b.attempts i.id with
    | false =>
      rw [Invoice.rank_of_issued hissued hpending, ← hid]
      omega
    | true =>
      obtain ⟨p, hp, hinvoice, hstatus⟩ := underWay_eq_true_iff.mp hpending
      rcases h.underWay_kept hcoupled hi' hunpaid hp (hinvoice.trans hid.symm) hstatus with
        ⟨p', hp', -, hlater, hstatus'⟩ | hlt
      · have hpending' : underWay b'.attempts i'.id = true := underWay_eq_true_iff.mpr
          ⟨p', hp', hlater.snapshot.invoiceId.trans (hinvoice.trans hid.symm), hstatus'⟩
        rw [Invoice.rank_of_underWay hissued hpending, Invoice.rank_of_underWay hissued' hpending',
          ← hid]
        omega
      · rw [Invoice.rank_of_underWay hissued hpending, ← hid]
        have hleft := hunexhausted i hi hissued
        rw [← hid] at hleft
        omega
  · obtain ⟨p, hp, hpending, p', hp', hpid, hinvoice, hpfailed⟩ :=
      h.failed_by hi hi' hid hissued hfailed'
    have hlt := h.failures_lt hcoupled hi' hunpaid hp hpending hp' hpid (hinvoice.trans hid.symm)
      hpfailed
    obtain ⟨hbefore, -⟩ := Invoice.rank_issued_bounds b.attempts hissued
    have hleft := hunexhausted i hi hissued
    rw [← hid] at hbefore hleft
    rw [Invoice.rank_of_failed hfailed']
    omega
  · obtain ⟨-, hafter⟩ := Invoice.rank_issued_bounds b'.attempts hissued'
    rw [Invoice.rank_of_failed hfailed, ← hid]
    omega
  · rw [Invoice.rank_of_failed hfailed, Invoice.rank_of_failed hfailed', ← hid]
    omega

/-- An ISSUED invoice whose rank stays the same stays as it is, and so does the attempt that is
under way. -/
theorem BooksStep.level (h : BooksStep env readings b b')
    (hcoupled : Coupled b'.invoices b'.attempts) (hunexhausted : Unexhausted b)
    (hi : i ∈ b.invoices) (hi' : i' ∈ b'.invoices) (hid : i'.id = i.id) (hissued : i.status = .issued)
    (hrank : i.rank b.attempts ≤ i'.rank b'.attempts) :
    i' = i ∧ ∀ p ∈ b.attempts, p.invoiceId = i.id → p.status = .pending →
      ∃ p' ∈ b'.attempts, p'.id = p.id ∧ p.Later p' ∧ p'.status = .pending := by
  obtain ⟨hbefore, -⟩ := Invoice.rank_issued_bounds b.attempts hissued
  have hleft := hunexhausted i hi hissued
  have hnotEnded : ¬ i'.Ended := by
    intro hended
    rw [Invoice.rank_of_ended hended] at hrank
    omega
  have hnotFailed : i'.status ≠ .failed := by
    intro hfailed
    have hunpaid : i'.status ≠ .paid := by simp [hfailed]
    obtain ⟨p, hp, hpending, p', hp', hpid, hinvoice, hpfailed⟩ :=
      h.failed_by hi hi' hid hissued hfailed
    have hlt := h.failures_lt hcoupled hi' hunpaid hp hpending hp' hpid (hinvoice.trans hid.symm)
      hpfailed
    rw [Invoice.rank_of_failed hfailed] at hrank
    rw [← hid] at hbefore hleft
    omega
  have hissued' : i'.status = .issued := by
    by_contra hnot
    exact hnotEnded ⟨hnot, hnotFailed⟩
  refine ⟨(h.invoices_edge.rel hi hi' hid).eq_of_issued hissued hissued', ?_⟩
  intro p hp hinvoice hpending
  have hunpaid : i'.status ≠ .paid := by simp [hissued']
  refine (h.underWay_kept hcoupled hi' hunpaid hp (hinvoice.trans hid.symm) hpending).resolve_right ?_
  intro hlt
  obtain ⟨-, hafter⟩ := Invoice.rank_issued_bounds b'.attempts hissued'
  rw [← hid] at hbefore hleft
  omega

/-- An invoice that stays ISSUED gets no FAILED attempt, and one is reissued only while it has an
attempt left. -/
theorem BooksStep.unexhausted (h : BooksStep env readings b b')
    (hcoupled : Coupled b.invoices b.attempts) (hstanding : InStanding b.subscriptions b.invoices)
    (hlinked : Linked b) (hb : Unexhausted b) : Unexhausted b' := by
  intro i' hi' hissued
  -- every FAILED attempt was FAILED before
  have hkept : i' ∈ b.invoices → failures b'.attempts i'.id < maxDunningAttempts := by
    intro hold
    refine lt_of_le_of_lt ?_ (hb i' hold hissued)
    refine Table.length_filter_le ?_
    intro p' hp' htest
    simp only [Bool.and_eq_true, beq_iff_eq] at htest
    have hversion : ∃ p ∈ b.attempts, p.id = p'.id ∧ p.Later p' ∧ p.status = p'.status := by
      cases h with
      | lifecycle h =>
        have hsame : b'.attempts = b.attempts →
            ∃ p ∈ b.attempts, p.id = p'.id ∧ p.Later p' ∧ p.status = p'.status :=
          fun heq => ⟨p', heq ▸ hp', rfl, .refl p', rfl⟩
        cases h with
        | prepared =>
          rcases Table.mem_insert.mp hp' with hp | rfl
          · exact ⟨p', hp, rfl, .refl p', rfl⟩
          · cases htest.2
        | _ => exact hsame rfl
      | settled h =>
        obtain ⟨p, hp, hid, hlater⟩ := h.attempt_origin hp'
        have hinvoice : p.invoiceId = i'.id := hlater.snapshot.invoiceId.symm.trans htest.1
        exact ⟨p, hp, hid, hlater,
          (h.status_eq hstanding hcoupled hold hi' hissued hp hp' hid hinvoice).symm⟩
    obtain ⟨p, hp, hid, hlater, hstatus⟩ := hversion
    refine ⟨p, hp, hid, ?_⟩
    simp [hlater.snapshot.invoiceId.symm.trans htest.1, hstatus.trans htest.2]
  rcases h.issued_origin hi' hissued with hold | hby
  · exact hkept hold
  · cases h with
    | lifecycle h =>
      cases h with
      | billed =>
        rcases Table.mem_insert.mp hi' with hold | rfl
        · exact hkept hold
        · -- a new invoice has no attempt
          refine lt_of_eq_of_lt (List.length_eq_zero_iff.mpr (List.filter_eq_nil_iff.mpr ?_))
            (show 0 < maxDunningAttempts by decide)
          intro p hp htest
          simp only [Bool.and_eq_true, beq_iff_eq] at htest
          obtain ⟨j, hj, hjp, -⟩ := hlinked.invoice p hp
          exact absurd (hjp.trans htest.1) (Table.key_lt hj).ne
      | reissued hj _ hcount =>
        rcases (Table.mem_update_of_mem hj (by rfl)).mp hi' with rfl | ⟨hold, -⟩
        · exact hcount
        · exact hkept hold
      | canceled _ _ _ _ _ hrows =>
        obtain ⟨j, hj, rfl⟩ := (hrows i').mp hi'
        exact absurd (closeOpen_status (by decide) hissued) (hby.2 j hj (closeOpen_id _ j).symm)
      | abandoned hj _ _ _ _ now =>
        rcases (Table.mem_update_of_mem hj (by rfl)).mp hi' with rfl | ⟨hold, -⟩
        · cases hissued
        · exact hkept hold
      | @exhausted j hj _ _ s _ _ _ now _ _ hrows =>
        obtain ⟨k, hk, rfl⟩ := (hrows i').mp hi'
        have hkissued := closeOpen_status (by decide) hissued
        rcases (Table.mem_update_of_mem hj (by rfl)).mp hk with rfl | ⟨hold, -⟩
        · cases hkissued
        · exact absurd hkissued (hby.2 k hold (closeOpen_id _ k).symm)
      | _ => exact hkept hi'
    | settled h =>
      obtain ⟨hp, j, hj, s, -, hpj, -, h⟩ := h
      cases h with
      | applied =>
        rcases (Table.mem_update_of_mem hj (by rfl)).mp hi' with rfl | ⟨hold, -⟩
        · cases hissued
        · exact absurd hissued (hby.2 i' hold rfl)
      | declined =>
        rcases (Table.mem_update_of_mem hj (j.edge_declined _).later.id).mp hi' with rfl | ⟨hold, -⟩
        · rw [j.declined_status] at hissued
          split_ifs at hissued with hjissued
          exact absurd hissued (hby.2 j hj (j.edge_declined _).later.id.symm)
        · exact absurd hissued (hby.2 i' hold rfl)
      | _ => exact absurd hissued (hby.2 i' hi' rfl)

end

end Chargeflow
