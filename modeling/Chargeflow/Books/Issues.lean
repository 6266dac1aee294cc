import Chargeflow.Books.Standing
import Chargeflow.Books.Coupling

/-!
# Issues of an invoice

An invoice becomes ISSUED when it is created, and again when dunning reissues it.  What the charge
worker goes by is the time of the last issue: an attempt made at that time or later belongs to it.
`Issues` says that every attempt of the current issue of an ISSUED invoice is PENDING.  It is kept
when the clock stamps the transactions on one invoice in their order: then a reissue leaves all
older attempts behind, and a settlement that ends a PENDING attempt of the current issue moves the
invoice out of ISSUED.
-/

namespace Chargeflow

open Foundation PaymentService

/-- A transaction moves the invoice `n` to ISSUED. -/
def IssuedBy (b b' : Books) (n : ℕ) : Prop :=
  (∃ i' ∈ b'.invoices, i'.id = n ∧ i'.status = .issued) ∧
    ∀ i ∈ b.invoices, i.id = n → i.status ≠ .issued

/-- The stamps that a transaction puts on an invoice and on its attempts are later than those it
finds: an issue is later than the attempts made before it, and an attempt later than the issue it is
made after. -/
structure StampsIncrease (b b' : Books) : Prop where
  issue : ∀ i' ∈ b'.invoices, IssuedBy b b' i'.id → ∀ t ∈ i'.issuedAt, ∀ p ∈ b.attempts,
    p.invoiceId = i'.id → p.attemptedAt < t
  attempt : ∀ p' ∈ b'.attempts, (∀ p ∈ b.attempts, p.id ≠ p'.id) → ∀ i ∈ b.invoices,
    i.id = p'.invoiceId → ∀ t ∈ i.issuedAt, t < p'.attemptedAt

/-- Whether a step issues an invoice can be computed. -/
instance (b b' : Books) (n : ℕ) : Decidable (IssuedBy b b' n) := by
  unfold IssuedBy; infer_instance

/-- Whether the stamps increase can be computed. -/
instance (b b' : Books) : Decidable (StampsIncrease b b') :=
  decidable_of_iff
    ((∀ i' ∈ b'.invoices, IssuedBy b b' i'.id → ∀ t ∈ i'.issuedAt, ∀ p ∈ b.attempts,
        p.invoiceId = i'.id → p.attemptedAt < t) ∧
      ∀ p' ∈ b'.attempts, (∀ p ∈ b.attempts, p.id ≠ p'.id) → ∀ i ∈ b.invoices,
        i.id = p'.invoiceId → ∀ t ∈ i.issuedAt, t < p'.attemptedAt)
    ⟨fun h => ⟨h.1, h.2⟩, fun h => ⟨h.issue, h.attempt⟩⟩

/-- An ISSUED invoice carries the time of its issue, and its attempts since then are PENDING. -/
structure Issues (b : Books) : Prop where
  stamped : ∀ i ∈ b.invoices, i.status = .issued → ∃ t, i.issuedAt = some t
  pending : ∀ i ∈ b.invoices, i.status = .issued → ∀ p ∈ b.attempts, p.invoiceId = i.id →
    sinceIssue i p = true → p.status = .pending

/-- An attempt counts for the present issue of an invoice if it was not made before it. -/
theorem sinceIssue_eq_true_iff {i : Invoice} {p : PaymentAttempt} :
    sinceIssue i p = true ↔ ∃ t, i.issuedAt = some t ∧ t ≤ p.attemptedAt := by
  unfold sinceIssue
  cases i.issuedAt <;> simp

/-- An attempt stays on the same side of an issue. -/
theorem PaymentAttempt.Later.sinceIssue {p p' : PaymentAttempt} (h : p.Later p') (i : Invoice) :
    sinceIssue i p' = sinceIssue i p := by
  unfold PaymentService.sinceIssue
  rw [h.snapshot.attemptedAt]

/-! ## One transaction -/

variable {env : Env} {readings : List DateTime} {b b' : Books}

/-- An invoice that is ISSUED after a transaction was ISSUED before, and stays as it was, or the
transaction issues it. -/
theorem BooksStep.issued_origin (h : BooksStep env readings b b') {i' : Invoice}
    (hi' : i' ∈ b'.invoices) (hissued : i'.status = .issued) :
    i' ∈ b.invoices ∨ IssuedBy b b' i'.id := by
  rcases h.invoices_edge.origin i' hi' with ⟨i, hi, hid, hedge⟩ | hnew
  · by_cases hstatus : i.status = .issued
    · rw [hedge.eq_of_issued hstatus hissued]
      exact Or.inl hi
    · refine Or.inr ⟨⟨i', hi', rfl, hissued⟩, ?_⟩
      intro j hj hjid
      rwa [Table.eq_of_key_eq hj hi (hjid.trans hid.symm)]
  · refine Or.inr ⟨⟨i', hi', rfl, hissued⟩, ?_⟩
    intro j hj hjid
    have hlt : j.id < b.invoices.next := Table.key_lt hj
    have hle : b.invoices.next ≤ i'.id := hnew
    omega

/-- A transaction that issues an invoice stamps it with the time of the issue. -/
theorem BooksStep.stamped (h : BooksStep env readings b b') {i' : Invoice} (hi' : i' ∈ b'.invoices)
    (hissued : i'.status = .issued) (hby : IssuedBy b b' i'.id) : ∃ t, i'.issuedAt = some t := by
  rcases h.invoice_origin hi' with ⟨i, hi, hid, -⟩ | ⟨s, -, plan, now, rfl, -, -⟩
  · have hedge := h.invoices_edge.rel hi hi' hid.symm
    obtain rfl | ⟨newStatus, now, -, rfl⟩ := hedge
    · exact absurd hissued (hby.2 i' hi rfl)
    · have hstatus : newStatus = .issued := hissued
      exact ⟨now, by simp [Invoice.stamp, hstatus]⟩
  · exact ⟨now, rfl⟩

/-- A transaction that prepares an attempt changes no invoice. -/
theorem BooksStep.attempt_new (h : BooksStep env readings b b') {p' : PaymentAttempt}
    (hp' : p' ∈ b'.attempts) :
    (∃ p ∈ b.attempts, p.id = p'.id ∧ p.Later p') ∨
      ((∀ p ∈ b.attempts, p.id ≠ p'.id) ∧ p'.status = .pending ∧ b'.invoices = b.invoices ∧
        (∃ s i, Chargeable b s i ∧ i.id = p'.invoiceId) ∧
        ∀ q' ∈ b'.attempts, q' ≠ p' → q' ∈ b.attempts) := by
  rcases h.attempt_origin hp' with hold | ⟨s, i, hc, customer, key, providerKey, now, rfl, -, rfl⟩
  · exact Or.inl hold
  · refine Or.inr ⟨fun p hp => (Table.key_lt hp).ne, rfl, rfl, ⟨s, i, hc, rfl⟩, ?_⟩
    intro q' hq' hne
    exact (Table.mem_insert.mp hq').resolve_right hne

/-- A settlement that leaves an invoice ISSUED leaves the statuses of its attempts alone. -/
theorem Settles.status_eq {p : PaymentAttempt} {success : Bool} {response : List (String × Json)}
    {incoming : Json} {now : DateTime} (h : Settles env b p success response incoming now b')
    (hstanding : InStanding b.subscriptions b.invoices) (hcoupled : Coupled b.invoices b.attempts)
    {i : Invoice} (hi : i ∈ b.invoices) (hi' : i ∈ b'.invoices) (hissued : i.status = .issued)
    {q q' : PaymentAttempt} (hq : q ∈ b.attempts) (hq' : q' ∈ b'.attempts) (hid : q.id = q'.id)
    (hqi : q.invoiceId = i.id) : q'.status = q.status := by
  obtain ⟨hp, i₀, hi₀, s, hs, hpi, hsi, h⟩ := h
  have hsame : ∀ {p' : PaymentAttempt}, p'.id = p.id → p'.status = p.status →
      q' ∈ b.attempts.update p' → q'.status = q.status := by
    intro p' hpid hstatus hmem
    exact Table.update_field PaymentAttempt.status hp hpid hstatus hq hmem hid
  -- the invoice of the settled attempt is another one if it changes
  have hother : ∀ {p' : PaymentAttempt} {i₁ : Invoice}, p'.id = p.id → i₁.id = i₀.id →
      i₁.status ≠ .issued → i ∈ b.invoices.update i₁ → q' ∈ b.attempts.update p' →
      q'.status = q.status := by
    intro p' i₁ hpid hiid hstatus hinv hmem
    rcases Table.update_version hp hpid hq hmem hid with rfl | ⟨rfl, rfl⟩
    · rfl
    · rcases (Table.mem_update_of_mem hi₀ hiid).mp hinv with rfl | ⟨-, hne⟩
      · exact absurd hissued hstatus
      · exact absurd (Table.eq_of_key_eq hi hi₀ (hqi.symm.trans hpi.symm)) hne
  cases h with
  | ignored => rw [Table.eq_of_key_eq hq' hq hid.symm]
  | mismatched => exact hsame (by rfl) (by rfl) hq'
  | collided => exact hsame (by rfl) (by rfl) hq'
  | repeated _ _ _ _ hrepeated =>
    rcases hrepeated with rfl | rfl <;> exact hsame (by rfl) (by rfl) hq'
  | inapplicable => exact hsame (by rfl) (by rfl) hq'
  | applied => exact hother (by rfl) (by rfl) (by simp [Invoice.stamp]) hi' hq'
  | declined _ _ _ _ hdec =>
    refine hother (by rfl) (i₀.edge_declined now).later.id ?_ hi' hq'
    rw [i₀.declined_status]
    split_ifs with h
    · decide
    · exact h
  | declinedClosed _ _ _ _ hclosed =>
    rcases Table.update_version hp (by rfl) hq hq' hid with rfl | ⟨-, rfl⟩
    · rfl
    · -- an ISSUED invoice is open to the failure of its attempt
      obtain rfl := Table.eq_of_key_eq hi hi₀ (hqi.symm.trans hpi.symm)
      refine absurd ⟨?_, Invoice.payable_iff.mpr (Or.inl hissued), ?_⟩ hclosed
      · intro hcanceled
        rcases (hstanding.agrees s hs i hi hsi.symm).closed hcanceled with h | h | h <;>
          simp [h] at hissued
      · intro r hr hri hsuccess
        have hpaid := (hcoupled.paid i hi).mpr ⟨r, hr, hri, hsuccess⟩
        simp [hpaid] at hissued

/-- A step of a clock that runs keeps the stamps of the issues in order. -/
theorem BooksStep.issues (h : BooksStep env readings b b') (hstamps : StampsIncrease b b')
    (hb : Issues b) (hstanding : InStanding b.subscriptions b.invoices)
    (hcoupled : Coupled b.invoices b.attempts) : Issues b' where
  stamped i' hi' hissued := by
    rcases h.issued_origin hi' hissued with hi | hby
    · exact hb.stamped i' hi hissued
    · exact h.stamped hi' hissued hby
  pending i' hi' hissued p' hp' hinvoice hsince := by
    rcases h.attempt_new hp' with ⟨p, hp, hid, hlater⟩ | ⟨-, hpending, -⟩
    · rw [hlater.sinceIssue] at hsince
      rw [hlater.snapshot.invoiceId] at hinvoice
      rcases h.issued_origin hi' hissued with hi | hby
      · have hstatus := hb.pending i' hi hissued p hp hinvoice hsince
        cases h with
        | lifecycle h =>
          have hsame : p' = p := by
            cases h with
            | prepared =>
              rcases Table.mem_insert.mp hp' with hp'' | rfl
              · exact Table.eq_of_key_eq hp'' hp hid.symm
              · exact absurd hid (Table.key_lt hp).ne
            | _ => exact Table.eq_of_key_eq hp' hp hid.symm
          rw [hsame, hstatus]
        | settled h =>
          rw [h.status_eq hstanding hcoupled hi hi' hissued hp hp' hid hinvoice, hstatus]
      · -- the attempt was there before the invoice was issued
        obtain ⟨t, ht, hle⟩ := sinceIssue_eq_true_iff.mp hsince
        exact absurd hle (not_le.mpr (hstamps.issue i' hi' hby t ht p hp hinvoice))
    · exact hpending

end Chargeflow
