import Chargeflow.Books.History

/-!
# References between the rows

A transaction adds at most one invoice, to a subscription it has just set to a period, and at most
one payment attempt, to an invoice that may be charged.  So every invoice refers to a subscription
and every attempt to an invoice, and always within one organization.
-/

namespace Chargeflow

open Foundation

/-- A settlement creates no attempt. -/
theorem Settles.attempt_origin {env : Env} {b b' : Books} {p : PaymentAttempt} {success : Bool}
    {response : List (String × Json)} {incoming : Json} {now : DateTime}
    (h : Settles env b p success response incoming now b') {q' : PaymentAttempt}
    (hq' : q' ∈ b'.attempts) : ∃ q ∈ b.attempts, q.id = q'.id ∧ q.Later q' := by
  obtain ⟨hp, i, -, s, -, -, -, h⟩ := h
  have hnext : b'.attempts.next = b.attempts.next := by cases h <;> rfl
  exact (h.evolves hp).origin_of_lt hq' (hnext ▸ Table.key_lt hq')

/-- The subscription whose period is set is in the table, and ACTIVE. -/
theorem PeriodStart.mem {readings : List DateTime} {subs subs' : Table Subscription}
    {s : Subscription} (h : PeriodStart readings subs subs' s) :
    s ∈ subs' ∧ s.status = .active := by
  cases h with
  | created hstatus => exact ⟨Table.mem_insert_self, hstatus⟩
  | activated hs => exact ⟨Table.mem_update_self hs rfl, rfl⟩
  | renewed hs hstatus => exact ⟨Table.mem_update_self hs rfl, hstatus⟩
  | current hs hstatus => exact ⟨hs, hstatus⟩

/-- The other rows of the table are old. -/
theorem PeriodStart.rows {readings : List DateTime} {subs subs' : Table Subscription}
    {s t : Subscription} (h : PeriodStart readings subs subs' s) (ht : t ∈ subs') :
    t = s ∨ (t ∈ subs ∧ t.id ≠ s.id) := by
  have hkey : ∀ {s₀ : Subscription}, s₀ ∈ subs → s₀.id = s.id → t ≠ s₀ → t ∈ subs → t.id ≠ s.id :=
    fun hs₀ hid hne ht hts => hne (Table.eq_of_key_eq ht hs₀ (hts.trans hid.symm))
  cases h with
  | created =>
    rcases Table.mem_insert.mp ht with ht | rfl
    · exact Or.inr ⟨ht, (Table.key_lt ht).ne⟩
    · exact Or.inl rfl
  | activated hs =>
    rcases (Table.mem_update_of_mem hs (by rfl)).mp ht with rfl | ⟨ht, hne⟩
    · exact Or.inl rfl
    · exact Or.inr ⟨ht, hkey hs rfl hne ht⟩
  | renewed hs =>
    rcases (Table.mem_update_of_mem hs (by rfl)).mp ht with rfl | ⟨ht, hne⟩
    · exact Or.inl rfl
    · exact Or.inr ⟨ht, hkey hs rfl hne ht⟩
  | current hs =>
    by_cases hts : t = s
    · exact Or.inl hts
    · exact Or.inr ⟨ht, hkey hs rfl hts ht⟩

/-- The subscription is new, or was in a trial, or ACTIVE. -/
theorem PeriodStart.origin {readings : List DateTime} {subs subs' : Table Subscription}
    {s : Subscription} (h : PeriodStart readings subs subs' s) :
    s.id = subs.next ∨ ∃ s₀ ∈ subs, s₀.id = s.id ∧ (s₀.status = .trial ∨ s₀.status = .active) := by
  cases h with
  | created => exact Or.inl rfl
  | activated hs hstatus => exact Or.inr ⟨_, hs, rfl, Or.inl hstatus⟩
  | renewed hs hstatus => exact Or.inr ⟨_, hs, rfl, Or.inr hstatus⟩
  | current hs hstatus => exact Or.inr ⟨_, hs, rfl, Or.inr hstatus⟩

namespace BooksStep

variable {env : Env} {readings : List DateTime} {b b' : Books}

/-- An attempt is a later version of an old one, or was prepared for an invoice that may be
charged. -/
theorem attempt_origin (h : BooksStep env readings b b') {p' : PaymentAttempt}
    (hp' : p' ∈ b'.attempts) :
    (∃ p ∈ b.attempts, p.id = p'.id ∧ p.Later p') ∨
      ∃ s i, Chargeable b s i ∧ ∃ customer key providerKey now,
        p' = withKey b.attempts.next (preparedAttempt i customer key providerKey now) ∧
        PaymentAttempt.Unique b.attempts (preparedAttempt i customer key providerKey now) ∧
        b' = { b with attempts :=
          b.attempts.insert (preparedAttempt i customer key providerKey now) } := by
  have hevolves := h.attempts
  have hkept : b'.attempts.next = b.attempts.next → ∃ p ∈ b.attempts, p.id = p'.id ∧ p.Later p' :=
    fun hnext => hevolves.origin_of_lt hp' (hnext ▸ Table.key_lt hp')
  cases h with
  | lifecycle h =>
    cases h with
    | prepared hchargeable customer key providerKey now hunique =>
      rcases Table.mem_insert.mp hp' with hp | rfl
      · exact Or.inl ⟨p', hp, rfl, .refl p'⟩
      · exact Or.inr ⟨_, _, hchargeable, customer, key, providerKey, now, rfl, hunique, rfl⟩
    | _ => exact Or.inl (hkept rfl)
  | settled h => exact Or.inl (h.attempt_origin hp')

/-- An invoice is a later version of an old one, or bills a period that had no invoice. -/
theorem invoice_origin (h : BooksStep env readings b b') {i' : Invoice} (hi' : i' ∈ b'.invoices) :
    (∃ i ∈ b.invoices, i.id = i'.id ∧ i.Later i') ∨
      ∃ s, PeriodStart readings b.subscriptions b'.subscriptions s ∧ ∃ plan now,
        i' = withKey b.invoices.next (issuedInvoice plan s now) ∧
        (∀ i ∈ b.invoices, ¬ i.Covers s) ∧
        b' = { b with
          subscriptions := b'.subscriptions
          invoices := b.invoices.insert (issuedInvoice plan s now) } := by
  have hevolves := h.invoices
  have hkept : b'.invoices.next = b.invoices.next → ∃ i ∈ b.invoices, i.id = i'.id ∧ i.Later i' :=
    fun hnext => hevolves.origin_of_lt hi' (hnext ▸ Table.key_lt hi')
  cases h with
  | lifecycle h =>
    cases h with
    | billed hstart plan now hnone =>
      rcases Table.mem_insert.mp hi' with hi | rfl
      · exact Or.inl ⟨i', hi, rfl, .refl i'⟩
      · exact Or.inr ⟨_, hstart, plan, now, rfl, hnone, rfl⟩
    | canceled _ _ _ _ hnext => exact Or.inl (hkept hnext)
    | exhausted _ _ _ _ _ _ _ hnext => exact Or.inl (hkept hnext)
    | _ => exact Or.inl (hkept rfl)
  | settled h =>
    obtain ⟨-, i, -, s, -, -, -, h⟩ := h
    cases h <;> exact Or.inl (hkept rfl)

end BooksStep

/-- Every invoice refers to a subscription, and every attempt to an invoice, of the same
organization. -/
structure Linked (b : Books) : Prop where
  subscription : ∀ i ∈ b.invoices, ∃ s ∈ b.subscriptions, s.id = i.subscriptionId ∧
    s.organizationId = i.organizationId
  invoice : ∀ p ∈ b.attempts, ∃ i ∈ b.invoices, i.id = p.invoiceId ∧
    i.organizationId = p.organizationId

/-- A step keeps the links between subscriptions, invoices and attempts. -/
theorem BooksStep.linked {env : Env} {readings : List DateTime} {b b' : Books}
    (h : BooksStep env readings b b') (hb : Linked b) : Linked b' where
  subscription i' hi' := by
    rcases h.invoice_origin hi' with ⟨i, hi, -, hlater⟩ | ⟨s, hstart, plan, now, rfl, -, -⟩
    · obtain ⟨s, hs, hid, horg⟩ := hb.subscription i hi
      obtain ⟨s', hs', -, hlater'⟩ := h.subscriptions.kept s hs
      exact ⟨s', hs', by rw [hlater'.id, hid, hlater.subscriptionId],
        by rw [hlater'.organizationId, horg, hlater.organizationId]⟩
    · exact ⟨s, hstart.mem.1, rfl, rfl⟩
  invoice p' hp' := by
    rcases h.attempt_origin hp' with ⟨p, hp, -, hlater⟩ | ⟨s, i, hc, _, _, _, _, rfl, -, rfl⟩
    · obtain ⟨i, hi, hid, horg⟩ := hb.invoice p hp
      obtain ⟨i', hi', -, hlater'⟩ := h.invoices.kept i hi
      exact ⟨i', hi', by rw [hlater'.id, hid, hlater.snapshot.invoiceId],
        by rw [hlater'.organizationId, horg, hlater.snapshot.organizationId]⟩
    · exact ⟨i, hc.invoice, rfl, rfl⟩

/-- A key that is not in use yet belongs to no invoice's subscription. -/
theorem Linked.subscriptionId_ne_next {b : Books} (hb : Linked b) {i : Invoice}
    (hi : i ∈ b.invoices) : i.subscriptionId ≠ b.subscriptions.next := by
  obtain ⟨s, hs, hid, -⟩ := hb.subscription i hi
  rw [← hid]
  exact (Table.key_lt hs).ne

end Chargeflow
