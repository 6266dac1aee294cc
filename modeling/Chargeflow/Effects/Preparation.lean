import Chargeflow.Effects.Lifecycle

/-!
# What `_prepare` returns

`_prepare` finds the attempt a charge goes to in one of six ways, and in the last of them it creates
it.  `Prepared` lists them with the conditions under which each is taken.  Only the replay and the
creation record the client key of the call; the others hand out an attempt made under another key,
or under none.
-/

namespace Chargeflow

open Foundation

/-- No attempt of the organization of an invoice carries the client key of a call. -/
def Unbound (attempts : Table PaymentAttempt) (i : Invoice) (key : Option String) : Prop :=
  ∀ k, normalizeKey key = some k → ∀ q ∈ attempts, q.organizationId = i.organizationId →
    q.idempotencyKey ≠ some k

/-- The ways in which `_prepare` ends, for the subscription `s`, the invoice `i` and the arguments
of the call: the database and the attempt. -/
inductive Prepared (db : Db) (s : Subscription) (i : Invoice) (key : Option String)
    (issuedOnly : Bool) (providerKey : String) (now : DateTime) :
    Db → Option PaymentAttempt → Prop
  /-- The worker finds an invoice that is not ISSUED any more. -/
  | skipped (honly : issuedOnly = true) (hstatus : i.status ≠ .issued) :
      Prepared db s i key issuedOnly providerKey now db none
  /-- The client key was used for this invoice before. -/
  | replayed {q : PaymentAttempt} (hq : q ∈ db.attempts) {k : String}
      (hkey : normalizeKey key = some k) (horg : q.organizationId = i.organizationId)
      (hbound : q.idempotencyKey = some k) (hinvoice : q.invoiceId = i.id) :
      Prepared db s i key issuedOnly providerKey now db (some q)
  /-- A closed invoice has a PENDING attempt left. -/
  | recovered (hunbound : Unbound db.attempts i key) (hpayable : ¬ i.Payable) {q : PaymentAttempt}
      (hq : q ∈ db.attempts) (hinvoice : q.invoiceId = i.id) (hstatus : q.status = .pending) :
      Prepared db s i key issuedOnly providerKey now db (some q)
  /-- The invoice has an attempt since it was last issued. -/
  | thisIssue (hunbound : Unbound db.attempts i key) (hissued : i.status = .issued)
      {q : PaymentAttempt} (hq : q ∈ db.attempts) (hinvoice : q.invoiceId = i.id)
      (hsince : PaymentService.sinceIssue i q = true)
      (hkey : normalizeKey key = none ∨ q.idempotencyKey = normalizeKey key) :
      Prepared db s i key issuedOnly providerKey now db (some q)
  /-- The invoice has a PENDING or a SUCCESS attempt. -/
  | existing (hunbound : Unbound db.attempts i key) (hpayable : i.Payable) {q : PaymentAttempt}
      (hq : q ∈ db.attempts) (hinvoice : q.invoiceId = i.id) (hstatus : q.status ≠ .failed) :
      Prepared db s i key issuedOnly providerKey now db (some q)
  /-- An attempt is created under the client key. -/
  | created (hunbound : Unbound db.attempts i key) (h : Chargeable db.books s i)
      (customer : Customer) (hcustomer : customer ∈ db.customers ∧ customer.id = s.customerId)
      (hunique : PaymentAttempt.Unique db.attempts
        (preparedAttempt i customer (normalizeKey key) providerKey now)) :
      Prepared db s i key issuedOnly providerKey now
        { db with attempts :=
          db.attempts.insert (preparedAttempt i customer (normalizeKey key) providerKey now) }
        (some (withKey db.attempts.next
          (preparedAttempt i customer (normalizeKey key) providerKey now)))

/-- A key that has been normalized stays as it is. -/
theorem normalizeKey_normalizeKey (key : Option String) :
    normalizeKey (normalizeKey key) = normalizeKey key := by
  simp [normalizeKey, Option.filter_filter]

namespace PaymentService

/-- The search for the attempt of an invoice, or its creation. -/
theorem prepareAttempt_eq_ok {db db' : Db} {s : Subscription} {i : Invoice} {key : Option String}
    {providerKey : String} {now : DateTime} {payment : Option PaymentAttempt} {shouldCharge : Bool}
    (hs : s ∈ db.subscriptions) (hi : i ∈ db.invoices) (hsid : s.id = i.subscriptionId)
    (hunbound : Unbound db.attempts i key) (issuedOnly : Bool)
    (h : prepareAttempt db s i (normalizeKey key) providerKey now =
      .ok (db', payment, shouldCharge)) :
    Prepared db s i key issuedOnly providerKey now db' payment ∧
      shouldCharge = payment.any chargeable := by
  unfold prepareAttempt at h
  by_cases hpayable : i.Payable
  · rw [if_neg (not_not.mpr hpayable)] at h
    dsimp only at h
    split at h
    · rename_i q hq
      split_ifs at hq with hissued
      obtain ⟨hq, htest⟩ := Table.head?_filter_eq_some hq
      simp only [Bool.and_eq_true, beq_iff_eq] at htest
      simp only [bind_eq_ok_iff, ensure_eq_ok_iff, pure_eq_ok_iff, Prod.mk.injEq, Bool.or_eq_true,
        Option.isNone_iff_eq_none, beq_iff_eq] at h
      obtain ⟨-, hkey, rfl, rfl, rfl⟩ := h
      exact ⟨.thisIssue hunbound hissued hq htest.1 htest.2 hkey, rfl⟩
    · rename_i hthis
      split at h
      · rename_i q hq
        obtain ⟨hq, htest⟩ := Table.head?_filter_eq_some hq
        simp only [Bool.and_eq_true, Bool.or_eq_true, beq_iff_eq] at htest
        simp only [pure_eq_ok_iff, Prod.mk.injEq] at h
        obtain ⟨rfl, rfl, rfl⟩ := h
        refine ⟨.existing hunbound hpayable hq htest.1 ?_, rfl⟩
        rcases htest.2 with hstatus | hstatus <;> simp [hstatus]
      · rename_i hexisting
        simp only [bind_eq_ok_iff, ensure_eq_ok_iff, pure_eq_ok_iff, Prod.exists, Prod.mk.injEq,
          bne_iff_ne] at h
        obtain ⟨-, hopen, customer, hfetch, db₁, p, hcreate, rfl, rfl, rfl⟩ := h
        obtain ⟨i', hi', hid, row, hrow, hunique, rfl, rfl⟩ := PaymentAttempt.create_eq_ok hcreate
        obtain rfl := Table.eq_of_key_eq hi' hi hid
        have hrow : row = preparedAttempt i' customer (normalizeKey key) providerKey now := by
          rw [hrow]
          simp [newAttempt, preparedAttempt, normalizeKey_normalizeKey]
        subst hrow
        refine ⟨.created hunbound ⟨hs, hi, hsid, hpayable, hopen, ?_, ?_⟩ customer
          (fetch_eq_ok_iff.mp hfetch) hunique, rfl⟩
        · intro p hp hinvoice
          have := Table.head?_filter_eq_none.mp hexisting p hp
          cases hstatus : p.status <;> simp_all
        · intro hissued p hp hinvoice
          rw [if_pos hissued] at hthis
          have := Table.head?_filter_eq_none.mp hthis p hp
          simpa [hinvoice] using this
  · rw [if_pos hpayable] at h
    split at h
    · rename_i q hq
      obtain ⟨hq, htest⟩ := Table.head?_filter_eq_some hq
      simp only [Bool.and_eq_true, beq_iff_eq] at htest
      simp only [pure_eq_ok_iff, Prod.mk.injEq] at h
      obtain ⟨rfl, rfl, rfl⟩ := h
      exact ⟨.recovered hunbound hpayable hq htest.1 htest.2, by simp [chargeable, htest.2]⟩
    · cases h

/-- `_prepare` ends in one of the listed ways, and the provider is to be called when the attempt is
PENDING and not flagged. -/
theorem prepare_eq_ok {db db' : Db} {invoiceId : ℕ} {key : Option String} {issuedOnly : Bool}
    {providerKey : String} {now : DateTime} {payment : Option PaymentAttempt} {shouldCharge : Bool}
    (h : prepare db invoiceId key issuedOnly providerKey now = .ok (db', payment, shouldCharge)) :
    ∃ i ∈ db.invoices, ∃ s ∈ db.subscriptions, i.id = invoiceId ∧ s.id = i.subscriptionId ∧
      Prepared db s i key issuedOnly providerKey now db' payment ∧
      shouldCharge = payment.any chargeable := by
  simp only [prepare, bind_eq_ok_iff, fetch_eq_ok_iff] at h
  obtain ⟨i, ⟨hi, hiid⟩, s, ⟨hs, hsid⟩, h⟩ := h
  refine ⟨i, hi, s, hs, hiid, hsid, ?_⟩
  split_ifs at h with honly
  · simp only [Bool.and_eq_true, bne_iff_ne] at honly
    simp only [pure_eq_ok_iff, Prod.mk.injEq] at h
    obtain ⟨rfl, rfl, rfl⟩ := h
    exact ⟨.skipped honly.1 honly.2, rfl⟩
  · split at h
    · rename_i q hreplay
      obtain ⟨k, hkey, hq⟩ := Option.bind_eq_some_iff.mp hreplay
      obtain ⟨hq, htest⟩ := Table.head?_filter_eq_some hq
      simp only [Bool.and_eq_true, beq_iff_eq] at htest
      simp only [bind_eq_ok_iff, ensure_eq_ok_iff, pure_eq_ok_iff, Prod.mk.injEq, beq_iff_eq] at h
      obtain ⟨-, hinvoice, rfl, rfl, rfl⟩ := h
      exact ⟨.replayed hq hkey htest.1 htest.2 hinvoice, rfl⟩
    · rename_i hreplay
      refine prepareAttempt_eq_ok hs hi hsid ?_ issuedOnly h
      intro k hkey q hq horg hqk
      rw [hkey, Option.bind_some] at hreplay
      have := Table.head?_filter_eq_none.mp hreplay q hq
      simp [horg, hqk] at this

/-- The worker finds the invoice ISSUED, or `_prepare` does nothing. -/
theorem prepare_issuedOnly {db db' : Db} {i : Invoice} {key : Option String} {providerKey : String}
    {now : DateTime} {payment : Option PaymentAttempt} {shouldCharge : Bool}
    (h : prepare db i.id key true providerKey now = .ok (db', payment, shouldCharge))
    (hi : i ∈ db.invoices) : i.status = .issued ∨ db' = db ∧ payment = none := by
  by_cases hissued : i.status = .issued
  · exact Or.inl hissued
  · simp only [prepare, bind_eq_ok_iff, fetch_eq_ok_iff] at h
    obtain ⟨j, ⟨hj, hid⟩, s, -, h⟩ := h
    obtain rfl := Table.eq_of_key_eq hj hi hid
    rw [if_pos (by simp [hissued])] at h
    simp only [pure_eq_ok_iff, Prod.mk.injEq] at h
    exact Or.inr ⟨h.1.symm, h.2.1.symm⟩

/-- `_prepare` creates at most one attempt, and changes nothing else. -/
theorem prepare_follows {db db' : Db} {invoiceId : ℕ} {key : Option String} {issuedOnly : Bool}
    {providerKey : String} {now : DateTime} {payment : Option PaymentAttempt} {shouldCharge : Bool}
    (h : prepare db invoiceId key issuedOnly providerKey now = .ok (db', payment, shouldCharge)) :
    Follows [now] db db' := by
  obtain ⟨i, -, s, -, -, -, hprepared, -⟩ := prepare_eq_ok h
  cases hprepared with
  | created hunbound hchargeable customer hcustomer hunique =>
    exact ⟨Lifecycle.prepared (b := db.books) hchargeable customer (normalizeKey key) providerKey
      now hunique, rfl⟩
  | _ => exact Follows.idle rfl rfl

end PaymentService

end Chargeflow
