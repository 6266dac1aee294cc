import Chargeflow.System.Settling

/-!
# What a charge task goes by

The worker prepares the charge of an invoice long after it was handed to it, and other transactions
may have written the attempts of the invoice in the meantime.  It goes by the columns fixed at their
creation, by their statuses and by whether the provider may be asked: a version of an attempt that
agrees in these leads to the same attempt and to the same decision.
-/

namespace Chargeflow

open Foundation PaymentService

/-- Another version of an attempt, which `_prepare` treats alike. -/
structure PaymentAttempt.ActsAs (row p : PaymentAttempt) : Prop where
  snapshot : p.SameSnapshot row
  status : row.status = p.status
  chargeable : chargeable row = chargeable p

section

variable {db : Db} {p row : PaymentAttempt}

/-- A search that does not see the difference finds the same attempt. -/
theorem firstAttempt_update (hp : p ∈ db.attempts) (h : row.ActsAs p) (i : Invoice)
    (test : PaymentAttempt → Bool) (htest : test row = test p) :
    firstAttempt { db with attempts := db.attempts.update row } i test =
      (firstAttempt db i test).map fun q => if q.id = row.id then row else q := by
  have hsame : ∀ q ∈ db.attempts, key q = key row →
      (row.invoiceId == i.id && test row) = (q.invoiceId == i.id && test q) := by
    intro q hq hid
    obtain rfl := Table.eq_of_key_eq hq hp (hid.trans h.snapshot.id)
    rw [h.snapshot.invoiceId, htest]
  simp only [firstAttempt]
  rw [Table.filter_update hsame, List.head?_map]
  rfl

/-- A new attempt without a charge id meets the same constraints. -/
theorem PaymentAttempt.checkConstraints_update (hp : p ∈ db.attempts) (h : row.ActsAs p)
    {q : PaymentAttempt} (hcharge : q.providerChargeId = "") :
    PaymentAttempt.checkConstraints { db with attempts := db.attempts.update row } q =
      PaymentAttempt.checkConstraints db q := by
  have hany : ∀ test : PaymentAttempt → Bool, test row = test p →
      ((db.attempts.update row).filter fun r => r.id != q.id).any test =
        (db.attempts.filter fun r => r.id != q.id).any test := by
    intro test htest
    have hid : ∀ r ∈ db.attempts, key r = key row → (row.id != q.id) = (r.id != q.id) := by
      intro r hr hkey
      rw [show row.id = r.id from hkey.symm]
    rw [Table.filter_update hid, List.any_map, Bool.eq_iff_iff, List.any_eq_true, List.any_eq_true]
    refine exists_congr fun r => and_congr_right fun hr => ?_
    simp only [Function.comp_apply]
    split_ifs with hkey
    · obtain rfl := Table.eq_of_key_eq (Table.mem_filter.mp hr).1 hp (hkey.trans h.snapshot.id)
      rw [htest]
    · rfl
  unfold PaymentAttempt.checkConstraints
  dsimp only
  rw [hany, hany, hany, hany]
  · rw [hcharge]
    rfl
  · rw [h.snapshot.provider, h.snapshot.providerIdempotencyKey]
  · rw [h.snapshot.invoiceId, h.status]
  · rw [h.snapshot.organizationId, h.snapshot.idempotencyKey]

/-- A new attempt meets the same constraints beside another version of an attempt. -/
theorem PaymentAttempt.create_update (hp : p ∈ db.attempts) (h : row.ActsAs p)
    {q : PaymentAttempt} (hq : q.id = 0) (hcharge : q.providerChargeId = "") :
    (PaymentAttempt.create { db with attempts := db.attempts.update row } q).map (·.2.id) =
      (PaymentAttempt.create db q).map (·.2.id) := by
  have hclean : ∀ q : PaymentAttempt, q.id = 0 →
      PaymentAttempt.clean { db with attempts := db.attempts.update row } none q =
        PaymentAttempt.clean db none q := by
    intro q hq
    simp only [PaymentAttempt.clean, hq, Table.get?_zero]
  unfold PaymentAttempt.create
  dsimp only
  rw [hclean { q with idempotencyKey := normalizeKey q.idempotencyKey } hq]
  cases hcleaned : PaymentAttempt.clean db none { q with
      idempotencyKey := normalizeKey q.idempotencyKey } with
  | error e => rfl
  | ok q₁ =>
    obtain ⟨i, -, -, rfl⟩ := PaymentAttempt.clean_eq_ok hcleaned
    simp only [ok_bind]
    rw [PaymentAttempt.checkConstraints_update hp h (by exact hcharge)]
    cases PaymentAttempt.checkLengths _ with
    | error e => rfl
    | ok u =>
      cases PaymentAttempt.checkConstraints db _ with
      | error e => rfl
      | ok u => rfl

/-- What `_prepare` tells its caller: the key of the attempt, and whether the provider is to be
called. -/
def preparedFor (r : Except Err (Db × Option PaymentAttempt × Bool)) :
    Except Err (Option ℕ × Bool) :=
  r.map fun r => (r.2.1.map PaymentAttempt.id, r.2.2)

/-- The version of an attempt in the other database. -/
theorem PaymentAttempt.ActsAs.version (h : row.ActsAs p) (hp : p ∈ db.attempts)
    {q : PaymentAttempt} (hq : q ∈ db.attempts) : (if q.id = row.id then row else q).ActsAs q := by
  split_ifs with hid
  · obtain rfl := Table.eq_of_key_eq hq hp (hid.trans h.snapshot.id)
    exact h
  · exact ⟨.refl q, rfl, rfl⟩

/-- Another version of a PENDING attempt has the same flag. -/
theorem PaymentAttempt.ActsAs.needsReconciliation (h : row.ActsAs p) (hp : p.status = .pending) :
    row.needsReconciliation = p.needsReconciliation := by
  have hcharge := h.chargeable
  simp only [PaymentService.chargeable, h.status, hp, beq_self_eq_true, Bool.true_and] at hcharge
  exact Bool.not_inj hcharge

/-- `_prepare_attempt` does not tell the version of an attempt from the attempt. -/
theorem prepareAttempt_update (hp : p ∈ db.attempts) (h : row.ActsAs p) (s : Subscription)
    (i : Invoice) (key : Option String) (providerKey : String) (now : DateTime) :
    preparedFor (prepareAttempt { db with attempts := db.attempts.update row } s i key providerKey
        now) = preparedFor (prepareAttempt db s i key providerKey now) := by
  have hpending : (row.status == .pending) = (p.status == .pending) := by rw [h.status]
  have hopen : (row.status == .pending || row.status == .success) =
      (p.status == .pending || p.status == .success) := by rw [h.status]
  have hsince : sinceIssue i row = sinceIssue i p := by
    unfold sinceIssue
    rw [h.snapshot.attemptedAt]
  unfold prepareAttempt
  rw [firstAttempt_update hp h i (sinceIssue i) hsince,
    firstAttempt_update hp h i (fun p => p.status == .pending) hpending,
    firstAttempt_update hp h i (fun p => p.status == .pending || p.status == .success)
      hopen]
  by_cases hpayable : i.Payable
  · rw [if_neg (not_not.mpr hpayable), if_neg (not_not.mpr hpayable)]
    dsimp only
    cases hthis : if i.status = .issued then firstAttempt db i (sinceIssue i) else none with
    | some q =>
      have hissued : i.status = .issued := by
        by_contra hissued
        rw [if_neg hissued] at hthis
        cases hthis
      rw [if_pos hissued] at hthis ⊢
      have hv := h.version hp (Table.head?_filter_eq_some hthis).1
      simp only [hthis, Option.map_some, hv.snapshot.idempotencyKey, hv.chargeable]
      cases ensure (key.isNone || q.idempotencyKey == key)
        (.idempotencyConflict "This invoice already has a payment attempt for this issue.") with
      | error e => rfl
      | ok u => exact congrArg (fun n => Except.ok (some n, chargeable q)) hv.snapshot.id
    | none =>
      have hthis' : (if i.status = .issued then
          (firstAttempt db i (sinceIssue i)).map fun q => if q.id = row.id then row else q
          else none) = none := by
        split_ifs at hthis ⊢ with hissued
        · rw [hthis, Option.map_none]
        · rfl
      simp only [hthis']
      cases hfirst : firstAttempt db i fun p => p.status == .pending || p.status == .success with
      | some q =>
        have hv := h.version hp (Table.head?_filter_eq_some hfirst).1
        simp only [Option.map_some, hv.chargeable]
        exact congrArg (fun n => Except.ok (some n, chargeable q)) hv.snapshot.id
      | none =>
        simp only [Option.map_none]
        cases ensure (s.status != .canceled)
          (.invoiceNotPayable "Cannot charge a canceled subscription.") with
        | error e => rfl
        | ok u =>
          simp only [ok_bind]
          cases fetch db.customers "Customer" s.customerId with
          | error e => rfl
          | ok customer =>
            simp only [ok_bind]
            have hcreate := PaymentAttempt.create_update hp h
              (q := newAttempt i customer key providerKey now) rfl rfl
            have hmap : ∀ x : Except Err (Db × PaymentAttempt),
                preparedFor (x >>= fun r => .ok (r.1, some r.2, true)) =
                  (x.map (·.2.id)).map fun n => (some n, true) := by
              intro x
              cases x <;> rfl
            exact (hmap _).trans ((congrArg _ hcreate).trans (hmap _).symm)
  · rw [if_pos hpayable, if_pos hpayable]
    cases hfirst : firstAttempt db i fun p => p.status == .pending with
    | none => rfl
    | some q =>
      obtain ⟨hq, htest⟩ := Table.head?_filter_eq_some hfirst
      simp only [Bool.and_eq_true, beq_iff_eq] at htest
      have hv := h.version hp hq
      simp only [Option.map_some, hv.needsReconciliation htest.2]
      exact congrArg (fun n => Except.ok (some n, !q.needsReconciliation)) hv.snapshot.id

/-- A call of `_prepare` does not tell the version of an attempt from the attempt. -/
theorem prepare_update (hp : p ∈ db.attempts) (h : row.ActsAs p) (invoiceId : ℕ)
    (key : Option String) (issuedOnly : Bool) (providerKey : String) (now : DateTime) :
    preparedFor (prepare { db with attempts := db.attempts.update row } invoiceId key issuedOnly
        providerKey now) =
      preparedFor (prepare db invoiceId key issuedOnly providerKey now) := by
  unfold prepare
  cases fetch db.invoices "Invoice" invoiceId with
  | error e => rfl
  | ok i =>
    simp only [ok_bind]
    cases fetch db.subscriptions "Subscription" i.subscriptionId with
    | error e => rfl
    | ok s =>
      simp only [ok_bind]
      by_cases honly : (issuedOnly && i.status != .issued) = true
      · rw [if_pos honly, if_pos honly]
        rfl
      · rw [if_neg honly, if_neg honly]
        cases hkey : normalizeKey key with
        | none => exact prepareAttempt_update hp h s i none providerKey now
        | some k =>
          have hsame : ∀ q ∈ db.attempts, Foundation.key q = Foundation.key row →
              (row.organizationId == i.organizationId && row.idempotencyKey == some k) =
                (q.organizationId == i.organizationId && q.idempotencyKey == some k) := by
            intro q hq hid
            obtain rfl := Table.eq_of_key_eq hq hp (hid.trans h.snapshot.id)
            rw [h.snapshot.organizationId, h.snapshot.idempotencyKey]
          have hfind : findReplay { db with attempts := db.attempts.update row } i.organizationId k =
              (findReplay db i.organizationId k).map fun q =>
                if q.id = row.id then row else q := by
            simp only [findReplay]
            rw [Table.filter_update hsame, List.head?_map]
            rfl
          simp only [Option.bind_some, hfind]
          cases hreplay : findReplay db i.organizationId k with
          | none => exact prepareAttempt_update hp h s i (some k) providerKey now
          | some q =>
            have hv := h.version hp (Table.head?_filter_eq_some hreplay).1
            simp only [Option.map_some, hv.snapshot.invoiceId, hv.chargeable]
            cases ensure (q.invoiceId == i.id)
              (.idempotencyConflict
                "Idempotency key is already bound to a different invoice.") with
            | error e => rfl
            | ok u => exact congrArg (fun n => Except.ok (some n, chargeable q)) hv.snapshot.id

end

end Chargeflow
