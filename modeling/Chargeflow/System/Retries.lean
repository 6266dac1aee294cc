import Chargeflow.System.Charging

/-!
# Retries of a charge

A call of `attempt` or of `charge_issued` creates an attempt, and stops at some point before its
result is settled.  Callers may try again, through any entry point, and stop again, while the
customer and the invoice are edited (`RetryStep`).  The attempt was made of the rows as they were
when it was created, so nothing of this changes the request, and the ledger answers for it with one
receipt (`Retrying`).
-/

namespace Chargeflow

open Foundation PaymentService MockPaymentGateway

/-! ## Receipts of stored attempts -/

/-- A call of the gateway is made for a stored attempt, under its key. -/
def Operation.Genuine (db : Db) : Operation → Prop
  | .gateway request _ _ _ => ∃ p ∈ db.attempts, request.idempotencyKey = p.providerIdempotencyKey
  | _ => True

/-- One transaction that commits, when the gateway is only called for stored attempts. -/
def GenuineStep (env : Env) (db db' : Db) : Prop :=
  ∃ op : Operation, op.Genuine db ∧ op.apply env db = .ok db'

/-- A step with genuine results is a step. -/
theorem GenuineStep.step {env : Env} {db db' : Db} (h : GenuineStep env db db') :
    Step env db db' := by
  obtain ⟨op, -, hop⟩ := h
  exact ⟨op, hop⟩

/-- Only a call of the gateway writes receipts. -/
theorem Operation.receipts_eq {env : Env} {db db' : Db} {op : Operation}
    (h : op.apply env db = .ok db') (hgateway : ∀ request seen success chargeId,
      op ≠ .gateway request seen success chargeId) : db'.receipts = db.receipts := by
  by_cases hop : op.bringsResult = false
  · exact (op.follows h hop).receipts
  cases op with
  | gateway => exact absurd rfl (hgateway _ _ _ _)
  | settle paymentId success response chargeId now =>
    obtain ⟨p, b', -, -, rfl⟩ := settle_eq_ok h
    rfl
  | webhook eventType payload provider providerEventId now =>
    obtain ⟨event, -, hreceipts, -⟩ := handleWebhook_eq_ok h
    exact hreceipts
  | _ => exact absurd rfl hop

/-- Every receipt was made for a stored attempt. -/
def ReceiptsKeyed (db : Db) : Prop :=
  ∀ r ∈ db.receipts, ∃ p ∈ db.attempts, r.providerIdempotencyKey = p.providerIdempotencyKey

/-- A step with genuine results keeps the keys of the receipts. -/
theorem GenuineStep.receiptsKeyed {env : Env} {db db' : Db} (h : GenuineStep env db db')
    (hdb : ReceiptsKeyed db) : ReceiptsKeyed db' := by
  obtain ⟨_, hbooks⟩ := h.step.books
  have hkept : ∀ {key : String}, (∃ p ∈ db.attempts, key = p.providerIdempotencyKey) →
      ∃ p ∈ db'.attempts, key = p.providerIdempotencyKey := by
    rintro key ⟨p, hp, rfl⟩
    obtain ⟨p', hp', -, hlater⟩ := hbooks.attempts.kept p hp
    exact ⟨p', hp', hlater.snapshot.providerIdempotencyKey.symm⟩
  obtain ⟨op, hgenuine, hop⟩ := h
  intro r hr
  cases op with
  | gateway request seen success chargeId =>
    obtain ⟨⟨db₁, result⟩, hrun, rfl⟩ := map_eq_ok_iff.mp hop
    obtain ⟨fingerprint, r', -, hanswered, -⟩ := finishCharge_eq_ok hrun
    cases hanswered with
    | drawn =>
      rcases Table.mem_insert.mp hr with hr | rfl
      · exact hkept (hdb r hr)
      · exact hkept hgenuine
    | _ => exact hkept (hdb r hr)
  | _ =>
    rw [Operation.receipts_eq hop (by simp)] at hr
    exact hkept (hdb r hr)

/-- Along a run with genuine results every receipt has the key of an attempt. -/
theorem Reaches.receiptsKeyed {env : Env} {db : Db} (h : Reaches (GenuineStep env) Db.empty db) :
    ReceiptsKeyed db := by
  refine h.invariant (I := ReceiptsKeyed) ?_ fun _ _ _ hdb hstep => hstep.receiptsKeyed hdb
  intro r hr
  simp [Db.empty] at hr

/-- A state reached with genuine results is reachable. -/
theorem Reaches.of_genuine {env : Env} {db : Db} (h : Reaches (GenuineStep env) Db.empty db) :
    Reachable env db :=
  h.mono fun _ _ => GenuineStep.step

/-- The callers of a consistent provider charge stored attempts. -/
theorem Reaches.genuine {env : Env} {sys : Sys} (h : Reaches (SysStep env) Sys.empty sys) :
    Reaches (GenuineStep env) Db.empty sys.db := by
  refine h.invariant (I := fun sys => Reaches (GenuineStep env) Db.empty sys.db) ?_ ?_
  · exact .refl
  intro a b hreach ha hstep
  have hnext : ∀ op : Operation, op.Genuine a.db → op.apply env a.db = .ok b.db →
      Reaches (GenuineStep env) Db.empty b.db := fun _ hgenuine hop => ha.tail ⟨_, hgenuine, hop⟩
  obtain ⟨e, he⟩ := hstep
  cases e with
  | transact op =>
    obtain ⟨hpermitted, hop, -⟩ := Sys.transact_eq_some he
    refine hnext op ?_ hop
    cases op with
    | gateway => cases hpermitted
    | _ => trivial
  | call invoiceId key issuedOnly providerKey now =>
    exact hnext (.prepare invoiceId key issuedOnly providerKey now) trivial
      (Sys.call_eq_some he).1
  | recover paymentId =>
    simp only [Sys.step] at he
    split_ifs at he
    obtain rfl := Option.some.inj he
    exact ha
  | advance n success chargeId now =>
    obtain ⟨c, hc, c', hnextPhase, -⟩ := Sys.advance_eq_some he
    have hagrees := (Reaches.inOrder hreach).agrees c (List.mem_of_getElem? hc)
    unfold ChargePhase.next at hnextPhase
    cases c with
    | started paymentId =>
      obtain ⟨payment, -, hread⟩ := bind_eq_ok_iff.mp hnextPhase
      split_ifs at hread
      · exact (Prod.mk.inj (pure_eq_ok_iff.mp hread)).1 ▸ ha
      · obtain ⟨-, -, hread⟩ := bind_eq_ok_iff.mp hread
        exact (Prod.mk.inj (pure_eq_ok_iff.mp hread)).1 ▸ ha
    | requested paymentId request =>
      exact (Prod.mk.inj (Except.ok.inj hnextPhase)).1 ▸ ha
    | lookedUp paymentId request seen =>
      obtain ⟨⟨db₁, result⟩, hgateway, hanswer⟩ := bind_eq_ok_iff.mp hnextPhase
      obtain ⟨rfl, -⟩ := Prod.mk.inj (pure_eq_ok_iff.mp hanswer)
      obtain ⟨⟨p, hp, -, hkey⟩, -⟩ := hagrees
      exact hnext (.gateway request seen success chargeId) ⟨p, hp, hkey⟩
        (map_eq_ok_iff.mpr ⟨_, hgateway, rfl⟩)
    | answered paymentId result =>
      obtain ⟨db₁, hsettle, hend⟩ := bind_eq_ok_iff.mp hnextPhase
      obtain ⟨rfl, -⟩ := Prod.mk.inj (pure_eq_ok_iff.mp hend)
      exact hnext (.settle paymentId result.success result.providerResponse
        result.providerChargeId now) trivial hsettle
  | crash n =>
    obtain rfl := Option.some.inj he
    exact ha

/-! ## The charge and its entry points -/

/-- The entry points that may create an attempt. -/
inductive EntryPoint where
  | attempt (key : Option String)
  | chargeIssued

/-- The client key an entry point passes on. -/
def EntryPoint.key : EntryPoint → Option String
  | .attempt key => key
  | .chargeIssued => none

/-- Whether an entry point charges ISSUED invoices only. -/
def EntryPoint.issuedOnly : EntryPoint → Bool
  | .attempt _ => false
  | .chargeIssued => true

/-- An undisturbed call of an entry point, outside of any transaction. -/
def EntryPoint.run (env : Env) (db : Db) (invoiceId : ℕ) (providerKey : String)
    (preparedAt : DateTime) (success : Bool) (chargeId : String) (settledAt : DateTime) :
    EntryPoint → Except Err (Db × Option PaymentAttempt)
  | .attempt key => PaymentService.attempt env db invoiceId key false providerKey preparedAt success
      chargeId settledAt
  | .chargeIssued => PaymentService.chargeIssued env db invoiceId false providerKey preparedAt
      success chargeId settledAt

/-- A call whose attempt is to be charged goes on with the charge. -/
theorem EntryPoint.run_of_prepare {env : Env} {db db₁ db' : Db} {p p' : PaymentAttempt}
    {invoiceId : ℕ} {providerKey : String} {preparedAt settledAt : DateTime} {success : Bool}
    {chargeId : String} (origin : EntryPoint)
    (hprepare : prepare db invoiceId origin.key origin.issuedOnly providerKey preparedAt =
      .ok (db₁, some p, true))
    (hcharge : PaymentService.charge env db₁ p.id success chargeId settledAt = .ok (db', p')) :
    origin.run env db invoiceId providerKey preparedAt success chargeId settledAt =
      .ok (db', some p') := by
  cases origin with
  | attempt key =>
    simp only [EntryPoint.key, EntryPoint.issuedOnly] at hprepare
    simp only [EntryPoint.run, PaymentService.attempt, ensure, Bool.not_false, if_true, ok_bind,
      hprepare, hcharge]
    rfl
  | chargeIssued =>
    simp only [EntryPoint.key, EntryPoint.issuedOnly] at hprepare
    simp only [EntryPoint.run, PaymentService.chargeIssued, ensure, Bool.not_false, if_true,
      ok_bind, hprepare, hcharge]
    rfl

/-- The attempt `p` is the one that every charge of its invoice goes to. -/
structure FreshCharge (origin : EntryPoint) (db : Db) (p : PaymentAttempt) (i : Invoice)
    (s : Subscription) : Prop where
  attempt : p ∈ db.attempts
  invoice : i ∈ db.invoices
  subscription : s ∈ db.subscriptions
  invoiceId : i.id = p.invoiceId
  subscriptionId : s.id = i.subscriptionId
  organizationId : p.organizationId = i.organizationId
  chargeable : chargeable p = true
  payable : i.Payable
  issued : origin.issuedOnly = true → i.status = .issued
  key : p.idempotencyKey = normalizeKey origin.key
  others : ∀ q ∈ db.attempts, q.invoiceId = i.id → q ≠ p →
    q.status = .failed ∧ (i.status = .issued → sinceIssue i q = false)

namespace FreshCharge

variable {origin : EntryPoint} {db : Db} {p : PaymentAttempt} {i : Invoice} {s : Subscription}

/-- A test that the attempt passes, and no FAILED attempt of an earlier issue. -/
theorem firstAttempt_eq (h : FreshCharge origin db p i s) {test : PaymentAttempt → Bool}
    (hp : test p = true) (hothers : ∀ q ∈ db.attempts, q.invoiceId = i.id → q ≠ p →
      test q = false) : firstAttempt db i test = some p := by
  refine Table.head?_filter_of_unique h.attempt (by simp [h.invoiceId, hp]) ?_
  intro q hq htest
  simp only [Bool.and_eq_true, beq_iff_eq] at htest
  by_contra hne
  simp [hothers q hq htest.1 hne] at htest

/-- Every call that may charge the invoice is handed the attempt. -/
theorem prepareAttempt_eq (h : FreshCharge origin db p i s) (providerKey : String)
    (now : DateTime) : prepareAttempt db s i none providerKey now = .ok (db, some p, true) := by
  have hpending : p.status = .pending := by
    have hcharge := h.chargeable
    simp only [PaymentService.chargeable, Bool.and_eq_true, beq_iff_eq] at hcharge
    exact hcharge.1
  have hexisting : firstAttempt db i (fun q => q.status == .pending || q.status == .success) =
      some p := by
    refine h.firstAttempt_eq (by simp [hpending]) ?_
    intro q hq hinvoice hne
    simp [(h.others q hq hinvoice hne).1]
  unfold prepareAttempt
  rw [if_neg (not_not.mpr h.payable)]
  by_cases hissued : i.status = .issued ∧ sinceIssue i p = true
  · have hthis : firstAttempt db i (sinceIssue i) = some p :=
      h.firstAttempt_eq hissued.2 fun q hq hinvoice hne =>
        (h.others q hq hinvoice hne).2 hissued.1
    simp only [if_pos hissued.1, hthis, ensure, Option.isNone_none, Bool.true_or, if_true, ok_bind,
      h.chargeable]
    rfl
  · -- the clock may have been behind the time of issue when the attempt was made
    have hthis : (if i.status = .issued then firstAttempt db i (sinceIssue i) else none) = none := by
      split_ifs with hstatus
      · refine Table.head?_filter_eq_none.mpr ?_
        intro q hq
        by_cases hqp : q = p
        · subst hqp
          simp [show sinceIssue i q = false by simpa [hstatus] using hissued]
        · by_cases hinvoice : q.invoiceId = i.id
          · simp [(h.others q hq hinvoice hqp).2 hstatus]
          · simp [hinvoice]
      · rfl
    simp only [hthis, hexisting, h.chargeable]
    rfl

/-- A repeated `_prepare` finds the fresh charge again. -/
theorem prepare_eq (h : FreshCharge origin db p i s) (hkeys : KeysUnique db.attempts)
    {key : Option String} (hkey : key = origin.key ∨ key = none) {issuedOnly : Bool}
    (hissued : issuedOnly = true → i.status = .issued) (providerKey : String) (now : DateTime) :
    prepare db i.id key issuedOnly providerKey now = .ok (db, some p, true) := by
  have hinvoice : fetch db.invoices "Invoice" i.id = .ok i := fetch_eq_ok_iff.mpr ⟨h.invoice, rfl⟩
  have hsubscription : fetch db.subscriptions "Subscription" i.subscriptionId = .ok s :=
    fetch_eq_ok_iff.mpr ⟨h.subscription, h.subscriptionId⟩
  have honly : (issuedOnly && i.status != .issued) = false := by
    cases issuedOnly with
    | false => rfl
    | true => simp [hissued rfl]
  simp only [prepare, hinvoice, hsubscription, ok_bind, honly]
  rw [if_neg (by decide)]
  cases hnormal : normalizeKey key with
  | none =>
    simp only [Option.bind_none]
    exact h.prepareAttempt_eq providerKey now
  | some k =>
    -- the client key is the one of the attempt
    have hbound : p.idempotencyKey = some k := by
      rcases hkey with rfl | rfl
      · rw [h.key, hnormal]
      · cases hnormal
    have hreplay : findReplay db i.organizationId k = some p := by
      refine Table.head?_filter_of_unique h.attempt (by simp [h.organizationId, hbound]) ?_
      intro q hq htest
      simp only [Bool.and_eq_true, beq_iff_eq] at htest
      exact hkeys.client q hq p h.attempt (htest.1.trans h.organizationId.symm) k htest.2 hbound
    simp only [Option.bind_some, hreplay, ensure, h.invoiceId, BEq.rfl, if_true, ok_bind,
      h.chargeable]
    rfl

/-- The worker passes over an invoice that is not ISSUED. -/
theorem prepare_skipped (h : FreshCharge origin db p i s) (hstatus : i.status ≠ .issued)
    (key : Option String) (providerKey : String) (now : DateTime) :
    prepare db i.id key true providerKey now = .ok (db, none, false) := by
  have hinvoice : fetch db.invoices "Invoice" i.id = .ok i := fetch_eq_ok_iff.mpr ⟨h.invoice, rfl⟩
  have hsubscription : fetch db.subscriptions "Subscription" i.subscriptionId = .ok s :=
    fetch_eq_ok_iff.mpr ⟨h.subscription, h.subscriptionId⟩
  simp only [prepare, hinvoice, hsubscription, ok_bind]
  rw [if_pos (by simp [hstatus])]
  rfl

/-- The receipts are no part of it. -/
theorem withReceipts (h : FreshCharge origin db p i s) (receipts : Table MockChargeReceipt) :
    FreshCharge origin { db with receipts := receipts } p i s :=
  ⟨h.attempt, h.invoice, h.subscription, h.invoiceId, h.subscriptionId, h.organizationId,
    h.chargeable, h.payable, h.issued, h.key, h.others⟩

/-- The attempt a call has created. -/
theorem of_prepare {db₀ : Db} {invoiceId : ℕ} {providerKey : String} {now : DateTime}
    (h : prepare db₀ invoiceId origin.key origin.issuedOnly providerKey now =
      .ok (db, some p, true)) (hnew : p ∉ db₀.attempts) :
    ∃ i s, i.id = invoiceId ∧ FreshCharge origin db p i s ∧
      (∀ q, q ∈ db.attempts ↔ q ∈ db₀.attempts ∨ q = p) ∧ db.receipts = db₀.receipts := by
  obtain ⟨i, hi, s, hs, hid, hsid, hprepared, hcharge⟩ := prepare_eq_ok h
  have hissued : origin.issuedOnly = true → i.status = .issued := by
    intro honly
    rw [honly, ← hid] at h
    rcases prepare_issuedOnly h hi with hissued | ⟨-, hnone⟩
    · exact hissued
    · cases hnone
  cases hprepared with
  | created hunbound hchargeable customer hcustomer hunique =>
    refine ⟨i, s, hid, ?_, fun q => Table.mem_insert, rfl⟩
    refine ⟨Table.mem_insert_self, hi, hs, rfl, hsid, rfl, rfl, hchargeable.payable, hissued, rfl,
      ?_⟩
    intro q hq hinvoice hne
    rcases Table.mem_insert.mp hq with hq | rfl
    · exact ⟨hchargeable.allFailed q hq hinvoice,
        fun hstatus => hchargeable.noneSinceIssue hstatus q hq hinvoice⟩
    · exact absurd rfl hne
  | replayed hq => exact absurd hq hnew
  | recovered _ _ hq => exact absurd hq hnew
  | thisIssue _ _ hq => exact absurd hq hnew
  | existing _ _ hq => exact absurd hq hnew

end FreshCharge

/-! ## Edits -/

/-- An edit, by other means than the billing services, of what a charge is made of: the provider's
tokens of a customer, or the total and the currency of an invoice. -/
inductive Edit (db : Db) : Db → Prop
  | customer {c : Customer} (hc : c ∈ db.customers) (customerToken methodToken : String) :
      Edit db { db with customers := db.customers.update { c with
        providerCustomerId := customerToken, providerPaymentMethodId := methodToken } }
  | invoice {i : Invoice} (hi : i ∈ db.invoices) (total : ℤ) (currency : String) :
      Edit db { db with
        invoices := db.invoices.update { i with total := total, currency := currency } }

/-- The version of an invoice after edits of invoices. -/
def Invoice.Edited (i i' : Invoice) : Prop := ∃ total currency,
  i' = { i with total := total, currency := currency }

/-- An edit changes no more of the invoices than an admin may. -/
theorem Edit.invoices {db db' : Db} (h : Edit db db') :
    db.invoices.Evolves Invoice.Edited db'.invoices ∧ db'.invoices.next = db.invoices.next := by
  have hrefl : ∀ i : Invoice, i.Edited i := fun i => ⟨i.total, i.currency, rfl⟩
  cases h with
  | customer => exact ⟨.refl hrefl _, rfl⟩
  | invoice hi total currency => exact ⟨.update hrefl hi ⟨total, currency, rfl⟩ rfl, rfl⟩

/-- An edit leaves the subscriptions, the attempts and the receipts. -/
theorem Edit.rest {db db' : Db} (h : Edit db db') : db'.subscriptions = db.subscriptions ∧
    db'.attempts = db.attempts ∧ db'.receipts = db.receipts := by
  cases h <;> exact ⟨rfl, rfl, rfl⟩

/-- Every invoice after an edit is the edited version of one before. -/
theorem Edit.invoice_origin {db db' : Db} (h : Edit db db') {i' : Invoice}
    (hi' : i' ∈ db'.invoices) : ∃ i ∈ db.invoices, i.Edited i' := by
  obtain ⟨hevolves, hnext⟩ := h.invoices
  obtain ⟨i, hi, -, hedited⟩ := hevolves.origin_of_lt hi' (hnext ▸ Table.key_lt hi')
  exact ⟨i, hi, hedited⟩

/-- The rules on the books do not look at what an edit changes. -/
theorem Edit.sound {db db' : Db} (h : Edit db db') (hdb : Sound db.books) : Sound db'.books := by
  obtain ⟨hsubs, hattempts, -⟩ := h.rest
  have hkept : ∀ i ∈ db.invoices, ∃ i' ∈ db'.invoices, i.Edited i' := by
    intro i hi
    obtain ⟨i', hi', -, hedited⟩ := h.invoices.1.kept i hi
    exact ⟨i', hi', hedited⟩
  refine ⟨⟨?_, ?_⟩, ⟨?_, ?_⟩, ?_, ?_⟩
  · intro i' hi'
    obtain ⟨i, hi, total, currency, rfl⟩ := h.invoice_origin hi'
    obtain ⟨s, hs, hid, horg⟩ := hdb.linked.subscription i hi
    exact ⟨s, show s ∈ db'.subscriptions from hsubs ▸ hs, hid, horg⟩
  · intro p hp
    obtain ⟨i, hi, hid, horg⟩ := hdb.linked.invoice p (show p ∈ db.attempts from hattempts ▸ hp)
    obtain ⟨i', hi', total, currency, rfl⟩ := hkept i hi
    exact ⟨_, hi', hid, horg⟩
  · intro s hs i' hi' hsub
    obtain ⟨i, hi, total, currency, rfl⟩ := h.invoice_origin hi'
    have hagrees := hdb.inStanding.agrees s (show s ∈ db.subscriptions from hsubs ▸ hs) i hi hsub
    exact ⟨hagrees.billed, hagrees.issued, hagrees.failed, hagrees.closed, hagrees.unpaid⟩
  · intro s hs hoverdue
    obtain ⟨i, hi, hsub, hstatus⟩ :=
      hdb.inStanding.pursued s (show s ∈ db.subscriptions from hsubs ▸ hs) hoverdue
    obtain ⟨i', hi', total, currency, rfl⟩ := hkept i hi
    exact ⟨_, hi', hsub, hstatus⟩
  · have hcoupled : Coupled db'.invoices db.attempts := by
      refine hdb.coupled.of_invoices ?_
      intro i' hi'
      obtain ⟨i, hi, total, currency, rfl⟩ := h.invoice_origin hi'
      exact Or.inl ⟨i, hi, rfl, Iff.rfl, fun hstatus => hstatus⟩
    exact show Coupled db'.invoices db'.attempts from hattempts ▸ hcoupled
  · exact show KeysUnique db'.attempts from hattempts ▸ hdb.keysUnique

/-- An edit keeps the database consistent. -/
theorem Edit.consistent {db db' : Db} (h : Edit db db') (hdb : db.Consistent) :
    db'.Consistent := by
  refine ⟨h.sound hdb.sound, ?_, h.rest.2.1 ▸ hdb.admitted⟩
  cases h with
  | invoice hi => exact hdb.tenancy.updateInvoice hi rfl rfl rfl
  | @customer c hc customerToken methodToken =>
    refine ⟨hdb.tenancy.customer.update_parent ?_, hdb.tenancy.plan, hdb.tenancy.subscription,
      hdb.tenancy.line, hdb.tenancy.attempt⟩
    intro c₀ hc₀ hkey hmoved
    obtain rfl := Table.eq_of_key_eq hc₀ hc hkey
    exact absurd rfl hmoved

/-- An edit keeps the attempt the one to charge, and the state of its charge. -/
theorem Edit.freshCharge {origin : EntryPoint} {db db' : Db} {p : PaymentAttempt} {i : Invoice}
    {s : Subscription} (h : Edit db db') (hfresh : FreshCharge origin db p i s) :
    ∃ i', i'.id = i.id ∧ FreshCharge origin db' p i' s ∧
      ∀ c, db'.books.chargeState p i' s c = db.books.chargeState p i s c := by
  obtain ⟨hsubs, hattempts, -⟩ := h.rest
  obtain ⟨i', hi', -, total, currency, rfl⟩ := h.invoices.1.kept i hfresh.invoice
  refine ⟨{ i with total := total, currency := currency }, rfl, ?_, ?_⟩
  · exact ⟨hattempts ▸ hfresh.attempt, hi', hsubs ▸ hfresh.subscription, hfresh.invoiceId,
      hfresh.subscriptionId, hfresh.organizationId, hfresh.chargeable, hfresh.payable,
      hfresh.issued, hfresh.key, hattempts ▸ hfresh.others⟩
  · intro c
    have harrears : (db'.invoices.any fun j => j.id != i.id && (j.subscriptionId == s.id &&
          (j.status == .failed || j.status == .overdue))) =
        db.invoices.any fun j => j.id != i.id && (j.subscriptionId == s.id &&
          (j.status == .failed || j.status == .overdue)) := by
      rw [Bool.eq_iff_iff, Table.any_eq_true, Table.any_eq_true]
      constructor
      · rintro ⟨j', hj', htest⟩
        obtain ⟨j, hj, total, currency, rfl⟩ := h.invoice_origin hj'
        exact ⟨j, hj, htest⟩
      · rintro ⟨j, hj, htest⟩
        obtain ⟨j', hj', -, total, currency, rfl⟩ := h.invoices.1.kept j hj
        exact ⟨_, hj', htest⟩
    simp only [Books.chargeState, Db.books, hattempts, harrears]

/-! ## What may happen before a settlement -/

/-- A retry of the charge of an invoice, under the key of the first call or under none, a part of a
charge under way, or an edit.  No settlement commits: a caller that has its result can only stop.
The gateway draws charge ids that fit their column. -/
inductive RetryStep (env : Env) (origin : EntryPoint) (invoiceId paymentId : ℕ) : Sys → Sys → Prop
  | attempt {sys sys' : Sys} {key : Option String} (hkey : key = origin.key ∨ key = none)
      (providerKey : String) (now : DateTime)
      (h : sys.step env (.call invoiceId key false providerKey now) = some sys') :
      RetryStep env origin invoiceId paymentId sys sys'
  | chargeIssued {sys sys' : Sys} (providerKey : String) (now : DateTime)
      (h : sys.step env (.call invoiceId none true providerKey now) = some sys') :
      RetryStep env origin invoiceId paymentId sys sys'
  | recover {sys sys' : Sys} (h : sys.step env (.recover paymentId) = some sys') :
      RetryStep env origin invoiceId paymentId sys sys'
  | advance {sys sys' : Sys} {n : ℕ}
      (hwaits : ∀ paymentId result, sys.charges[n]? ≠ some (.answered paymentId result))
      (success : Bool) {chargeId : String} (hlength : chargeId.length ≤ 255) (now : DateTime)
      (h : sys.step env (.advance n success chargeId now) = some sys') :
      RetryStep env origin invoiceId paymentId sys sys'
  | crash {sys sys' : Sys} (n : ℕ) (h : sys.step env (.crash n) = some sys') :
      RetryStep env origin invoiceId paymentId sys sys'
  | edit {db db' : Db} (charges : List ChargePhase) (h : Edit db db') :
      RetryStep env origin invoiceId paymentId ⟨db, charges⟩ ⟨db', charges⟩

/-- A charge under way is one of the attempt `p`, and its request is made of the attempt as it was
created. -/
def ChargePhase.Retries (db : Db) (p : PaymentAttempt) : ChargePhase → Prop
  | .started paymentId => paymentId = p.id
  | .requested paymentId request => paymentId = p.id ∧ request = chargeRequest p
  | .lookedUp paymentId request seen => paymentId = p.id ∧ request = chargeRequest p ∧
    ∀ r ∈ seen, r ∈ db.receipts ∧ r.providerIdempotencyKey = p.providerIdempotencyKey
  | .answered paymentId _ => paymentId = p.id

/-- The ledger, since the attempt `p` was created: as it was, or with one receipt more. -/
inductive Receipted (db₁ : Db) (p : PaymentAttempt) (fp : String) : Table MockChargeReceipt → Prop
  | unasked : Receipted db₁ p fp db₁.receipts
  | answered (success : Bool) {chargeId : String} (hlength : chargeId.length ≤ 255)
      (hfresh : ∀ r ∈ db₁.receipts, r.providerChargeId ≠ chargeId) :
      Receipted db₁ p fp
        (db₁.receipts.insert (newReceipt (chargeRequest p) fp success chargeId))

/-- What stays while a charge is retried: the database `db₁` is the one the attempt `p` of the
invoice `i` was created in. -/
structure Retrying (origin : EntryPoint) (db₁ : Db) (p : PaymentAttempt) (i : Invoice)
    (s : Subscription) (fp : String) (sys : Sys) : Prop where
  consistent : sys.db.Consistent
  attempts : sys.db.attempts = db₁.attempts
  charge : ∃ i', i'.id = i.id ∧ FreshCharge origin sys.db p i' s ∧
    ∀ c, sys.db.books.chargeState p i' s c = db₁.books.chargeState p i s c
  receipts : Receipted db₁ p fp sys.db.receipts
  charges : ∀ c ∈ sys.charges, c.Retries sys.db p

section

variable {env : Env} {origin : EntryPoint} {db₁ : Db} {p : PaymentAttempt} {i : Invoice}
  {s : Subscription} {fp : String} {sys sys' : Sys}

/-- Every receipt for the attempt was made for its request. -/
theorem Receipted.honoured {receipts : Table MockChargeReceipt} (h : Receipted db₁ p fp receipts)
    (hfree : ∀ r ∈ db₁.receipts, r.providerIdempotencyKey ≠ p.providerIdempotencyKey) :
    ∀ r ∈ receipts, r.providerIdempotencyKey = p.providerIdempotencyKey →
      r.requestFingerprint = fp := by
  intro r hr hkey
  cases h with
  | unasked => exact absurd hkey (hfree r hr)
  | answered =>
    rcases Table.mem_insert.mp hr with hr | rfl
    · exact absurd hkey (hfree r hr)
    · rfl

/-- What a caller knows stays true while receipts are only added. -/
theorem ChargePhase.Retries.mono {db db' : Db} {c : ChargePhase} (h : c.Retries db p)
    (hreceipts : ∀ r ∈ db.receipts, r ∈ db'.receipts) : c.Retries db' p := by
  cases c with
  | lookedUp paymentId request seen =>
    exact ⟨h.1, h.2.1, fun r hr => ⟨hreceipts r (h.2.2 r hr).1, (h.2.2 r hr).2⟩⟩
  | _ => exact h

namespace Retrying

/-- The callers change, the database does not. -/
theorem of_charges (h : Retrying origin db₁ p i s fp sys) (hdb : sys'.db = sys.db)
    (hcharges : ∀ c ∈ sys'.charges, c ∈ sys.charges ∨ c.Retries sys.db p) :
    Retrying origin db₁ p i s fp sys' := by
  refine ⟨hdb ▸ h.consistent, hdb ▸ h.attempts, hdb ▸ h.charge, hdb ▸ h.receipts, ?_⟩
  intro c hc
  rw [hdb]
  rcases hcharges c hc with hold | hnew
  · exact h.charges c hold
  · exact hnew

/-- A repeated call goes on with the same charge. -/
theorem call (h : Retrying origin db₁ p i s fp sys) {key : Option String} {issuedOnly : Bool}
    (hkey : key = origin.key ∨ key = none) {providerKey : String} {now : DateTime}
    (hstep : sys.step env (.call i.id key issuedOnly providerKey now) = some sys') :
    Retrying origin db₁ p i s fp sys' := by
  obtain ⟨i', hid, hfresh, -⟩ := h.charge
  rw [← hid] at hstep
  by_cases hissued : issuedOnly = true → i'.status = .issued
  · simp only [Sys.step, hfresh.prepare_eq h.consistent.sound.keysUnique hkey hissued] at hstep
    obtain rfl := Option.some.inj hstep
    refine h.of_charges rfl ?_
    intro c hc
    rcases List.mem_append.mp hc with hc | hc
    · exact Or.inl hc
    · rw [List.mem_singleton.mp hc]
      exact Or.inr rfl
  · rw [Classical.not_imp] at hissued
    obtain ⟨rfl, hstatus⟩ := hissued
    simp only [Sys.step, hfresh.prepare_skipped hstatus] at hstep
    obtain rfl := Option.some.inj hstep
    exact h.of_charges rfl fun c hc => Or.inl hc

/-- A caller goes on, but does not settle. -/
theorem advance (h : Retrying origin db₁ p i s fp sys)
    (hfree : ∀ r ∈ db₁.receipts, r.providerIdempotencyKey ≠ p.providerIdempotencyKey)
    (hfp : requestFingerprint env (chargeRequest p) = .ok fp) {n : ℕ}
    (hwaits : ∀ paymentId result, sys.charges[n]? ≠ some (.answered paymentId result))
    {success : Bool} {chargeId : String} (hlength : chargeId.length ≤ 255) {now : DateTime}
    (hstep : sys.step env (.advance n success chargeId now) = some sys') :
    Retrying origin db₁ p i s fp sys' := by
  obtain ⟨c, hc, c', hnext, hcharges⟩ := Sys.advance_eq_some hstep
  have hretries := h.charges c (List.mem_of_getElem? hc)
  obtain ⟨i', hid, hfresh, hstate⟩ := h.charge
  unfold ChargePhase.next at hnext
  cases c with
  | started paymentId =>
    obtain rfl : paymentId = p.id := hretries
    obtain ⟨q, hfetch, hnext⟩ := bind_eq_ok_iff.mp hnext
    obtain ⟨hq, hqid⟩ := fetch_eq_ok_iff.mp hfetch
    obtain rfl := Table.eq_of_key_eq hq hfresh.attempt hqid
    rw [if_neg (by simp [hfresh.chargeable])] at hnext
    obtain ⟨-, -, hnext⟩ := bind_eq_ok_iff.mp hnext
    obtain ⟨hdb, rfl⟩ := Prod.mk.inj (pure_eq_ok_iff.mp hnext)
    refine h.of_charges hdb.symm ?_
    intro c'' hc''
    rcases hcharges c'' hc'' with hold | hnew
    · exact Or.inl hold
    · obtain rfl := Option.some.inj hnew
      exact Or.inr ⟨rfl, rfl⟩
  | requested paymentId request =>
    obtain ⟨rfl, rfl⟩ : paymentId = p.id ∧ request = chargeRequest p := hretries
    obtain ⟨hdb, rfl⟩ := Prod.mk.inj (Except.ok.inj hnext)
    refine h.of_charges hdb.symm ?_
    intro c'' hc''
    rcases hcharges c'' hc'' with hold | hnew
    · exact Or.inl hold
    · obtain rfl := Option.some.inj hnew
      exact Or.inr ⟨rfl, rfl, fun r hr => findReceipt_eq_some hr⟩
  | lookedUp paymentId request seen =>
    obtain ⟨rfl, rfl, hseen⟩ := hretries
    obtain ⟨⟨db', result⟩, hgateway, hnext⟩ := bind_eq_ok_iff.mp hnext
    obtain ⟨hdb, rfl⟩ := Prod.mk.inj (pure_eq_ok_iff.mp hnext)
    obtain ⟨fp', r, hfp', hanswered, -⟩ := finishCharge_eq_ok hgateway
    obtain rfl : fp = fp' := Except.ok.inj (hfp.symm.trans hfp')
    have hmoved : ∀ c'' ∈ sys'.charges, c'' ∈ sys.charges ∨ c''.Retries db' p := by
      intro c'' hc''
      rcases hcharges c'' hc'' with hold | hnew
      · exact Or.inl hold
      · obtain rfl := Option.some.inj hnew
        exact Or.inr rfl
    cases hanswered with
    | replayed => exact h.of_charges hdb.symm hmoved
    | raced => exact h.of_charges hdb.symm hmoved
    | drawn _ hkey hcharge =>
      -- the attempt has no receipt yet, so the ledger is as it was
      have hreceipts : sys.db.receipts = db₁.receipts := by
        have hcase := h.receipts
        generalize sys.db.receipts = receipts at hcase hkey
        cases hcase with
        | unasked => rfl
        | answered => exact absurd rfl (hkey _ Table.mem_insert_self)
      obtain ⟨db', charges⟩ := sys'
      obtain rfl : _ = db' := hdb
      refine ⟨h.consistent.withReceipts _, h.attempts,
        ⟨i', hid, hfresh.withReceipts _, hstate⟩, ?_, ?_⟩
      · rw [show sys.db.receipts = db₁.receipts from hreceipts]
        exact .answered success hlength (hreceipts ▸ hcharge)
      · intro c'' hc''
        rcases hmoved c'' hc'' with hold | hnew
        · exact (h.charges c'' hold).mono fun r hr => Table.mem_insert_of_mem hr
        · exact hnew
  | answered paymentId result => exact absurd hc (hwaits paymentId result)

/-- What a retry does, and what happens in between. -/
theorem step (h : Retrying origin db₁ p i s fp sys)
    (hfree : ∀ r ∈ db₁.receipts, r.providerIdempotencyKey ≠ p.providerIdempotencyKey)
    (hfp : requestFingerprint env (chargeRequest p) = .ok fp)
    (hstep : RetryStep env origin i.id p.id sys sys') : Retrying origin db₁ p i s fp sys' := by
  cases hstep with
  | attempt hkey _ _ hstep => exact h.call hkey hstep
  | chargeIssued _ _ hstep => exact h.call (Or.inr rfl) hstep
  | recover hstep =>
    simp only [Sys.step] at hstep
    split_ifs at hstep
    obtain rfl := Option.some.inj hstep
    refine h.of_charges rfl ?_
    intro c hc
    rcases List.mem_append.mp hc with hc | hc
    · exact Or.inl hc
    · rw [List.mem_singleton.mp hc]
      exact Or.inr rfl
  | advance hwaits _ hlength _ hstep => exact h.advance hfree hfp hwaits hlength hstep
  | crash n hstep =>
    obtain rfl := Option.some.inj hstep
    exact h.of_charges rfl fun c hc => Or.inl (List.mem_of_mem_eraseIdx hc)
  | edit charges hedit =>
    obtain ⟨i', hid, hfresh, hstate⟩ := h.charge
    obtain ⟨i'', hid', hfresh', hstate'⟩ := hedit.freshCharge hfresh
    obtain ⟨-, hattempts, hreceipts⟩ := hedit.rest
    refine ⟨hedit.consistent h.consistent, hattempts.trans h.attempts,
      ⟨i'', hid'.trans hid, hfresh', fun c => (hstate' c).trans (hstate c)⟩, ?_, ?_⟩
    · exact hreceipts ▸ h.receipts
    · exact fun c hc => (h.charges c hc).mono fun r hr => hreceipts ▸ hr

end Retrying

/-- The first call has created the attempt. -/
theorem FreshCharge.retrying (h : FreshCharge origin db₁ p i s) (hconsistent : db₁.Consistent)
    (fp : String) : Retrying origin db₁ p i s fp ⟨db₁, [.started p.id]⟩ := by
  refine ⟨hconsistent, rfl, ⟨i, rfl, h, fun _ => rfl⟩, .unasked, ?_⟩
  intro c hc
  rw [List.mem_singleton.mp hc]
  exact rfl

/-! ## The last execution -/

/-- The gateway answers a request for the attempt with the receipt it has, or with a new one. -/
theorem Receipted.charge_eq {db : Db} (h : Receipted db₁ p fp db.receipts)
    (hfree : ∀ r ∈ db₁.receipts, r.providerIdempotencyKey ≠ p.providerIdempotencyKey)
    (hfp : requestFingerprint env (chargeRequest p) = .ok fp)
    (hkeyLength : (chargeRequest p).idempotencyKey.length ≤ 255) (success : Bool) {chargeId : String}
    (hlength : chargeId.length ≤ 255) (hdraw : ∀ r ∈ db.receipts, r.providerChargeId ≠ chargeId) :
    ∃ (success' : Bool) (chargeId' : String), chargeId'.length ≤ 255 ∧
      (∀ r ∈ db₁.receipts, r.providerChargeId ≠ chargeId') ∧
      MockPaymentGateway.charge env db (chargeRequest p) success chargeId = .ok
        ({ db with
            receipts := db₁.receipts.insert (newReceipt (chargeRequest p) fp success' chargeId') },
          answer (newReceipt (chargeRequest p) fp success' chargeId')) := by
  unfold MockPaymentGateway.charge
  generalize hreceipts : db.receipts = receipts at h hdraw
  cases h with
  | unasked =>
    have hkey : ∀ r ∈ db.receipts,
        r.providerIdempotencyKey ≠ (chargeRequest p).idempotencyKey := hreceipts ▸ hfree
    have hnone : findReceipt db (chargeRequest p).idempotencyKey = none :=
      Table.head?_filter_eq_none.mpr fun r hr => beq_eq_false_iff_ne.mpr (hkey r hr)
    refine ⟨success, chargeId, hlength, hdraw, ?_⟩
    rw [hnone, finishCharge_of_free hfp hkeyLength hkey (hreceipts ▸ hdraw), hreceipts]
  | @answered success' chargeId' hlength' hfresh =>
    have hfound : findReceipt db (chargeRequest p).idempotencyKey = some (withKey
        db₁.receipts.next (newReceipt (chargeRequest p) fp success' chargeId')) := by
      unfold findReceipt
      rw [hreceipts]
      refine Table.head?_filter_of_unique Table.mem_insert_self (beq_iff_eq.mpr rfl) ?_
      intro r hr hkey
      rcases Table.mem_insert.mp hr with hr | rfl
      · exact absurd (beq_iff_eq.mp hkey) (hfree r hr)
      · rfl
    refine ⟨success', chargeId', hlength', hfresh, ?_⟩
    rw [hfound, finishCharge_of_seen hfp rfl, ← hreceipts]
    rfl

/-- A charge that nothing disturbs any more ends as the first one would have ended, had it met with
the outcome of the receipt. -/
theorem Retrying.charge_ends (h : Retrying origin db₁ p i s fp sys)
    (hstart : FreshCharge origin db₁ p i s) (hconsistent : db₁.Consistent)
    (hfree : ∀ r ∈ db₁.receipts, r.providerIdempotencyKey ≠ p.providerIdempotencyKey)
    (hfp : requestFingerprint env (chargeRequest p) = .ok fp) {success : Bool} {chargeId : String}
    (hlength : chargeId.length ≤ 255)
    (hdraw : ∀ r ∈ sys.db.receipts, r.providerChargeId ≠ chargeId) (settledAt : DateTime) :
    ∃ r db' p', PaymentService.charge env sys.db p.id success chargeId settledAt = .ok (db', p') ∧
      r.providerIdempotencyKey = p.providerIdempotencyKey ∧
      db'.receipts = db₁.receipts.insert r ∧
      (∀ q' ∈ db'.attempts, ∃ q ∈ db₁.attempts, q.id = q'.id) ∧
      ∀ settledAt', ∃ db'' p'', PaymentService.charge env db₁ p.id r.success r.providerChargeId
          settledAt' = .ok (db'', p'') ∧
        ∃ statuses, db'.statuses p.id = some statuses ∧ db''.statuses p.id = some statuses := by
  obtain ⟨i', -, hfresh, hstate⟩ := h.charge
  have hkeyLength := key_of_lengths (hconsistent.admitted.lengths p hstart.attempt)
  obtain ⟨success', chargeId', hlength', hfresh', hgateway⟩ :=
    h.receipts.charge_eq hfree hfp hkeyLength success hlength hdraw
  obtain ⟨db', p', hcharge, hreceipts, hrows, hstatuses⟩ := charge_commits h.consistent
    hfresh.attempt hfresh.chargeable hfresh.invoice hfresh.invoiceId hfresh.subscription
    hfresh.subscriptionId hgateway rfl hlength' settledAt
  rw [hstate] at hstatuses
  refine ⟨newReceipt (chargeRequest p) fp success' chargeId', db', p', hcharge, rfl, hreceipts,
    h.attempts ▸ hrows, ?_⟩
  intro settledAt'
  -- the undisturbed charge draws the same outcome
  have hnone : findReceipt db₁ (chargeRequest p).idempotencyKey = none :=
    Table.head?_filter_eq_none.mpr fun r hr => beq_eq_false_iff_ne.mpr (hfree r hr)
  have hgateway' : MockPaymentGateway.charge env db₁ (chargeRequest p) success' chargeId' = .ok
      ({ db₁ with
          receipts := db₁.receipts.insert (newReceipt (chargeRequest p) fp success' chargeId') },
        answer (newReceipt (chargeRequest p) fp success' chargeId')) := by
    unfold MockPaymentGateway.charge
    rw [hnone, finishCharge_of_free hfp hkeyLength hfree hfresh']
  obtain ⟨db'', p'', hcharge', -, -, hstatuses'⟩ := charge_commits hconsistent hstart.attempt
    hstart.chargeable hstart.invoice hstart.invoiceId hstart.subscription hstart.subscriptionId
    hgateway' rfl hlength' settledAt'
  exact ⟨db'', p'', hcharge', _, hstatuses, hstatuses'⟩

end

/-- `recover_pending` charges a PENDING attempt. -/
theorem recoverPending_of_chargeable {env : Env} {db db' : Db} {p p' : PaymentAttempt}
    {success : Bool} {chargeId : String} {settledAt : DateTime} (hp : p ∈ db.attempts)
    (hopen : chargeable p = true)
    (hcharge : PaymentService.charge env db p.id success chargeId settledAt = .ok (db', p')) :
    recoverPending env db p.id false success chargeId settledAt = .ok (db', some p') := by
  have hfirst : (db.attempts.filter fun q => q.id == p.id && chargeable q).head? = some p := by
    refine Table.head?_filter_of_unique hp (by simp [hopen]) ?_
    intro q hq htest
    simp only [Bool.and_eq_true, beq_iff_eq] at htest
    exact Table.eq_of_key_eq hq hp htest.1
  simp only [recoverPending, ensure, Bool.not_false, if_true, ok_bind, hfirst, hcharge]
  rfl

end Chargeflow
