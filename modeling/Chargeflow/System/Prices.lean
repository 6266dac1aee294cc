import Chargeflow.System.Tenancy
import Chargeflow.System.Provider

/-!
# Prices

An invoice takes the price and the currency of the plan as it is stored when the invoice is
generated, in its own columns and in its one line; an attempt copies them from the invoice, and the
request to the provider from the attempt.  No transaction writes them again: it keeps the prices of
all invoices, and generates at most one (`Pricing`).  So they agree in every reachable database
(`Priced`), whatever becomes of the plan.
-/

namespace Chargeflow

open Foundation PaymentService MockPaymentGateway

/-! ## One transaction -/

/-- Every invoice was there before, with the same price, and the lines are the same. -/
structure PricesKept (db db' : Db) : Prop where
  lines : db'.invoiceLines = db.invoiceLines
  next : db'.invoices.next = db.invoices.next
  origin : ∀ i' ∈ db'.invoices, ∃ i ∈ db.invoices, i.id = i'.id ∧ i.total = i'.total ∧
    i.currency = i'.currency

/-- The prices are kept if lines and invoices are. -/
theorem PricesKept.of_same {db db' : Db} (hlines : db'.invoiceLines = db.invoiceLines)
    (hinvoices : db'.invoices = db.invoices) : PricesKept db db' where
  lines := hlines
  next := congrArg Table.next hinvoices
  origin i' hi' := ⟨i', hinvoices ▸ hi', rfl, rfl, rfl⟩

/-- Prices that are kept twice are kept. -/
theorem PricesKept.trans {db db' db'' : Db} (h : PricesKept db db') (h' : PricesKept db' db'') :
    PricesKept db db'' where
  lines := h'.lines.trans h.lines
  next := h'.next.trans h.next
  origin i'' hi'' := by
    obtain ⟨i', hi', hid', htotal', hcurrency'⟩ := h'.origin i'' hi''
    obtain ⟨i, hi, hid, htotal, hcurrency⟩ := h.origin i' hi'
    exact ⟨i, hi, hid.trans hid', htotal.trans htotal', hcurrency.trans hcurrency'⟩

/-- A write of a status keeps the prices and the plans. -/
theorem StatusWrite.pricesKept {db db' : Db} (h : StatusWrite db db') :
    PricesKept db db' ∧ db'.plans = db.plans := by
  cases h with
  | subscriptionFields h =>
    obtain ⟨stored, -, -, rfl⟩ := Subscription.save_eq_ok h
    exact ⟨.of_same rfl rfl, rfl⟩
  | subscriptionStatus h =>
    obtain ⟨row, -, -, -, -, rfl⟩ := Subscription.transitionTo_writes h
    exact ⟨.of_same rfl rfl, rfl⟩
  | invoiceStatus h =>
    obtain ⟨row, hrow, -, -, -, rfl⟩ := Invoice.transitionTo_writes h
    refine ⟨⟨rfl, rfl, ?_⟩, rfl⟩
    intro i' hi'
    rcases (Table.mem_update_of_mem hrow (by rfl)).mp hi' with rfl | ⟨hi', -⟩
    · exact ⟨row, hrow, rfl, rfl, rfl⟩
    · exact ⟨i', hi', rfl, rfl, rfl⟩
  | handOff tasks => exact ⟨.of_same rfl rfl, rfl⟩

/-- A write of a settlement keeps the prices. -/
theorem SettlementWrite.pricesKept {db db' : Db} (h : SettlementWrite db db') :
    PricesKept db db' := by
  cases h with
  | status h => exact h.pricesKept.1
  | attemptFields hfields h =>
    obtain ⟨stored, -, -, -, rfl⟩ := PaymentAttempt.save_eq_ok hfields h
    exact .of_same rfl rfl

/-- Writes of a settlement keep the prices. -/
theorem Reaches.pricesKept {db db' : Db} (h : Reaches SettlementWrite db db') :
    PricesKept db db' :=
  h.relation (fun _ => .of_same rfl rfl) (fun _ _ _ => .trans) fun _ _ =>
    SettlementWrite.pricesKept

/-- Writes of statuses keep the prices and the plans. -/
theorem Reaches.statusesKept {db db' : Db} (h : Reaches StatusWrite db db') :
    PricesKept db db' ∧ db'.plans = db.plans := by
  refine h.relation (R := fun db db' => PricesKept db db' ∧ db'.plans = db.plans) ?_ ?_ ?_
  · exact fun db => ⟨.of_same rfl rfl, rfl⟩
  · exact fun _ _ _ h h' => ⟨h.1.trans h'.1, h'.2.trans h.2⟩
  · exact fun _ _ => StatusWrite.pricesKept

/-- What a transaction does to the prices: it keeps them, and may end by billing a subscription for
its plan. -/
inductive Pricing (db db' : Db) : Prop
  | kept (h : PricesKept db db')
  | billed {db₁ : Db} (hkept : PricesKept db db₁) (hplans : db₁.plans = db.plans)
      {s : Subscription} (hs : s ∈ db₁.subscriptions) (h : Billed db₁ db' s)

/-- A generated invoice is priced by the plan of that moment. -/
theorem Pricing.of_generates {db db₁ db' : Db} (hkept : PricesKept db db₁)
    (hplans : db₁.plans = db.plans) {subscriptionId : ℕ} {issuedAt : DateTime}
    {result : Option Invoice}
    (h : InvoiceService.generateForSubscription db₁ subscriptionId issuedAt = .ok (db', result)) :
    Pricing db db' := by
  obtain ⟨s, hs, -, ⟨-, rfl⟩ | ⟨-, hbilled⟩⟩ := InvoiceService.generateForSubscription_eq_ok h
  · exact .kept hkept
  · exact .billed hkept hplans hs hbilled

/-- What ends in the generation of an invoice prices it. -/
theorem SubscriptionService.EndsGenerating.pricing {db db' : Db}
    (h : SubscriptionService.EndsGenerating db db') : Pricing db db' := by
  obtain ⟨db₁, subscriptionId, issuedAt, result, hwrites, hgen⟩ := h
  obtain ⟨hkept, hplans⟩ := Reaches.statusesKept hwrites
  exact .of_generates hkept hplans hgen

/-- An operation prices at most one new invoice. -/
theorem Operation.pricing {env : Env} {db db' : Db} {op : Operation}
    (h : op.apply env db = .ok db') : Pricing db db' := by
  cases op with
  | savePlan plan =>
    obtain ⟨plans, rfl⟩ := Plan.save_eq_ok h
    exact .kept (.of_same rfl rfl)
  | saveCustomer customer =>
    obtain ⟨customers, rfl⟩ := Customer.save_eq_ok h
    exact .kept (.of_same rfl rfl)
  | create customerId planId now issuedAt =>
    obtain ⟨⟨db₁, s⟩, hrun, rfl⟩ := map_eq_ok_iff.mp h
    obtain ⟨s₀, db₂, s₁, result, -, -, hcreate, hgen⟩ := SubscriptionService.create_generates hrun
    obtain ⟨customer, -, -, hdb₂, -⟩ := Subscription.create_eq_ok hcreate
    have hkept : PricesKept db db₂ := hdb₂ ▸ .of_same rfl rfl
    exact .of_generates hkept (hdb₂ ▸ rfl) hgen
  | activate subscriptionId now issuedAt => exact (SubscriptionService.activate_generates h).pricing
  | activateIfStillExpired subscriptionId checkedAt now issuedAt =>
    obtain rfl | hgen := SubscriptionService.activateIfStillExpired_generates h
    · exact .kept (.of_same rfl rfl)
    · exact hgen.pricing
  | renew subscriptionId checkedAt now issuedAt => exact (SubscriptionService.renew_generates h).pricing
  | renewIfStillDue subscriptionId listedAt checkedAt now issuedAt =>
    obtain rfl | hgen := SubscriptionService.renewIfStillDue_generates h
    · exact .kept (.of_same rfl rfl)
    · exact hgen.pricing
  | generate subscriptionId issuedAt =>
    obtain ⟨⟨db₁, result⟩, hrun, rfl⟩ := map_eq_ok_iff.mp h
    exact .of_generates (.of_same rfl rfl) rfl hrun
  | cancel subscriptionId reason now =>
    exact .kept (Reaches.statusesKept (SubscriptionService.cancel_writes h)).1
  | prepare invoiceId key issuedOnly providerKey now =>
    obtain ⟨⟨db₁, payment, shouldCharge⟩, hrun, rfl⟩ := map_eq_ok_iff.mp h
    obtain ⟨i, -, s, -, -, -, hprepared, -⟩ := prepare_eq_ok hrun
    cases hprepared <;> exact .kept (.of_same rfl rfl)
  | gateway request seen success chargeId =>
    obtain ⟨⟨db₁, result⟩, hrun, rfl⟩ := map_eq_ok_iff.mp h
    obtain ⟨fingerprint, r, -, hanswered, -⟩ := finishCharge_eq_ok hrun
    cases hanswered <;> exact .kept (.of_same rfl rfl)
  | settle paymentId success response chargeId now => exact .kept (Reaches.pricesKept (settle_writes h))
  | webhook eventType payload provider providerEventId now =>
    simp only [Operation.apply, handleWebhook_eq, bind_eq_ok_iff] at h
    obtain ⟨event, -, h⟩ := h
    split_ifs at h
    · exact pure_eq_ok_iff.mp h ▸ .kept (.of_same rfl rfl)
    obtain ⟨-, rfl⟩ | ⟨-, events, db₁, hrun, rfl⟩ := recordWebhook_eq_ok h
    · exact .kept (.of_same rfl rfl)
    · have hkept : PricesKept { db with webhookEvents := events } db₁ := Reaches.pricesKept hrun
      exact .kept ⟨hkept.lines, hkept.next, hkept.origin⟩
  | dun invoiceId now => exact .kept (Reaches.statusesKept (dunInvoice_writes h)).1
  | reconcile now =>
    obtain rfl := Except.ok.inj h
    exact .kept (.of_same rfl rfl)

/-! ## Every reachable database -/

/-- The sum of the amounts of the lines of an invoice. -/
def Db.lineTotal (db : Db) (invoiceId : ℕ) : ℤ :=
  ((db.invoiceLines.filter fun l => l.invoiceId == invoiceId).map InvoiceLine.amount).sum

/-- The lines of an invoice add up to its total, and its attempts are for its total. -/
structure Priced (db : Db) : Prop where
  lines : ∀ l ∈ db.invoiceLines, l.invoiceId < db.invoices.next
  total : ∀ i ∈ db.invoices, db.lineTotal i.id = i.total
  attempt : ∀ p ∈ db.attempts, ∀ i ∈ db.invoices, i.id = p.invoiceId →
    p.amount = i.total ∧ p.currency = i.currency

/-- A new line counts for its invoice. -/
theorem Db.lineTotal_insert {db db' : Db} {l : InvoiceLine}
    (hlines : db'.invoiceLines = db.invoiceLines.insert l) (n : ℕ) :
    db'.lineTotal n = db.lineTotal n + if l.invoiceId = n then l.amount else 0 := by
  have hinvoice : (withKey db.invoiceLines.next l).invoiceId = l.invoiceId := rfl
  have hamount : (withKey db.invoiceLines.next l).amount = l.amount := rfl
  unfold Db.lineTotal
  rw [hlines]
  simp only [Table.filter, Table.insert, List.filter_append, List.map_append, List.sum_append]
  congr 1
  by_cases hn : l.invoiceId = n <;> simp [hinvoice, hamount, hn]

/-- An invoice that no line belongs to has none. -/
theorem Db.lineTotal_of_fresh {db : Db} {n : ℕ} (h : ∀ l ∈ db.invoiceLines, l.invoiceId ≠ n) :
    db.lineTotal n = 0 := by
  have hnone : db.invoiceLines.filter (fun l => l.invoiceId == n) = [] := by
    refine List.eq_nil_iff_forall_not_mem.mpr ?_
    intro l hl
    obtain ⟨hl, htest⟩ := Table.mem_filter.mp hl
    exact h l hl (beq_iff_eq.mp htest)
  rw [Db.lineTotal, hnone]
  rfl

/-- The rule on the lines. -/
theorem Pricing.lines {db db' : Db} (h : Pricing db db') (hdb : Priced db) :
    (∀ l ∈ db'.invoiceLines, l.invoiceId < db'.invoices.next) ∧
      ∀ i ∈ db'.invoices, db'.lineTotal i.id = i.total := by
  have hkept : ∀ {db' : Db}, PricesKept db db' →
      (∀ l ∈ db'.invoiceLines, l.invoiceId < db'.invoices.next) ∧
        ∀ i ∈ db'.invoices, db'.lineTotal i.id = i.total := by
    intro db' hkept
    refine ⟨?_, ?_⟩
    · rw [hkept.lines, hkept.next]
      exact hdb.lines
    · intro i' hi'
      obtain ⟨i, hi, hid, htotal, -⟩ := hkept.origin i' hi'
      rw [← hid, ← htotal, ← hdb.total i hi, Db.lineTotal, hkept.lines]
      rfl
  cases h with
  | kept h => exact hkept h
  | @billed db₁ h hplans s hs hbilled =>
    obtain ⟨hlines, htotal⟩ := hkept h
    cases hbilled with
    | already i hi hcovers hsame => exact hsame ▸ hkept h
    | issued plan hplan hplanId now hnone hissued =>
      have hinserted : ∀ n, db'.lineTotal n = _ := Db.lineTotal_insert (by rw [hissued])
      have hinvoices : db'.invoices = db₁.invoices.insert (issuedInvoice plan s now) := by
        rw [hissued]
      refine ⟨?_, ?_⟩
      · rw [hissued]
        intro l hl
        rcases Table.mem_insert.mp hl with hl | rfl
        · exact (hlines l hl).trans (Nat.lt_succ_self _)
        · exact Nat.lt_succ_self _
      · intro i hi
        rw [hinserted]
        rw [hinvoices] at hi
        rcases Table.mem_insert.mp hi with hi | rfl
        · have hne : db₁.invoices.next ≠ i.id := (Table.key_lt hi).ne'
          rw [htotal i hi, if_neg hne, add_zero]
        · have hfresh : db₁.lineTotal db₁.invoices.next = 0 :=
            Db.lineTotal_of_fresh fun l hl => (hlines l hl).ne
          have hprice : db₁.lineTotal db₁.invoices.next +
              (if db₁.invoices.next = db₁.invoices.next then plan.price else 0) = plan.price := by
            rw [hfresh, if_pos rfl, zero_add]
          exact hprice

/-- The rule on the attempts. -/
theorem BooksStep.priced {env : Env} {readings : List DateTime} {b b' : Books}
    (h : BooksStep env readings b b') (hlinked : Linked b)
    (hb : ∀ p ∈ b.attempts, ∀ i ∈ b.invoices, i.id = p.invoiceId →
      p.amount = i.total ∧ p.currency = i.currency) :
    ∀ p ∈ b'.attempts, ∀ i ∈ b'.invoices, i.id = p.invoiceId →
      p.amount = i.total ∧ p.currency = i.currency := by
  intro p' hp' i' hi' hid
  rcases h.attempt_origin hp' with ⟨p, hp, -, hlater⟩ | ⟨s, i, hc, _, _, _, _, rfl, -, rfl⟩
  · rcases h.invoice_origin hi' with ⟨i, hi, hiid, hlater'⟩ | ⟨s, -, plan, now, rfl, -, -⟩
    · have hpi : i.id = p.invoiceId := by rw [hiid, hid, hlater.snapshot.invoiceId]
      rw [hlater.snapshot.amount, hlater.snapshot.currency, hlater'.total, hlater'.currency]
      exact hb p hp i hi hpi
    · -- an attempt that was there before has an older invoice
      obtain ⟨i, hi, hiid, -⟩ := hlinked.invoice p hp
      have hlt : i.id < b.invoices.next := Table.key_lt hi
      have hnext : b.invoices.next = p'.invoiceId := hid
      rw [hiid, ← hlater.snapshot.invoiceId, ← hnext] at hlt
      exact absurd hlt (lt_irrefl _)
  · obtain rfl := Table.eq_of_key_eq hi' hc.invoice hid
    exact ⟨rfl, rfl⟩

/-- An operation keeps every invoice priced. -/
theorem Operation.priced {env : Env} {db db' : Db} {op : Operation} (h : op.apply env db = .ok db')
    (hlinked : Linked db.books) (hdb : Priced db) : Priced db' := by
  obtain ⟨hlines, htotal⟩ := (Operation.pricing h).lines hdb
  exact ⟨hlines, htotal, (op.apply_eq_ok h).priced hlinked hdb.attempt⟩

/-- In every reachable state every invoice is priced. -/
theorem Reachable.priced {env : Env} {db : Db} (h : Reachable env db) : Priced db := by
  refine h.invariant (I := Priced) ?_ ?_
  · exact ⟨fun l hl => by simp [Db.empty] at hl, fun i hi => by simp [Db.empty] at hi,
      fun p hp => by simp [Db.empty] at hp⟩
  · intro a b hreach ha hstep
    obtain ⟨op, hop⟩ := hstep
    exact Operation.priced hop (Reachable.sound hreach).linked ha

/-! ## Where the prices come from -/

/-- The transaction generates the invoice, for the price and in the currency of the plan of its
subscription, which it leaves as it is. -/
structure GeneratedFor (db db' : Db) (i : Invoice) : Prop where
  new : ∀ j ∈ db.invoices, j.id ≠ i.id
  plan : ∃ s ∈ db'.subscriptions, s.id = i.subscriptionId ∧ ∃ plan ∈ db.plans, plan ∈ db'.plans ∧
    plan.id = s.planId ∧ plan.price = i.total ∧ plan.currency = i.currency

/-- An invoice after an operation was there before or is generated for its subscription. -/
theorem Operation.generatedFor {env : Env} {db db' : Db} {op : Operation}
    (h : op.apply env db = .ok db') {i' : Invoice} (hi' : i' ∈ db'.invoices) :
    (∃ i ∈ db.invoices, i.id = i'.id ∧ i.Later i') ∨ GeneratedFor db db' i' := by
  rcases (op.apply_eq_ok h).invoice_origin hi' with hold | ⟨s₀, hstart, plan₀, now₀, hrow, -, -⟩
  · exact Or.inl hold
  have hfresh : ∀ j ∈ db.invoices, j.id ≠ i'.id := by
    intro j hj hid
    have hlt : j.id < db.invoices.next := Table.key_lt hj
    rw [hid, hrow] at hlt
    exact absurd hlt (lt_irrefl _)
  refine Or.inr ⟨hfresh, ?_⟩
  cases Operation.pricing h with
  | kept h =>
    obtain ⟨i, hi, hid, -⟩ := h.origin i' hi'
    exact absurd hid (hfresh i hi)
  | @billed db₁ hkept hplans s hs hbilled =>
    have hnotOld : i' ∉ db₁.invoices := by
      intro hold
      obtain ⟨i, hi, hid, -⟩ := hkept.origin i' hold
      exact hfresh i hi hid
    cases hbilled with
    | already i hi hcovers hsame => exact absurd (hsame ▸ hi') hnotOld
    | issued plan hplan hplanId now hnone hissued =>
      rw [hissued] at hi'
      rcases Table.mem_insert.mp hi' with hi' | rfl
      · exact absurd hi' hnotOld
      · refine ⟨s, by rw [hissued]; exact hs, rfl, plan, hplans ▸ hplan, ?_, hplanId, rfl, rfl⟩
        rw [hissued]
        exact hplan

end Chargeflow
