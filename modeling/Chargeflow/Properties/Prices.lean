import Chargeflow.System.Prices
import Chargeflow.Properties.Retries

/-!
# The amount asked is the price billed

A request to the provider is read off an attempt long before it reaches the gateway, and plans,
customers and invoices may change in between.  Whatever the order of the transactions, and whatever
the provider reports, the request carries the total and the currency of the invoice, which are the
price and the currency that the plan had when the invoice was generated.  Generating the invoice of
a period again changes nothing.
-/

namespace Chargeflow

open Foundation PaymentService MockPaymentGateway

variable {env : Env}

/-- One step of the billing system with charges under way.  A transaction may be any but a call of
the gateway, which only a charge makes; the results that are settled are arbitrary. -/
inductive OpenStep (env : Env) : Sys → Sys → Prop
  | transact {op : Operation} {db db' : Db} (charges : List ChargePhase)
      (hgateway : ∀ request seen success chargeId, op ≠ .gateway request seen success chargeId)
      (hop : op.apply env db = .ok db') : OpenStep env ⟨db, charges⟩ ⟨db', charges⟩
  /-- `_charge` is called. -/
  | start (db : Db) (charges : List ChargePhase) (paymentId : ℕ) :
      OpenStep env ⟨db, charges⟩ ⟨db, charges ++ [.started paymentId]⟩
  /-- The caller of a charge under way goes on. -/
  | advance {db db' : Db} {charges : List ChargePhase} {n : ℕ} {c : ChargePhase}
      {c' : Option ChargePhase} {success : Bool} {chargeId : String} {now : DateTime}
      (hc : charges[n]? = some c) (hnext : c.next env db success chargeId now = .ok (db', c')) :
      OpenStep env ⟨db, charges⟩ ⟨db', charges.eraseIdx n ++ c'.toList⟩
  /-- The caller of a charge under way stops. -/
  | crash (db : Db) (charges : List ChargePhase) (n : ℕ) :
      OpenStep env ⟨db, charges⟩ ⟨db, charges.eraseIdx n⟩

/-- Seen from the database, a step is a transaction or nothing. -/
theorem OpenStep.db {sys sys' : Sys} (h : OpenStep env sys sys') :
    sys'.db = sys.db ∨ Step env sys.db sys'.db := by
  cases h with
  | transact charges hgateway hop => exact Or.inr ⟨_, hop⟩
  | start => exact Or.inl rfl
  | advance hc hnext => exact ChargePhase.next_step hnext
  | crash => exact Or.inl rfl

/-- The database of a run is one that the transactions reach. -/
theorem Reaches.open_db {sys : Sys} (h : Reaches (OpenStep env) Sys.empty sys) :
    Reachable env sys.db :=
  h.simulation (f := Sys.db) fun _ _ => OpenStep.db

/-- Transactions other than calls of the gateway, one after the other, are a run. -/
theorem trace_of_operations (env : Env) (db : Db) (charges : List ChargePhase)
    (ops : List Operation) (hgateway : ∀ op ∈ ops, ∀ request seen success chargeId,
      op ≠ .gateway request seen success chargeId) :
    ∃ l, Trace (OpenStep env) ⟨db, charges⟩ l ⟨db.after env ops, charges⟩ := by
  induction ops generalizing db with
  | nil => exact ⟨[], .nil _⟩
  | cons op ops ih =>
    simp only [List.mem_cons, forall_eq_or_imp] at hgateway
    unfold Db.after
    cases hop : op.apply env db with
    | error e => exact ih db hgateway.2
    | ok db' =>
      obtain ⟨l, hrest⟩ := ih db' hgateway.2
      exact ⟨_, .cons (.transact charges hgateway.1 hop) hrest⟩

/-! ## Requests -/

/-- The attempt that a charge under way is for. -/
def ChargePhase.paymentId : ChargePhase → ℕ
  | .started paymentId => paymentId
  | .requested paymentId _ => paymentId
  | .lookedUp paymentId _ _ => paymentId
  | .answered paymentId _ => paymentId

/-- The request of a charge under way is that of its attempt, which is stored. -/
def ChargePhase.Genuine (db : Db) (c : ChargePhase) : Prop :=
  ∀ request ∈ c.request, ∃ p ∈ db.attempts, p.id = c.paymentId ∧ request = chargeRequest p

/-- The request of an attempt is read off its snapshot. -/
theorem PaymentAttempt.SameSnapshot.chargeRequest {p p' : PaymentAttempt} (h : p.SameSnapshot p') :
    chargeRequest p' = chargeRequest p := by
  simp only [PaymentService.chargeRequest, h.amount, h.currency, h.providerCustomerId,
    h.providerPaymentMethodId, h.providerIdempotencyKey]

/-- A transaction keeps the attempt of a request, with its snapshot. -/
theorem ChargePhase.Genuine.step {db db' : Db} {c : ChargePhase} (h : c.Genuine db)
    (hstep : db' = db ∨ Step env db db') : c.Genuine db' := by
  intro request hrequest
  obtain ⟨p, hp, hpid, rfl⟩ := h request hrequest
  rcases hstep with rfl | hstep
  · exact ⟨p, hp, hpid, rfl⟩
  · obtain ⟨_, hbooks⟩ := hstep.books
    obtain ⟨p', hp', hid, hlater⟩ := hbooks.attempts.kept p hp
    exact ⟨p', hp', Eq.trans hid hpid, hlater.snapshot.chargeRequest.symm⟩

/-- A caller makes the request of its own attempt, and goes on with it unchanged. -/
theorem ChargePhase.Genuine.next {db db' : Db} {c : ChargePhase} (h : c.Genuine db)
    {success : Bool} {chargeId : String} {now : DateTime} {c' : Option ChargePhase}
    (hnext : c.next env db success chargeId now = .ok (db', c')) : ∀ c₁ ∈ c', c₁.Genuine db' := by
  cases c with
  | started paymentId =>
    simp only [ChargePhase.next, bind_eq_ok_iff, fetch_eq_ok_iff] at hnext
    obtain ⟨p, ⟨hp, hpid⟩, hnext⟩ := hnext
    split_ifs at hnext
    · obtain ⟨-, rfl⟩ := Prod.mk.inj (pure_eq_ok_iff.mp hnext)
      simp
    · obtain ⟨⟨⟩, -, hnext⟩ := bind_eq_ok_iff.mp hnext
      obtain ⟨rfl, rfl⟩ := Prod.mk.inj (pure_eq_ok_iff.mp hnext)
      rintro _ ⟨⟩ request ⟨⟩
      exact ⟨p, hp, hpid, rfl⟩
  | requested paymentId request =>
    obtain ⟨rfl, rfl⟩ := Prod.mk.inj (Except.ok.inj hnext)
    rintro _ ⟨⟩
    exact h
  | lookedUp paymentId request seen =>
    obtain ⟨⟨db₁, result⟩, -, hnext⟩ := bind_eq_ok_iff.mp hnext
    obtain ⟨-, rfl⟩ := Prod.mk.inj (pure_eq_ok_iff.mp hnext)
    rintro _ ⟨⟩ request ⟨⟩
  | answered paymentId result =>
    obtain ⟨db₁, -, hnext⟩ := bind_eq_ok_iff.mp hnext
    obtain ⟨-, rfl⟩ := Prod.mk.inj (pure_eq_ok_iff.mp hnext)
    simp

/-- A step leaves every charge under way with the request of its attempt. -/
theorem OpenStep.genuine {sys sys' : Sys} (h : OpenStep env sys sys')
    (hsys : ∀ c ∈ sys.charges, c.Genuine sys.db) : ∀ c ∈ sys'.charges, c.Genuine sys'.db := by
  have hdb := h.db
  cases h with
  | transact => exact fun c hc => (hsys c hc).step hdb
  | start =>
    intro c hc
    rcases List.mem_append.mp hc with hc | hc
    · exact hsys c hc
    · obtain rfl := List.mem_singleton.mp hc
      rintro request ⟨⟩
  | advance hc hnext =>
    intro c₁ hc₁
    rcases List.mem_append.mp hc₁ with hc₁ | hc₁
    · exact (hsys c₁ (List.mem_of_mem_eraseIdx hc₁)).step hdb
    · exact (hsys _ (List.mem_of_getElem? hc)).next hnext c₁ (Option.mem_toList.mp hc₁)
  | crash => exact fun c hc => hsys c (List.mem_of_mem_eraseIdx hc)

/-! ## Where an invoice was generated -/

/-- What an invoice was generated for stays in its later versions. -/
theorem GeneratedFor.later {db db' : Db} {i i' : Invoice} (h : GeneratedFor db db' i)
    (hlater : i.Later i') : GeneratedFor db db' i' where
  new j hj := hlater.id ▸ h.new j hj
  plan := by
    rw [hlater.subscriptionId, hlater.total, hlater.currency]
    exact h.plan

/-- An invoice was there when the run began, or a step of the run generated it. -/
theorem invoice_generated {sys sys' : Sys} {l : List (Sys × Sys)}
    (h : Trace (OpenStep env) sys l sys') {i' : Invoice} (hi' : i' ∈ sys'.db.invoices) :
    (∃ i ∈ sys.db.invoices, i.Later i') ∨ ∃ s ∈ l, GeneratedFor s.1.db s.2.db i' := by
  induction h with
  | nil => exact Or.inl ⟨i', hi', .refl i'⟩
  | @cons a b c l hstep htrace ih =>
    rcases ih hi' with ⟨i, hi, hlater⟩ | ⟨s, hs, hgenerated⟩
    · rcases hstep.db with hsame | ⟨op, hop⟩
      · exact Or.inl ⟨i, hsame ▸ hi, hlater⟩
      · rcases Operation.generatedFor hop hi with ⟨i₀, hi₀, -, hlater₀⟩ | hgenerated
        · exact Or.inl ⟨i₀, hi₀, hlater₀.trans hlater⟩
        · exact Or.inr ⟨(a, b), List.mem_cons_self, hgenerated.later hlater⟩
    · exact Or.inr ⟨s, List.mem_cons_of_mem _ hs, hgenerated⟩

/-! ## Generating an invoice again -/

/-- A period that has its invoice does not get another one. -/
theorem generateForSubscription_of_covered {db : Db} {s : Subscription} (hs : s ∈ db.subscriptions)
    {plan : Plan} (hplan : plan ∈ db.plans) (hplanId : plan.id = s.planId) {i : Invoice}
    (hi : i ∈ db.invoices) (hcovers : i.Covers s) (issuedAt : DateTime) :
    ∃ result, InvoiceService.generateForSubscription db s.id issuedAt = .ok (db, result) := by
  have hsubscription : fetch db.subscriptions "Subscription" s.id = .ok s :=
    fetch_eq_ok_iff.mpr ⟨hs, rfl⟩
  have hplanRow : fetch db.plans "Plan" s.planId = .ok plan := fetch_eq_ok_iff.mpr ⟨hplan, hplanId⟩
  simp only [InvoiceService.generateForSubscription, hsubscription, hplanRow, ok_bind]
  split_ifs with hactive
  · exact ⟨none, rfl⟩
  · split
    · rename_i j rest hfilter
      exact ⟨some j, rfl⟩
    · rename_i hfilter
      have hmem := covers_iff.mpr ⟨hi, hcovers⟩
      rw [hfilter] at hmem
      cases hmem

/-! ## What is asked of the provider -/

/-- The amount and the currency that a charge asks of the provider are those of the invoice of its
attempt, of the lines of the invoice, and of the plan as the invoice was generated; generating it
again changes nothing. -/
theorem charged_as_billed {sys : Sys} {l : List (Sys × Sys)}
    (h : Trace (OpenStep env) Sys.empty l sys) :
    (∀ c ∈ sys.charges, ∀ request ∈ c.request, ∃ p ∈ sys.db.attempts, ∃ i ∈ sys.db.invoices,
      p.id = c.paymentId ∧ request = chargeRequest p ∧ i.id = p.invoiceId ∧
      request.amount = .ofCents i.total ∧ request.currency = i.currency) ∧
    (∀ i ∈ sys.db.invoices, sys.db.lineTotal i.id = i.total ∧
      ∃ s ∈ l, GeneratedFor s.1.db s.2.db i) ∧
    ∀ s ∈ sys.db.subscriptions, ∀ i ∈ sys.db.invoices, i.Covers s → ∀ issuedAt, ∃ result,
      InvoiceService.generateForSubscription sys.db s.id issuedAt = .ok (sys.db, result) := by
  have hreach : Reachable env sys.db := Reaches.open_db h.reaches
  have hpriced := Reachable.priced hreach
  refine ⟨?_, ?_, ?_⟩
  · intro c hc request hrequest
    have hgenuine : ∀ c ∈ sys.charges, c.Genuine sys.db :=
      h.reaches.invariant (I := fun sys => ∀ c ∈ sys.charges, c.Genuine sys.db)
        (by simp [Sys.empty]) fun _ _ _ ha hstep => hstep.genuine ha
    obtain ⟨p, hp, hpid, rfl⟩ := hgenuine c hc request hrequest
    obtain ⟨i, hi, hid, -⟩ := (Reachable.sound hreach).linked.invoice p hp
    obtain ⟨hamount, hcurrency⟩ := hpriced.attempt p hp i hi hid
    exact ⟨p, hp, i, hi, hpid, rfl, hid, congrArg Decimal.ofCents hamount, hcurrency⟩
  · intro i hi
    refine ⟨hpriced.total i hi, ?_⟩
    rcases invoice_generated h hi with ⟨i₀, hi₀, -⟩ | hgenerated
    · simp [Sys.empty, Db.empty] at hi₀
    · exact hgenerated
  · intro s hs i hi hcovers issuedAt
    obtain ⟨plan, hplan, hplanId, -⟩ := (Reachable.tenancy hreach).plan s hs
    exact generateForSubscription_of_covered hs hplan hplanId hi hcovers issuedAt

/-- A customer subscribes, the plan gets another price, and the charge of the first invoice is
prepared. -/
def repricedOperations : List Operation :=
  subscribed ++ [.savePlan { samplePlan with id := 1, price := 2999, name := "Max" },
    .prepare 1 none true "key_1" (sampleTime 0 2)]

/-- The database after these transactions. -/
def repricedRun : Db := Db.empty.after sampleEnv repricedOperations

/-- After a run that has changed the price of the plan, the charge of the first attempt is about to
ask for the old price, for which a step of the run generated the invoice. -/
theorem charged_as_billed_repriced : ∃ (sys : Sys) (l : List (Sys × Sys)),
    Trace (OpenStep sampleEnv) Sys.empty l sys ∧ (∃ plan ∈ sys.db.plans, plan.price = 2999) ∧
      ∃ request, .requested 1 request ∈ sys.charges ∧
        ∃ p ∈ sys.db.attempts, p.id = 1 ∧ request = chargeRequest p ∧
          ∃ i ∈ sys.db.invoices, i.id = p.invoiceId ∧ i.total = 1999 ∧
            request.amount = .ofCents 1999 ∧ request.currency = "USD" ∧
              ∃ s ∈ l, GeneratedFor s.1.db s.2.db i := by
  obtain ⟨p, hp, hpid, hopen, hprovider⟩ : ∃ p ∈ repricedRun.attempts, p.id = 1 ∧
      chargeable p = true ∧ getPaymentGateway p.provider = .ok () := by decide +kernel
  have hfetch : fetch repricedRun.attempts "PaymentAttempt" 1 = .ok p :=
    fetch_eq_ok_iff.mpr ⟨hp, hpid⟩
  have hnext : (ChargePhase.started 1).next sampleEnv repricedRun true "ch_1" (sampleTime 0 3) =
      .ok (repricedRun, some (.requested 1 (chargeRequest p))) := by
    simp only [ChargePhase.next, hfetch, ok_bind, hopen, Bool.not_true, hprovider]
    rfl
  obtain ⟨l, htransactions⟩ := trace_of_operations sampleEnv Db.empty [] repricedOperations
    (by simp [repricedOperations, subscribed])
  have hstarted : ([] ++ [ChargePhase.started 1])[0]? = some (.started 1) := rfl
  have hrun := htransactions.append (.cons (.start repricedRun [] 1)
    (.cons (.advance hstarted hnext) (.nil _)))
  obtain ⟨hrequests, hinvoices, -⟩ := charged_as_billed hrun
  obtain ⟨q, hq, i, hi, hqid, hrequest, hid, hamount, hcurrency⟩ :=
    hrequests (.requested 1 (chargeRequest p)) List.mem_cons_self (chargeRequest p) rfl
  obtain ⟨htotal, hdollars⟩ : i.total = 1999 ∧ i.currency = "USD" := by
    have hall : ∀ i ∈ repricedRun.invoices, i.total = 1999 ∧ i.currency = "USD" := by
      decide +kernel
    exact hall i hi
  have hplan : ∃ plan ∈ repricedRun.plans, plan.price = 2999 := by decide +kernel
  exact ⟨_, _, hrun, hplan, chargeRequest p, List.mem_cons_self, q, hq, hqid, hrequest, i, hi, hid,
    htotal, htotal ▸ hamount, hdollars ▸ hcurrency, (hinvoices i hi).2⟩

end Chargeflow
