import Chargeflow.Effects.Receipts
import Chargeflow.Books.Standing
import Chargeflow.Books.Coupling
import Chargeflow.Books.Keys

/-!
# The billing system

`Operation` lists the transactions of the billing services with their arguments, the clock readings
they take and the values they draw.  The provider is unconstrained here: the gateway may be called
at any time, and any result may be settled for any attempt, by a caller or by a webhook.  A run is
any sequence of transactions that commit; one that aborts leaves the database as it was, and is no
step.

Every transaction is one step of the books (`Operation.apply_eq_ok`), so the rules of the books hold
in every reachable database, and the history of a row from one reachable database to a later one is
a later version of it.
-/

namespace Chargeflow

open Foundation

/-- The transactions of the billing services. -/
inductive Operation where
  | savePlan (plan : Plan)
  | saveCustomer (customer : Customer)
  | create (customerId planId : ℕ) (now issuedAt : DateTime)
  | activate (subscriptionId : ℕ) (now issuedAt : DateTime)
  | activateIfStillExpired (subscriptionId : ℕ) (checkedAt now issuedAt : DateTime)
  | renew (subscriptionId : ℕ) (checkedAt now issuedAt : DateTime)
  | renewIfStillDue (subscriptionId : ℕ) (listedAt checkedAt now issuedAt : DateTime)
  | generate (subscriptionId : ℕ) (issuedAt : DateTime)
  | cancel (subscriptionId : ℕ) (reason : CancellationReason) (now : DateTime)
  | prepare (invoiceId : ℕ) (key : Option String) (issuedOnly : Bool) (providerKey : String)
      (now : DateTime)
  | gateway (request : ChargeRequest) (seen : Option MockChargeReceipt) (success : Bool)
      (chargeId : String)
  | settle (paymentId : ℕ) (success : Bool) (response : List (String × Json)) (chargeId : String)
      (now : DateTime)
  | webhook (eventType payload : Json) (provider : String) (providerEventId : Json)
      (now : DateTime)
  | dun (invoiceId : ℕ) (now : DateTime)
  | reconcile (now : DateTime)

/-- The clock readings of a transaction, in the order it takes them. -/
def Operation.readings : Operation → List DateTime
  | .savePlan _ => []
  | .saveCustomer _ => []
  | .create _ _ now issuedAt => [now, issuedAt]
  | .activate _ now issuedAt => [now, issuedAt]
  | .activateIfStillExpired _ checkedAt now issuedAt => [checkedAt, now, issuedAt]
  | .renew _ checkedAt now issuedAt => [checkedAt, now, issuedAt]
  | .renewIfStillDue _ listedAt checkedAt now issuedAt => [listedAt, checkedAt, now, issuedAt]
  | .generate _ issuedAt => [issuedAt]
  | .cancel _ _ now => [now]
  | .prepare _ _ _ _ now => [now]
  | .gateway _ _ _ _ => []
  | .settle _ _ _ _ now => [now]
  | .webhook _ _ _ _ now => [now]
  | .dun _ now => [now]
  | .reconcile now => [now]

/-- The database after a transaction, unless it aborts. -/
def Operation.apply (env : Env) (db : Db) : Operation → Except Err Db
  | .savePlan plan => plan.save db
  | .saveCustomer customer => customer.save db
  | .create customerId planId now issuedAt =>
    (SubscriptionService.create db customerId planId now issuedAt).map Prod.fst
  | .activate subscriptionId now issuedAt =>
    SubscriptionService.activate db subscriptionId now issuedAt
  | .activateIfStillExpired subscriptionId checkedAt now issuedAt =>
    SubscriptionService.activateIfStillExpired db subscriptionId checkedAt now issuedAt
  | .renew subscriptionId checkedAt now issuedAt =>
    SubscriptionService.renew db subscriptionId checkedAt now issuedAt
  | .renewIfStillDue subscriptionId listedAt checkedAt now issuedAt =>
    SubscriptionService.renewIfStillDue db subscriptionId listedAt checkedAt now issuedAt
  | .generate subscriptionId issuedAt =>
    (InvoiceService.generateForSubscription db subscriptionId issuedAt).map Prod.fst
  | .cancel subscriptionId reason now => SubscriptionService.cancel db subscriptionId reason now
  | .prepare invoiceId key issuedOnly providerKey now =>
    (PaymentService.prepare db invoiceId key issuedOnly providerKey now).map Prod.fst
  | .gateway request seen success chargeId =>
    (MockPaymentGateway.finishCharge env db request seen success chargeId).map Prod.fst
  | .settle paymentId success response chargeId now =>
    PaymentService.settle env db paymentId success response chargeId now
  | .webhook eventType payload provider providerEventId now =>
    PaymentService.handleWebhook env db eventType payload provider providerEventId now
  | .dun invoiceId now => dunInvoice db invoiceId now
  | .reconcile now => .ok (handOffStuck db now)

/-- One transaction that commits. -/
def Step (env : Env) (db db' : Db) : Prop := ∃ op : Operation, op.apply env db = .ok db'

/-- A database that any sequence of transactions leads to, from the one without rows. -/
def Reachable (env : Env) (db : Db) : Prop := Reaches (Step env) Db.empty db

/-- The database after a list of transactions.  One that aborts leaves the database as it was. -/
def Db.after (env : Env) (db : Db) : List Operation → Db
  | [] => db
  | op :: ops =>
    match op.apply env db with
    | .ok db' => db'.after env ops
    | .error _ => db.after env ops

/-- The transactions of a list that commit, each with the database before and after it. -/
def Db.steps (env : Env) (db : Db) : List Operation → List (Db × Db)
  | [] => []
  | op :: ops =>
    match op.apply env db with
    | .ok db' => (db, db') :: db'.steps env ops
    | .error _ => db.steps env ops

/-- The transactions of a list are a trace of any kind of steps that all of them are. -/
theorem trace_after {env : Env} {step : Db → Db → Prop} {db : Db} (ops : List Operation)
    (h : ∀ s ∈ db.steps env ops, Step env s.1 s.2 → step s.1 s.2) :
    Trace step db (db.steps env ops) (db.after env ops) := by
  induction ops generalizing db with
  | nil => exact .nil db
  | cons op ops ih =>
    unfold Db.after
    unfold Db.steps at h ⊢
    cases hop : op.apply env db with
    | ok db' =>
      simp only [hop, List.mem_cons, forall_eq_or_imp] at h
      exact .cons (h.1 ⟨op, hop⟩) (ih h.2)
    | error e =>
      simp only [hop] at h
      exact ih h

/-- A list of transactions of one kind is a trace of steps of that kind. -/
theorem trace_after_of {P : Operation → Prop} (env : Env) (db : Db) {ops : List Operation}
    (h : ∀ op ∈ ops, P op) :
    Trace (fun db db' => ∃ op, P op ∧ Operation.apply env db op = .ok db') db (db.steps env ops)
      (db.after env ops) := by
  induction ops generalizing db with
  | nil => exact .nil db
  | cons op ops ih =>
    simp only [List.mem_cons, forall_eq_or_imp] at h
    unfold Db.after Db.steps
    cases hop : op.apply env db with
    | ok db' => exact .cons ⟨op, h.1, hop⟩ (ih db' h.2)
    | error e => exact ih db h.2

/-- A run of operations consists of steps. -/
theorem reaches_after (env : Env) (db : Db) (ops : List Operation) :
    Reaches (Step env) db (db.after env ops) :=
  (trace_after ops fun _ _ hstep => hstep).reaches

/-- A transaction that does not abort leaves the database after it. -/
theorem apply_eq_after {env : Env} {db : Db} (op : Operation)
    (h : (op.apply env db).toOption.isSome = true) :
    op.apply env db = .ok (db.after env [op]) := by
  unfold Db.after Db.after
  cases hop : op.apply env db with
  | ok db' => rfl
  | error e => simp [hop, Except.toOption] at h

/-- Whether a transaction brings a result of the provider. -/
def Operation.bringsResult : Operation → Bool
  | .gateway .. | .settle .. | .webhook .. => true
  | _ => false

/-- A transaction that brings no result of the provider does one of the things of `Lifecycle`. -/
theorem Operation.follows {env : Env} {db db' : Db} {op : Operation} (h : op.apply env db = .ok db')
    (hop : op.bringsResult = false) : Follows op.readings db db' := by
  cases op with
  | savePlan plan =>
    obtain ⟨plans, rfl⟩ := Plan.save_eq_ok h
    exact .idle rfl rfl
  | saveCustomer customer =>
    obtain ⟨customers, rfl⟩ := Customer.save_eq_ok h
    exact .idle rfl rfl
  | create customerId planId now issuedAt =>
    obtain ⟨⟨db₁, s⟩, hrun, rfl⟩ := map_eq_ok_iff.mp h
    exact SubscriptionService.create_eq_ok hrun
  | activate subscriptionId now issuedAt => exact SubscriptionService.activate_eq_ok h
  | activateIfStillExpired subscriptionId checkedAt now issuedAt =>
    exact SubscriptionService.activateIfStillExpired_eq_ok h
  | renew subscriptionId checkedAt now issuedAt => exact SubscriptionService.renew_eq_ok h
  | renewIfStillDue subscriptionId listedAt checkedAt now issuedAt =>
    exact SubscriptionService.renewIfStillDue_eq_ok h
  | generate subscriptionId issuedAt =>
    obtain ⟨⟨db₁, i⟩, hrun, rfl⟩ := map_eq_ok_iff.mp h
    exact SubscriptionService.generateForSubscription_follows hrun
  | cancel subscriptionId reason now => exact SubscriptionService.cancel_follows h
  | prepare invoiceId key issuedOnly providerKey now =>
    obtain ⟨⟨db₁, payment, shouldCharge⟩, hrun, rfl⟩ := map_eq_ok_iff.mp h
    exact PaymentService.prepare_follows hrun
  | dun invoiceId now => exact dunInvoice_follows h
  | reconcile now =>
    obtain rfl := Except.ok.inj h
    exact .idle rfl rfl
  | _ => cases hop

/-- A transaction is one step of the books. -/
theorem Operation.apply_eq_ok {env : Env} {db db' : Db} {op : Operation}
    (h : op.apply env db = .ok db') : BooksStep env op.readings db.books db'.books := by
  by_cases hop : op.bringsResult = false
  · exact .lifecycle (op.follows h hop).books
  cases op with
  | gateway request seen success chargeId =>
    obtain ⟨⟨db₁, result⟩, hrun, rfl⟩ := map_eq_ok_iff.mp h
    obtain ⟨fingerprint, r, -, hanswered, -⟩ := MockPaymentGateway.finishCharge_eq_ok hrun
    cases hanswered <;> exact .lifecycle .idle
  | settle paymentId success response chargeId now =>
    obtain ⟨p, b', -, hsettles, rfl⟩ := PaymentService.settle_eq_ok h
    exact .settled hsettles
  | webhook eventType payload provider providerEventId now =>
    obtain ⟨event, -, hreceipts, ⟨hbooks, -⟩ | ⟨p, -, hsettles⟩⟩ :=
      PaymentService.handleWebhook_eq_ok h
    · exact .lifecycle (Follows.idle hbooks hreceipts).books
    · exact .settled hsettles
  | _ => exact absurd rfl hop

/-- The transaction settles a result of the provider, with the charge id `c`, for the attempt `p`:
by itself, or as a webhook that names the attempt and is not recorded yet. -/
inductive Operation.Brings (db : Db) (p : PaymentAttempt) (success : Bool) (c : String) :
    Operation → Prop
  | settle (response : List (String × Json)) (now : DateTime) :
      Brings db p success c (.settle p.id success response c now)
  | webhook (eventType : Json) {payload : List (String × Json)} {provider eventId : String}
      (hnew : ∀ e ∈ db.webhookEvents, e.provider = provider → e.providerEventId ≠ eventId)
      (hnamed : namedAttempt db payload = some p)
      (hsuccess : PaymentService.payloadSuccess payload = success)
      (hcharge : PaymentService.payloadChargeId payload = c) (now : DateTime) :
      Brings db p success c (.webhook eventType (.obj payload) provider (.str eventId) now)

/-- An operation that brings a result settles the attempt of the books. -/
theorem Operation.Brings.settles {env : Env} {db db' : Db} {p : PaymentAttempt} {success : Bool}
    {c : String} {op : Operation} (h : op.Brings db p success c) (hp : p ∈ db.attempts)
    (hop : op.apply env db = .ok db') : ∃ response now, Settles env db.books p success response
      (PaymentService.incomingChargeId response c) now db'.books := by
  cases h with
  | settle response now =>
    obtain ⟨q, b', hqid, hsettles, rfl⟩ := PaymentService.settle_eq_ok hop
    obtain rfl := Table.eq_of_key_eq hsettles.1 hp hqid
    exact ⟨response, now, hsettles⟩
  | webhook eventType hnew hnamed hsuccess hcharge now =>
    obtain ⟨event, hevent, -, hcase⟩ := PaymentService.handleWebhook_eq_ok hop
    obtain ⟨hpayload, hid⟩ := PaymentService.validateWebhook_eq_ok hevent
    injection hpayload with hpayload
    injection hid with hid
    subst hpayload hid
    rcases hcase with ⟨-, ⟨e, he, hprovider, hrecorded⟩ | hnone⟩ | ⟨q, hq, hsettles⟩
    · exact absurd hrecorded (hnew e he hprovider)
    · simp [hnamed] at hnone
    · rw [hnamed] at hq
      obtain rfl := Option.some.inj hq
      rw [hsuccess, hcharge] at hsettles
      exact ⟨_, now, hsettles⟩

/-- A step of the system is a step of the books. -/
theorem Step.books {env : Env} {db db' : Db} (h : Step env db db') :
    ∃ readings, BooksStep env readings db.books db'.books := by
  obtain ⟨op, h⟩ := h
  exact ⟨op.readings, op.apply_eq_ok h⟩

/-! ## Every reachable database -/

/-- The rules on the books: references, subscriptions and their invoices, invoices and their
attempts, the keys of the attempts. -/
structure Sound (b : Books) : Prop where
  linked : Linked b
  inStanding : InStanding b.subscriptions b.invoices
  coupled : Coupled b.invoices b.attempts
  keysUnique : KeysUnique b.attempts

/-- The empty books are sound. -/
theorem sound_empty : Sound Db.empty.books where
  linked := ⟨fun i hi => by simp [Db.books, Db.empty] at hi,
    fun p hp => by simp [Db.books, Db.empty] at hp⟩
  inStanding := ⟨fun s hs => by simp [Db.books, Db.empty] at hs,
    fun s hs => by simp [Db.books, Db.empty] at hs⟩
  coupled := ⟨fun i hi => by simp [Db.books, Db.empty] at hi,
    fun p hp => by simp [Db.books, Db.empty] at hp,
    fun p hp => by simp [Db.books, Db.empty] at hp,
    fun i hi => by simp [Db.books, Db.empty] at hi⟩
  keysUnique := ⟨fun p hp => by simp [Db.books, Db.empty] at hp,
    fun p hp => by simp [Db.books, Db.empty] at hp,
    fun p hp => by simp [Db.books, Db.empty] at hp⟩

/-- A step keeps the books sound. -/
theorem BooksStep.sound {env : Env} {readings : List DateTime} {b b' : Books}
    (h : BooksStep env readings b b') (hb : Sound b) : Sound b' :=
  ⟨h.linked hb.linked, h.inStanding hb.inStanding hb.linked, h.coupled hb.coupled hb.linked,
    h.keysUnique hb.keysUnique⟩

/-- A run keeps the books sound. -/
theorem Reaches.sound {env : Env} {db db' : Db} (h : Reaches (Step env) db db')
    (hdb : Sound db.books) : Sound db'.books :=
  h.invariant (I := fun db => Sound db.books) hdb fun _ _ _ hsound hstep =>
    hstep.books.elim fun _ hbooks => hbooks.sound hsound

/-- In every reachable state the books are sound. -/
theorem Reachable.sound {env : Env} {db : Db} (h : Reachable env db) : Sound db.books :=
  Reaches.sound h sound_empty

/-! ## Later versions -/

/-- Along a run the subscriptions evolve to later versions. -/
theorem Reaches.subscriptions {env : Env} {db db' : Db} (h : Reaches (Step env) db db') :
    db.subscriptions.Evolves Subscription.Later db'.subscriptions := by
  refine h.relation (R := fun db db' =>
    db.subscriptions.Evolves Subscription.Later db'.subscriptions) ?_ ?_ ?_
  · exact fun db => .refl Subscription.Later.refl _
  · exact fun _ _ _ h h' => h.trans (fun _ _ _ => Subscription.Later.trans) h'
  · intro a b hstep
    obtain ⟨_, hbooks⟩ := hstep.books
    exact hbooks.subscriptions

/-- Along a run the invoices evolve to later versions. -/
theorem Reaches.invoices {env : Env} {db db' : Db} (h : Reaches (Step env) db db') :
    db.invoices.Evolves Invoice.Later db'.invoices := by
  refine h.relation (R := fun db db' => db.invoices.Evolves Invoice.Later db'.invoices) ?_ ?_ ?_
  · exact fun db => .refl Invoice.Later.refl _
  · exact fun _ _ _ h h' => h.trans (fun _ _ _ => Invoice.Later.trans) h'
  · intro a b hstep
    obtain ⟨_, hbooks⟩ := hstep.books
    exact hbooks.invoices

/-- Along a run the attempts evolve to later versions. -/
theorem Reaches.attempts {env : Env} {db db' : Db} (h : Reaches (Step env) db db') :
    db.attempts.Evolves PaymentAttempt.Later db'.attempts := by
  refine h.relation (R := fun db db' =>
    db.attempts.Evolves PaymentAttempt.Later db'.attempts) ?_ ?_ ?_
  · exact fun db => .refl PaymentAttempt.Later.refl _
  · exact fun _ _ _ h h' => h.trans (fun _ _ _ => PaymentAttempt.Later.trans) h'
  · intro a b hstep
    obtain ⟨_, hbooks⟩ := hstep.books
    exact hbooks.attempts

/-! ## A small run -/

/-- The literals of `Fin 12` need that twelve is not zero. -/
instance twelve_ne_zero : NeZero 12 := ⟨by decide⟩

/-- The literals of `Fin 1000000000` need that a billion is not zero. -/
instance billion_ne_zero : NeZero 1000000000 := ⟨by decide⟩

/-- Midnight of the first of a month of 2024, and some microseconds. -/
def sampleTime (month : Fin 12) (micros : Fin 1000000000) : DateTime :=
  ⟨⟨2024, month.val + 1, 1, by decide +revert⟩, micros.val,
    micros.isLt.trans (by decide)⟩

/-- The digest is the one of the only request that the sample runs send to the gateway. -/
def sampleEnv : Env where
  sha256 _ := "eb2db3d54fb340d61d8a2b2af2bd47cd972c44e220b6207c156175a7340e6e32"
  str _ := ""

/-- The plan of the samples. -/
def samplePlan : Plan := ⟨0, 1, "Pro", 1999, "USD", .active, .month, 0⟩

/-- The customer of the samples. -/
def sampleCustomer : Customer := ⟨0, 1, "cus_1", "pm_1"⟩

/-- A customer subscribes to a plan without a trial, and the first invoice is issued. -/
def subscribed : List Operation :=
  [.savePlan samplePlan, .saveCustomer sampleCustomer,
    .create 1 1 (sampleTime 0 0) (sampleTime 0 1)]

/-- A charge of the first invoice is prepared. -/
def preparedRun : Db :=
  Db.empty.after sampleEnv (subscribed ++ [.prepare 1 none true "key_1" (sampleTime 0 2)])

/-- The prepared run is reached. -/
theorem reachable_preparedRun : Reachable sampleEnv preparedRun :=
  reaches_after sampleEnv Db.empty _

end Chargeflow
