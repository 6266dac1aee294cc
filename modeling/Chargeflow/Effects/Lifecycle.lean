import Chargeflow.Effects.Billing

/-!
# What a transaction does to the books

The rules on billing are about three tables: the subscriptions, their invoices and the payment
attempts.  `Lifecycle` lists everything that a transaction other than the settlement of a charge can
do to them, with the conditions under which the code does it.  For each service operation a lemma
shows that the operation does one of these things when it commits.
-/

namespace Chargeflow

open Foundation

/-- The subscriptions, the invoices and the payment attempts. -/
structure Books where
  subscriptions : Table Subscription
  invoices : Table Invoice
  attempts : Table PaymentAttempt

/-- The books of a database. -/
def Db.books (db : Db) : Books := ⟨db.subscriptions, db.invoices, db.attempts⟩

/-- The database with other books. -/
def Db.withBooks (db : Db) (b : Books) : Db :=
  { db with subscriptions := b.subscriptions, invoices := b.invoices, attempts := b.attempts }

/-- A subscription moved to a billing period. -/
def Subscription.inPeriod (s : Subscription) (start e : DateTime) : Subscription :=
  { s with currentPeriodStart := start, currentPeriodEnd := e }

/-- The subscription `s` stands at the period it is billed for, in the table `subs'` that a
transaction made out of `subs`.  `readings` are the clock readings of the transaction. -/
inductive PeriodStart (readings : List DateTime) (subs : Table Subscription) :
    Table Subscription → Subscription → Prop
  /-- A subscription without a trial is created. -/
  | created {s : Subscription} (hstatus : s.status = .active)
      (hperiod : s.currentPeriodStart < s.currentPeriodEnd) :
      PeriodStart readings subs (subs.insert s) (withKey subs.next s)
  /-- A trial ends. -/
  | activated {s : Subscription} (hs : s ∈ subs) (hstatus : s.status = .trial) {now e : DateTime}
      (hperiod : now < e) :
      PeriodStart readings subs (subs.update ((s.stamp .active now).inPeriod now e))
        ((s.stamp .active now).inPeriod now e)
  /-- A period has ended by the first of two readings of the clock, and the next one starts at the
  second. -/
  | renewed {s : Subscription} (hs : s ∈ subs) (hstatus : s.status = .active)
      {checkedAt now e : DateTime} (hreadings : [checkedAt, now].Sublist readings)
      (hdue : s.currentPeriodEnd ≤ checkedAt) (hperiod : now < e) :
      PeriodStart readings subs (subs.update (s.inPeriod now e)) (s.inPeriod now e)
  /-- The period stays as it is. -/
  | current {s : Subscription} (hs : s ∈ subs) (hstatus : s.status = .active) :
      PeriodStart readings subs subs s

/-- The row of a canceled subscription. -/
def Subscription.close (s : Subscription) (reason : CancellationReason) (now : DateTime) :
    Subscription :=
  { s with status := .canceled, canceledAt := some now, canceledReason := some reason }

/-- The attempt `_prepare` leaves behind, apart from its key. -/
def preparedAttempt (invoice : Invoice) (customer : Customer) (idempotencyKey : Option String)
    (providerKey : String) (now : DateTime) : PaymentAttempt :=
  { PaymentService.newAttempt invoice customer idempotencyKey providerKey now with
    organizationId := invoice.organizationId }

/-- The attempts of an invoice that failed. -/
def Books.failedCharges (b : Books) (i : Invoice) : List PaymentAttempt :=
  b.attempts.filter fun p => p.invoiceId == i.id && p.status == .failed

/-- The conditions under which an attempt is created for an invoice of a subscription. -/
structure Chargeable (b : Books) (s : Subscription) (i : Invoice) : Prop where
  subscription : s ∈ b.subscriptions
  invoice : i ∈ b.invoices
  subscriptionId : s.id = i.subscriptionId
  payable : i.Payable
  notCanceled : s.status ≠ .canceled
  allFailed : ∀ p ∈ b.attempts, p.invoiceId = i.id → p.status = .failed
  noneSinceIssue : i.status = .issued → ∀ p ∈ b.attempts, p.invoiceId = i.id →
    PaymentService.sinceIssue i p = false

/-- The effect on the books of a transaction that settles no charge. -/
inductive Lifecycle (readings : List DateTime) (b : Books) : Books → Prop
  | idle : Lifecycle readings b b
  /-- A subscription is created with a trial. -/
  | trialed {s : Subscription} (hstatus : s.status = .trial) :
      Lifecycle readings b { b with subscriptions := b.subscriptions.insert s }
  /-- The period of a subscription has an invoice already. -/
  | covered {subs : Table Subscription} {s : Subscription}
      (hstart : PeriodStart readings b.subscriptions subs s) {i : Invoice} (hi : i ∈ b.invoices)
      (hcovers : i.Covers s) :
      Lifecycle readings b { b with subscriptions := subs }
  /-- The period of a subscription gets its invoice. -/
  | billed {subs : Table Subscription} {s : Subscription}
      (hstart : PeriodStart readings b.subscriptions subs s) (plan : Plan) (now : DateTime)
      (hnone : ∀ i ∈ b.invoices, ¬ i.Covers s) :
      Lifecycle readings b
        { b with subscriptions := subs, invoices := b.invoices.insert (issuedInvoice plan s now) }
  /-- A subscription is canceled, and with it its open invoices. -/
  | canceled {s : Subscription} (hs : s ∈ b.subscriptions) (hstatus : s.status ≠ .canceled)
      (reason : CancellationReason) (now : DateTime) {invoices : Table Invoice}
      (hnext : invoices.next = b.invoices.next)
      (hclosed : ∀ j, j ∈ invoices ↔ ∃ i ∈ b.invoices, j = closeOpen s.id i) :
      Lifecycle readings b
        { b with
          subscriptions := b.subscriptions.update (s.close reason now)
          invoices := invoices }
  /-- A charge of an invoice is prepared. -/
  | prepared {s : Subscription} {i : Invoice} (h : Chargeable b s i) (customer : Customer)
      (key : Option String) (providerKey : String) (now : DateTime)
      (hunique : PaymentAttempt.Unique b.attempts
        (preparedAttempt i customer key providerKey now)) :
      Lifecycle readings b
        { b with attempts := b.attempts.insert (preparedAttempt i customer key providerKey now) }
  /-- A failed invoice is issued again. -/
  | reissued {i : Invoice} (hi : i ∈ b.invoices) (hstatus : i.status = .failed)
      (hcount : (b.failedCharges i).length < maxDunningAttempts) (now : DateTime) :
      Lifecycle readings b { b with invoices := b.invoices.update (i.stamp .issued now) }
  /-- A failed invoice of a canceled subscription is given up. -/
  | abandoned {i : Invoice} (hi : i ∈ b.invoices) (hstatus : i.status = .failed)
      {s : Subscription} (hs : s ∈ b.subscriptions) (hid : s.id = i.subscriptionId)
      (hcanceled : s.status = .canceled) (now : DateTime) :
      Lifecycle readings b { b with invoices := b.invoices.update (i.stamp .overdue now) }
  /-- A failed invoice is given up, and its subscription canceled for it. -/
  | exhausted {i : Invoice} (hi : i ∈ b.invoices) (hstatus : i.status = .failed)
      (hcount : maxDunningAttempts ≤ (b.failedCharges i).length)
      {s : Subscription} (hs : s ∈ b.subscriptions) (hid : s.id = i.subscriptionId)
      (hopen : s.status ≠ .canceled) (now : DateTime) {invoices : Table Invoice}
      (hnext : invoices.next = b.invoices.next)
      (hclosed : ∀ j, j ∈ invoices ↔
        ∃ k ∈ b.invoices.update (i.stamp .overdue now), j = closeOpen s.id k) :
      Lifecycle readings b
        { b with
          subscriptions := b.subscriptions.update (s.close .nonPayment now)
          invoices := invoices }

/-- A transaction does to the books one of the things of `Lifecycle`, and leaves the ledger of the
gateway alone. -/
structure Follows (readings : List DateTime) (db db' : Db) : Prop where
  books : Lifecycle readings db.books db'.books
  receipts : db'.receipts = db.receipts

/-- A transaction that stays away from the books and the ledger. -/
theorem Follows.idle {readings : List DateTime} {db db' : Db} (hbooks : db'.books = db.books)
    (hreceipts : db'.receipts = db.receipts) : Follows readings db db' :=
  ⟨hbooks ▸ Lifecycle.idle, hreceipts⟩

/-- The start of a period may take its reading from a longer list. -/
theorem PeriodStart.mono {readings readings' : List DateTime} {subs subs' : Table Subscription}
    {s : Subscription} (h : PeriodStart readings subs subs' s)
    (hsub : readings.Sublist readings') : PeriodStart readings' subs subs' s := by
  cases h with
  | created hstatus hperiod => exact .created hstatus hperiod
  | activated hs hstatus hperiod => exact .activated hs hstatus hperiod
  | renewed hs hstatus hreadings hdue hperiod =>
    exact .renewed hs hstatus (hreadings.trans hsub) hdue hperiod
  | current hs hstatus => exact .current hs hstatus

/-- A transaction may read the clock more often than its effect on the books tells. -/
theorem Lifecycle.mono {readings readings' : List DateTime} {b b' : Books}
    (h : Lifecycle readings b b') (hsub : readings.Sublist readings') :
    Lifecycle readings' b b' := by
  cases h with
  | idle => exact .idle
  | trialed hstatus => exact .trialed hstatus
  | covered hstart hi hcovers => exact .covered (hstart.mono hsub) hi hcovers
  | billed hstart plan now hnone => exact .billed (hstart.mono hsub) plan now hnone
  | canceled hs hstatus reason now hnext hclosed =>
    exact .canceled hs hstatus reason now hnext hclosed
  | prepared h customer key providerKey now hunique =>
    exact .prepared h customer key providerKey now hunique
  | reissued hi hstatus hcount now => exact .reissued hi hstatus hcount now
  | abandoned hi hstatus hs hid hcanceled now => exact .abandoned hi hstatus hs hid hcanceled now
  | exhausted hi hstatus hcount hs hid hopen now hnext hclosed =>
    exact .exhausted hi hstatus hcount hs hid hopen now hnext hclosed

/-- A transaction may take its readings from a longer list. -/
theorem Follows.mono {readings readings' : List DateTime} {db db' : Db}
    (h : Follows readings db db') (hsub : readings.Sublist readings') :
    Follows readings' db db' :=
  ⟨h.books.mono hsub, h.receipts⟩

/-! ## Billing -/

/-- Billing the period a transaction has just set is one step of the books. -/
theorem Billed.follows {readings : List DateTime} {db db' : Db} {subs : Table Subscription}
    {s : Subscription} (hstart : PeriodStart readings db.subscriptions subs s)
    (h : Billed { db with subscriptions := subs } db' s) : Follows readings db db' := by
  cases h with
  | already i hi hcovers hdb =>
    subst hdb
    exact ⟨Lifecycle.covered (b := db.books) hstart hi hcovers, rfl⟩
  | issued plan hplan hplanId now hnone hdb =>
    subst hdb
    exact ⟨Lifecycle.billed (b := db.books) hstart plan now hnone, rfl⟩

namespace SubscriptionService

/-- The subscription `create` saves bills its first period, unless it starts with a trial. -/
theorem create_eq_ok {db db' : Db} {customerId planId : ℕ} {now issuedAt : DateTime}
    {s : Subscription} (h : create db customerId planId now issuedAt = .ok (db', s)) :
    Follows [now, issuedAt] db db' := by
  simp only [create, bind_eq_ok_iff, Prod.exists] at h
  obtain ⟨customer, plan, -, -, -, -, -, h⟩ := h
  split_ifs at h with htrial
  all_goals
    simp only [bind_eq_ok_iff, pure_eq_ok_iff, Prod.exists, Prod.mk.injEq] at h
    obtain ⟨e, he, db₁, s₁, hcreate, db₂, i, hgen, rfl, -⟩ := h
    obtain ⟨c, -, -, rfl, rfl⟩ := Subscription.create_eq_ok hcreate
    obtain ⟨s₂, hs₂, hid, hcase⟩ := InvoiceService.generateForSubscription_eq_ok hgen
    obtain rfl := Table.eq_of_key_eq hs₂ Table.mem_insert_self hid
  · rcases hcase with ⟨-, rfl⟩ | ⟨hstatus, -⟩
    · exact ⟨Lifecycle.trialed (b := db.books) rfl, rfl⟩
    · cases hstatus
  · rcases hcase with ⟨hstatus, -⟩ | ⟨-, hbilled⟩
    · exact absurd rfl hstatus
    · exact hbilled.follows (PeriodStart.created rfl (computePeriodEnd_lt he))

/-- The period a subscription moves to ends after it starts, and is billed. -/
theorem startPeriod_eq_ok {db db' : Db} {s : Subscription} {plan : Plan} {now issuedAt : DateTime}
    (hs : s ∈ db.subscriptions) (hactive : s.status = .active)
    (h : startPeriod db s plan now issuedAt = .ok db') :
    ∃ e, now < e ∧ Billed
      { db with subscriptions := db.subscriptions.update (s.inPeriod now e) } db'
      (s.inPeriod now e) := by
  simp only [startPeriod, bind_eq_ok_iff, pure_eq_ok_iff, Prod.exists] at h
  obtain ⟨e, he, db₁, hsave, db₂, i, hgen, rfl⟩ := h
  obtain ⟨s₁, hs₁, hid, rfl⟩ := Subscription.save_eq_ok hsave
  obtain rfl := Table.eq_of_key_eq hs₁ hs hid
  obtain ⟨s₂, hs₂, hid₂, hcase⟩ := InvoiceService.generateForSubscription_eq_ok hgen
  have hrow : s₁.merge [.currentPeriodStart, .currentPeriodEnd]
      { s₁ with currentPeriodStart := now, currentPeriodEnd := e } = s₁.inPeriod now e := rfl
  rw [hrow] at hs₂ hcase
  obtain rfl := Table.eq_of_key_eq hs₂ (Table.mem_update_self hs rfl) hid₂
  rcases hcase with ⟨hstatus, -⟩ | ⟨-, hbilled⟩
  · exact absurd hactive hstatus
  · exact ⟨e, computePeriodEnd_lt he, hbilled⟩

/-- An activation is one of the things of `Lifecycle`. -/
theorem activate_eq_ok {db db' : Db} {subscriptionId : ℕ} {now issuedAt : DateTime}
    (h : activate db subscriptionId now issuedAt = .ok db') : Follows [now, issuedAt] db db' := by
  simp only [activate, bind_eq_ok_iff, fetch_eq_ok_iff, ensure_eq_ok_iff, Prod.exists] at h
  obtain ⟨s, ⟨hs, -⟩, plan, -, -, htrial, db₁, s₁, htransition, hperiod⟩ := h
  obtain ⟨-, rfl, rfl⟩ := Subscription.transitionTo_eq_ok htransition hs
  have hrow : s.stamp .active now ∈ db.subscriptions.update (s.stamp .active now) :=
    Table.mem_update_self hs rfl
  obtain ⟨e, hlt, hbilled⟩ := startPeriod_eq_ok hrow rfl hperiod
  have hrows : (db.subscriptions.update (s.stamp .active now)).update
      ((s.stamp .active now).inPeriod now e) =
      db.subscriptions.update ((s.stamp .active now).inPeriod now e) := Table.update_update rfl
  simp only [hrows] at hbilled
  exact hbilled.follows (PeriodStart.activated hs (by simpa [isTrialToActivate] using htrial) hlt)

/-- A renewal reads the clock twice: to check that the period has ended, and to start the next
one. -/
theorem renew_eq_ok {db db' : Db} {subscriptionId : ℕ} {checkedAt now issuedAt : DateTime}
    (h : renew db subscriptionId checkedAt now issuedAt = .ok db') :
    Follows [checkedAt, now, issuedAt] db db' := by
  simp only [renew, isDueForRenewal, bind_eq_ok_iff, fetch_eq_ok_iff, ensure_eq_ok_iff,
    Bool.and_eq_true, beq_iff_eq, decide_eq_true_eq] at h
  obtain ⟨s, ⟨hs, -⟩, plan, -, -, hactive, -, ⟨-, hdue⟩, hperiod⟩ := h
  obtain ⟨e, hlt, hbilled⟩ := startPeriod_eq_ok hs hactive hperiod
  exact hbilled.follows (PeriodStart.renewed hs hactive (by simp) hdue hlt)

/-- The generation of an invoice is one of the things of `Lifecycle`. -/
theorem generateForSubscription_follows {db db' : Db} {subscriptionId : ℕ} {issuedAt : DateTime}
    {result : Option Invoice}
    (h : InvoiceService.generateForSubscription db subscriptionId issuedAt = .ok (db', result)) :
    Follows [issuedAt] db db' := by
  obtain ⟨s, hs, -, hcase⟩ := InvoiceService.generateForSubscription_eq_ok h
  rcases hcase with ⟨-, rfl⟩ | ⟨hactive, hbilled⟩
  · exact Follows.idle rfl rfl
  · refine Billed.follows (PeriodStart.current hs hactive) ?_
    exact hbilled

/-- The handler of the renewal cycle renews, or does nothing. -/
theorem renewIfStillDue_eq_ok {db db' : Db} {subscriptionId : ℕ}
    {listedAt checkedAt now issuedAt : DateTime}
    (h : renewIfStillDue db subscriptionId listedAt checkedAt now issuedAt = .ok db') :
    Follows [listedAt, checkedAt, now, issuedAt] db db' := by
  simp only [renewIfStillDue, bind_eq_ok_iff] at h
  obtain ⟨s, -, h⟩ := h
  split_ifs at h
  · exact (renew_eq_ok h).mono (List.sublist_cons_self _ _)
  · exact pure_eq_ok_iff.mp h ▸ Follows.idle rfl rfl

/-- The handler of the activation cycle activates, or does nothing. -/
theorem activateIfStillExpired_eq_ok {db db' : Db} {subscriptionId : ℕ}
    {checkedAt now issuedAt : DateTime}
    (h : activateIfStillExpired db subscriptionId checkedAt now issuedAt = .ok db') :
    Follows [checkedAt, now, issuedAt] db db' := by
  simp only [activateIfStillExpired, bind_eq_ok_iff] at h
  obtain ⟨s, -, h⟩ := h
  split_ifs at h
  · exact pure_eq_ok_iff.mp h ▸ Follows.idle rfl rfl
  · exact pure_eq_ok_iff.mp h ▸ Follows.idle rfl rfl
  · exact (activate_eq_ok h).mono (List.sublist_cons_self _ _)

/-! ## Cancellation and dunning -/

/-- A cancellation closes the subscription and its open invoices. -/
theorem cancel_eq_ok {db db' : Db} {s : Subscription} {reason : CancellationReason}
    {now : DateTime} (h : cancel db s.id reason now = .ok db') (hs : s ∈ db.subscriptions) :
    s.status ≠ .canceled ∧ ∃ invoices : Table Invoice,
      db' = { db with
        subscriptions := db.subscriptions.update (s.close reason now)
        invoices := invoices } ∧
      invoices.next = db.invoices.next ∧
      ∀ j, j ∈ invoices ↔ ∃ i ∈ db.invoices, j = closeOpen s.id i := by
  simp only [cancel, bind_eq_ok_iff, fetch_eq_ok_iff, Prod.exists] at h
  obtain ⟨s₁, ⟨hs₁, hid⟩, db₁, s₂, htransition, db₂, hsave, hclose⟩ := h
  obtain rfl := Table.eq_of_key_eq hs₁ hs hid
  obtain ⟨hedge, rfl, rfl⟩ := Subscription.transitionTo_eq_ok htransition hs
  have hopen : s₁.status ≠ .canceled := by
    intro hcanceled
    rw [hcanceled] at hedge
    simp [subscriptionTransitions] at hedge
  have hrow : s₁.stamp .canceled now ∈ db.subscriptions.update (s₁.stamp .canceled now) :=
    Table.mem_update_self hs rfl
  obtain ⟨stored, hstored, hstoredId, rfl⟩ := Subscription.save_eq_ok hsave
  obtain rfl := Table.eq_of_key_eq hstored hrow hstoredId
  obtain ⟨invoices, rfl, hnext, hrows⟩ := InvoiceService.cancelOpenForSubscription_eq_ok hclose
  refine ⟨hopen, invoices, ?_, hnext, hrows⟩
  have hupdate : (db.subscriptions.update (s₁.stamp .canceled now)).update
      (s₁.close reason now) = db.subscriptions.update (s₁.close reason now) :=
    Table.update_update rfl
  rw [← hupdate]
  rfl

/-- A cancellation is one of the things of `Lifecycle`. -/
theorem cancel_follows {db db' : Db} {subscriptionId : ℕ} {reason : CancellationReason}
    {now : DateTime} (h : cancel db subscriptionId reason now = .ok db') :
    Follows [now] db db' := by
  obtain ⟨s, hfetch, -⟩ := bind_eq_ok_iff.mp h
  obtain ⟨hs, rfl⟩ := fetch_eq_ok_iff.mp hfetch
  obtain ⟨hopen, invoices, rfl, hnext, hrows⟩ := cancel_eq_ok h hs
  exact ⟨Lifecycle.canceled (b := db.books) hs hopen reason now hnext hrows, rfl⟩

end SubscriptionService

/-- One turn of dunning: a FAILED invoice is reissued until enough of its charges have failed, and
then given up. -/
theorem dunInvoice_follows {db db' : Db} {invoiceId : ℕ} {now : DateTime}
    (h : dunInvoice db invoiceId now = .ok db') : Follows [now] db db' := by
  simp only [dunInvoice, bind_eq_ok_iff, fetch_eq_ok_iff] at h
  obtain ⟨i, ⟨hi, -⟩, s, ⟨hs, hsid⟩, h⟩ := h
  split_ifs at h with hstatus hcount hopen
  · exact pure_eq_ok_iff.mp h ▸ Follows.idle rfl rfl
  · obtain ⟨db₁, hoverdue, hcancel⟩ := bind_eq_ok_iff.mp h
    obtain rfl := InvoiceService.markOverdue_eq_ok hoverdue hi (not_not.mp hstatus)
    obtain ⟨-, invoices, rfl, hnext, hrows⟩ := SubscriptionService.cancel_eq_ok hcancel hs
    exact ⟨Lifecycle.exhausted (b := db.books) hi (not_not.mp hstatus) hcount hs hsid hopen now
      hnext hrows, rfl⟩
  · simp only [bind_eq_ok_iff, pure_eq_ok_iff] at h
    obtain ⟨db₁, hoverdue, rfl⟩ := h
    obtain rfl := InvoiceService.markOverdue_eq_ok hoverdue hi (not_not.mp hstatus)
    exact ⟨Lifecycle.abandoned (b := db.books) hi (not_not.mp hstatus) hs hsid (not_not.mp hopen)
      now, rfl⟩
  · obtain rfl := InvoiceService.reissueForRetry_eq_ok h hi (not_not.mp hstatus)
    exact ⟨Lifecycle.reissued (b := db.books) hi (not_not.mp hstatus) (not_le.mp hcount) now, rfl⟩

end Chargeflow
