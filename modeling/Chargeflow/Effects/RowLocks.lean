import Chargeflow.Application.RowLocks
import Chargeflow.Effects.Lifecycle

/-!
# The services, statement by statement and in one piece

A transaction that runs alone ends as the service does in one piece.
-/

namespace Chargeflow

open Foundation

namespace Locking

open Program

variable {db : Db} {n : ℕ} {now issuedAt : DateTime}

/-! ## Invoices -/

/-- Alone, the program of a transition of a subscription does what the model does. -/
theorem Subscription.alone_transitionTo (s : Chargeflow.Subscription)
    (newStatus : SubscriptionStatus) (db : Db) :
    (Subscription.transitionTo s newStatus now).Alone db (s.transitionTo db newStatus now) id := by
  unfold Subscription.transitionTo
  split_ifs
  · exact alone_exec (fun db => s.transitionTo db newStatus now) db
  · exact alone_exec _ db

/-- Alone, the program of a transition of an invoice does what the model does. -/
theorem Invoice.alone_transitionTo (i : Chargeflow.Invoice) (newStatus : InvoiceStatus) (db : Db) :
    (Invoice.transitionTo i newStatus now).Alone db (i.transitionTo db newStatus now) id := by
  unfold Invoice.transitionTo
  split_ifs
  · exact alone_exec (fun db => i.transitionTo db newStatus now) db
  · exact alone_exec _ db

/-- Alone, the lock on a subscription fetches it. -/
theorem alone_getSubscription (n : ℕ) (db : Db) :
    (getSubscription n).Alone db (fetch db.subscriptions "Subscription" n) (db, ·) :=
  alone_readForUpdate _ _ _

/-- Alone, the lock on an invoice fetches it. -/
theorem alone_getInvoice (n : ℕ) (db : Db) :
    (getInvoice n).Alone db (fetch db.invoices "Invoice" n) (db, ·) :=
  alone_readForUpdate _ _ _

/-- Alone, the program of `mark_paid` does what the model does. -/
theorem InvoiceService.alone_markPaid (n : ℕ) (db : Db) :
    (InvoiceService.markPaid n now).Alone db (Chargeflow.InvoiceService.markPaid db n now)
      (·, ()) := by
  refine (alone_getInvoice n db).bind_read fun i _ => ?_
  split_ifs
  · rfl
  · exact (Invoice.alone_transitionTo i .paid db).bind_exec fun _ _ _ => rfl

/-- Alone, the program of `mark_failed` does what the model does. -/
theorem InvoiceService.alone_markFailed (n : ℕ) (db : Db) :
    (InvoiceService.markFailed n now).Alone db (Chargeflow.InvoiceService.markFailed db n now)
      (·, ()) := by
  refine (alone_getInvoice n db).bind_read fun i _ => ?_
  split_ifs
  · rfl
  · exact (Invoice.alone_transitionTo i .failed db).bind_exec fun _ _ _ => rfl

/-- Alone, the program of `mark_overdue` of an invoice does what the model does. -/
theorem InvoiceService.alone_markOverdue (n : ℕ) (db : Db) :
    (InvoiceService.markOverdue n now).Alone db (Chargeflow.InvoiceService.markOverdue db n now)
      (·, ()) := by
  refine (alone_getInvoice n db).bind_read fun i _ => ?_
  split_ifs
  · rfl
  · exact (Invoice.alone_transitionTo i .overdue db).bind_exec fun _ _ _ => rfl

/-- Alone, the program of `reissue_for_retry` does what the model does. -/
theorem InvoiceService.alone_reissueForRetry (n : ℕ) (db : Db) :
    (InvoiceService.reissueForRetry n now).Alone db
      (Chargeflow.InvoiceService.reissueForRetry db n now) (·, ()) := by
  refine (alone_getInvoice n db).bind_read fun i _ => ?_
  split_ifs
  · rfl
  · exact (Invoice.alone_transitionTo i .issued db).bind_exec fun _ _ _ => rfl

/-- Alone, the inserts of an invoice and its line do what the model does. -/
theorem alone_insertInvoice (subscription : Chargeflow.Subscription) (plan : Plan) (db : Db) :
    (insertInvoice subscription plan).Alone db
      (Chargeflow.Invoice.create db (Chargeflow.InvoiceService.draftInvoice plan subscription) >>=
        fun q => InvoiceLine.create q.1
          { id := 0
            organizationId := 0
            invoiceId := q.2.id
            description := Chargeflow.InvoiceService.lineDescription plan subscription
            amount := plan.price } >>= fun db => pure (db, q.2)) id := by
  refine (alone_exec _ db).bind_exec fun db₁ i _ => .insertRow (.checkAtCommit (.checkAtCommit ?_))
  exact (alone_update _ db₁).bind_update fun db₂ _ => .checkAtCommit (.checkAtCommit rfl)

/-- Alone, the program of `generate_for_subscription` does what the model does. -/
theorem InvoiceService.alone_generateForSubscription (n : ℕ) (db : Db) :
    (InvoiceService.generateForSubscription n now).Alone db
      (Chargeflow.InvoiceService.generateForSubscription db n now) id := by
  refine (alone_getSubscription n db).bind_read fun s _ => ?_
  refine (alone_read _ db).bind_read fun plan _ => ?_
  split_ifs
  · rfl
  refine .view ?_
  cases hl : periodInvoices s db with
  | cons i l =>
    rw [show db.invoices.filter _ = _ from hl]
    rfl
  | nil =>
    rw [show db.invoices.filter _ = _ from hl]
    refine .insertKey ?_
    have hinsert := Alone.bind_exec (k := id)
      (f := fun i => do
        let i ← Invoice.transitionTo i .issued now
        update fun db => .ok (Chargeflow.InvoiceService.handOff db i.id)
        return some i)
      (g := fun q => q.2.transitionTo q.1 .issued now >>= fun q' =>
        pure (Chargeflow.InvoiceService.handOff q'.1 q'.2.id, some q'.2))
      (alone_insertInvoice s plan db) fun db₁ i _ =>
        (Invoice.alone_transitionTo i .issued db₁).bind_exec fun db₂ i' _ => rfl
    simpa only [bind_assoc, pure_bind, if_true] using hinsert

/-- Alone, the program of `cancel_open_for_subscription` does what the model does. -/
theorem InvoiceService.alone_cancelOpenForSubscription (n : ℕ) (db : Db) :
    (InvoiceService.cancelOpenForSubscription n now).Alone db
      (Chargeflow.InvoiceService.cancelOpenForSubscription db n now) (·, ()) := by
  refine .view (.lockRows (.view ?_))
  have hlocked : ((openInvoices n db).filter fun i =>
      decide (i.id ∈ (openInvoices n db).map Chargeflow.Invoice.id)) = openInvoices n db :=
    List.filter_eq_self.mpr fun i hi => decide_eq_true (List.mem_map_of_mem hi)
  rw [hlocked]
  exact alone_forM fun i db =>
    (Invoice.alone_transitionTo i .canceled db).bind_exec fun _ _ _ => rfl

/-! ## Subscriptions -/

/-- Alone, the program of `mark_overdue` of a subscription does what the model does. -/
theorem SubscriptionService.alone_markOverdue (n : ℕ) (db : Db) :
    (SubscriptionService.markOverdue n now).Alone db
      (Chargeflow.SubscriptionService.markOverdue db n now) (·, ()) := by
  refine (alone_getSubscription n db).bind_read fun s _ => ?_
  split_ifs
  · rfl
  · exact (Subscription.alone_transitionTo s .overdue db).bind_exec fun _ _ _ => rfl

/-- Alone, the program of `reactivate` does what the model does. -/
theorem SubscriptionService.alone_reactivate (n : ℕ) (db : Db) :
    (SubscriptionService.reactivate n now).Alone db
      (Chargeflow.SubscriptionService.reactivate db n now) (·, ()) := by
  refine (alone_getSubscription n db).bind_read fun s _ => ?_
  split_ifs with hstatus harrears
  · rfl
  · refine .view ?_
    rw [if_pos harrears]
    rfl
  · refine .view ?_
    rw [if_neg harrears]
    exact .lockRow (alone_update _ db)

/-- The subscription and its plan. -/
theorem alone_getSubscriptionWithPlan {β γ : Type}
    {f : Chargeflow.Subscription × Plan → Transaction β}
    {g : Chargeflow.Subscription → Plan → Except Err γ} {k : γ → Db × β}
    (hf : ∀ s plan, s ∈ db.subscriptions → (f (s, plan)).Alone db (g s plan) k) :
    (getSubscriptionWithPlan n >>= f).Alone db
      (fetch db.subscriptions "Subscription" n >>= fun s =>
        fetch db.plans "Plan" s.planId >>= fun plan => g s plan) k := by
  have hpair : (getSubscriptionWithPlan n).Alone db
      (fetch db.subscriptions "Subscription" n >>= fun s =>
        fetch db.plans "Plan" s.planId >>= fun plan => pure (s, plan)) (db, ·) := by
    refine (alone_read _ db).bind_read fun s hs => ?_
    refine (alone_read _ db).bind_read fun plan hplan => .lockRow (.lockRow ?_)
    refine (alone_read _ db).again hs ?_
    have hsame : ensure (s.planId == s.planId) (.doesNotExist "Subscription") = .ok () :=
      ensure_eq_ok_iff.mpr (beq_self_eq_true _)
    rw [hsame]
    exact (alone_read _ db).again hplan rfl
  have hbind := hpair.bind_read (f := f) (g := fun q => g q.1 q.2) (k := k) fun q hq => by
    simp only [bind_eq_ok_iff, pure_eq_ok_iff, fetch_eq_ok_iff] at hq
    obtain ⟨s, ⟨hs, -⟩, plan, -, rfl⟩ := hq
    exact hf s plan hs
  simpa only [bind_assoc, pure_bind] using hbind

/-- The stored row of an instance. -/
theorem alone_persisted (pk : Option ℕ) (db : Db) :
    (persisted pk).Alone db (.ok (pk.bind db.subscriptions.get?)) (db, ·) := by
  cases pk with
  | none => rfl
  | some n =>
    refine .view ?_
    cases hrow : db.subscriptions.get? n with
    | none => exact congrArg (fun stored => Except.ok (db, stored)) hrow.symm
    | some row => rfl

/-- A stored subscription is saved with the parents it has. -/
theorem Subscription.alone_save (fields : List SubscriptionField) {s : Chargeflow.Subscription}
    (row : Chargeflow.Subscription) (hrow : db.subscriptions.get? s.id = some row)
    (hcustomer : row.customerId = s.customerId) (hplan : row.planId = s.planId) :
    (Subscription.save fields s).Alone db (Chargeflow.Subscription.save db fields s) (·, ()) := by
  have hlock : (lockForSave (some s.id) (some s.customerId) (some s.planId)).Alone db
      (.ok (some row)) (db, ·) := by
    have hstored := alone_persisted (some s.id) db
    rw [Option.bind_some, hrow] at hstored
    refine hstored.bind_read (g := fun stored => .ok stored) fun stored heq => ?_
    obtain rfl := Except.ok.inj heq
    simp only [Option.map_some, hcustomer, hplan, ne_eq, not_true_eq_false, if_false]
    rfl
  exact Alone.bind_read (g := fun _ => Chargeflow.Subscription.save db fields s) hlock
    fun _ _ => .lockRow (alone_update _ db)

/-- The row that a transition has written. -/
theorem get?_stamp {s : Chargeflow.Subscription} (hs : s ∈ db.subscriptions)
    (newStatus : SubscriptionStatus) :
    (db.subscriptions.update (s.stamp newStatus now)).get? s.id = some (s.stamp newStatus now) :=
  Table.get?_eq_some_iff.mpr ⟨Table.mem_update_self hs rfl, rfl⟩

/-- Alone, the program of a new period does what the model does. -/
theorem SubscriptionService.alone_startPeriod {s : Chargeflow.Subscription} (plan : Plan)
    (row : Chargeflow.Subscription) (hrow : db.subscriptions.get? s.id = some row)
    (hcustomer : row.customerId = s.customerId) (hplan : row.planId = s.planId) :
    (SubscriptionService.startPeriod s plan now issuedAt).Alone db
      (Chargeflow.SubscriptionService.startPeriod db s plan now issuedAt) (·, ()) := by
  refine (alone_raising _ db).bind_read fun periodEnd _ => ?_
  have hsave := Subscription.alone_save [.currentPeriodStart, .currentPeriodEnd]
    (s := { s with currentPeriodStart := now, currentPeriodEnd := periodEnd }) row hrow hcustomer
    hplan
  refine hsave.bind_update fun db' _ => ?_
  exact (InvoiceService.alone_generateForSubscription s.id db').bind_exec fun _ _ _ => rfl

/-- Alone, the program of `activate` does what the model does. -/
theorem SubscriptionService.alone_activate (n : ℕ) (db : Db) :
    (SubscriptionService.activate n now issuedAt).Alone db
      (Chargeflow.SubscriptionService.activate db n now issuedAt) (·, ()) := by
  refine alone_getSubscriptionWithPlan fun s plan hs => ?_
  refine (alone_raising _ db).bind_read fun _ _ => ?_
  refine (Subscription.alone_transitionTo s .active db).bind_exec fun db' s' hmove => ?_
  obtain ⟨-, rfl, rfl⟩ := Subscription.transitionTo_eq_ok hmove hs
  exact SubscriptionService.alone_startPeriod plan _ (get?_stamp hs .active) rfl rfl

/-- Alone, the program of `renew` does what the model does. -/
theorem SubscriptionService.alone_renew (n : ℕ) (checkedAt : DateTime) (db : Db) :
    (SubscriptionService.renew n checkedAt now issuedAt).Alone db
      (Chargeflow.SubscriptionService.renew db n checkedAt now issuedAt) (·, ()) := by
  refine alone_getSubscriptionWithPlan fun s plan hs => ?_
  refine (alone_raising _ db).bind_read fun _ _ => ?_
  refine (alone_raising _ db).bind_read fun _ _ => ?_
  exact SubscriptionService.alone_startPeriod plan s (Table.get?_key hs) rfl rfl

/-- Alone, the program of `cancel` does what the model does. -/
theorem SubscriptionService.alone_cancel (n : ℕ) (reason : CancellationReason) (db : Db) :
    (SubscriptionService.cancel n reason now).Alone db
      (Chargeflow.SubscriptionService.cancel db n reason now) (·, ()) := by
  refine (alone_getSubscription n db).bind_read fun s hs => ?_
  have hs := (fetch_eq_ok_iff.mp hs).1
  refine (Subscription.alone_transitionTo s .canceled db).bind_exec fun db' s' hmove => ?_
  obtain ⟨-, rfl, rfl⟩ := Subscription.transitionTo_eq_ok hmove hs
  refine Alone.bind_update (Subscription.alone_save [.canceledReason] (s.stamp .canceled now)
    (get?_stamp hs .canceled) rfl rfl) fun db' _ => ?_
  exact InvoiceService.alone_cancelOpenForSubscription s.id db'

/-! ## New subscriptions -/

/-- Alone, a shared lock changes nothing. -/
theorem alone_shareRow (r : Resource) (stored : Db → Bool) (db : Db) :
    (shareRow r stored).Alone db (.ok db) (·, ()) := by
  refine .view ?_
  split_ifs <;> rfl

/-- Alone, the shared locks on the parents change nothing. -/
theorem alone_shareParents (customerId planId : Option ℕ) (db : Db) :
    (shareParents customerId planId).Alone db (.ok db) (·, ()) := by
  unfold shareParents
  cases customerId with
  | none =>
    cases planId with
    | none => rfl
    | some n => exact alone_shareRow _ _ db
  | some m =>
    refine Alone.bind_update (g := .ok) (alone_shareRow _ _ db) fun _ heq => ?_
    obtain rfl := Except.ok.inj heq
    cases planId with
    | none => rfl
    | some n => exact alone_shareRow _ _ db

/-- The parents are locked unless they are those of the stored row. -/
theorem alone_lockForSave (pk customerId planId : Option ℕ) (db : Db) :
    (lockForSave pk customerId planId).Alone db
      ((if (pk.bind db.subscriptions.get?).map (fun row => (some row.customerId, some row.planId)) ≠
          some (customerId, planId) then
        SubscriptionInstance.lockParents db customerId planId else .ok ()) >>= fun _ =>
          .ok (pk.bind db.subscriptions.get?)) (db, ·) := by
  have hstored := alone_persisted pk db
  refine Alone.bind_read (g := fun stored =>
    (if stored.map (fun row => (some row.customerId, some row.planId)) ≠ some (customerId, planId)
      then SubscriptionInstance.lockParents db customerId planId else .ok ()) >>= fun _ =>
        .ok stored) hstored fun stored _ => ?_
  split_ifs
  · refine Alone.bind_update (g := fun db =>
        SubscriptionInstance.lockParents db customerId planId >>= fun _ => .ok stored)
      (alone_shareParents customerId planId db) fun _ heq => ?_
    obtain rfl := Except.ok.inj heq
    exact (alone_read _ db).bind_read fun _ _ => rfl
  · rfl

/-- `objects.create` reads the parents again. -/
theorem lockParents_create (db : Db) (s : Chargeflow.Subscription)
    (stored : Option Chargeflow.Subscription) :
    ((SubscriptionInstance.lockParents db (some s.customerId) (some s.planId) >>= fun _ =>
      .ok stored) >>= fun _ => Chargeflow.Subscription.create db s) =
    Chargeflow.Subscription.create db s := by
  unfold SubscriptionInstance.lockParents Chargeflow.Subscription.create
    Chargeflow.Subscription.lockParents
  dsimp only
  cases fetch db.customers "Customer" s.customerId with
  | error e => rfl
  | ok c => cases fetch db.plans "Plan" s.planId <;> rfl

/-- Alone, the program that creates a subscription does what the model does. -/
theorem Subscription.alone_create (s : Chargeflow.Subscription) (db : Db) :
    (Subscription.create s).Alone db (Chargeflow.Subscription.create db s) id := by
  have hlock := alone_lockForSave none (some s.customerId) (some s.planId) db
  rw [Option.bind_none, Option.map_none, if_pos nofun] at hlock
  rw [← lockParents_create db s none]
  refine hlock.bind_read fun _ _ => ?_
  rw [← bind_pure (Chargeflow.Subscription.create db s)]
  refine (alone_exec _ db).bind_exec fun db' row _ => ?_
  exact .insertRow (.checkAtCommit (.checkAtCommit (.checkAtCommit rfl)))

/-- Alone, the program of `create` does what the model does. -/
theorem SubscriptionService.alone_create (customerId planId : ℕ) (db : Db) :
    (SubscriptionService.create customerId planId now issuedAt).Alone db
      (Chargeflow.SubscriptionService.create db customerId planId now issuedAt) id := by
  refine Alone.bind_update (g := fun db =>
      Chargeflow.SubscriptionService.create db customerId planId now issuedAt)
    (alone_shareParents (some customerId) (some planId) db) fun _ heq => ?_
  obtain rfl := Except.ok.inj heq
  refine (alone_read _ db).bind_read fun q _ => ?_
  refine (alone_raising _ db).bind_read fun _ _ => ?_
  refine (alone_raising _ db).bind_read fun _ _ => ?_
  dsimp only
  cases decide (0 < q.2.trialPeriodDays) with
  | true =>
    refine (alone_raising _ db).bind_read fun periodEnd _ => ?_
    refine (Subscription.alone_create _ db).bind_exec fun db' s _ => ?_
    exact (InvoiceService.alone_generateForSubscription s.id db').bind_exec fun _ _ _ => rfl
  | false =>
    refine (alone_raising _ db).bind_read fun periodEnd _ => ?_
    refine (Subscription.alone_create _ db).bind_exec fun db' s _ => ?_
    exact (InvoiceService.alone_generateForSubscription s.id db').bind_exec fun _ _ _ => rfl

/-- Alone, the check of a foreign key changes nothing. -/
theorem alone_checkKey (r : ℕ → Resource) (n : Option ℕ) (db : Db) :
    (checkKey r n).Alone db (.ok db) (·, ()) := by
  cases n <;> rfl

/-- Alone, the checks of the parents change nothing. -/
theorem alone_checkParents (s : SubscriptionInstance)
    (written : SubscriptionColumn → Option ℕ → Bool) (db : Db) :
    (checkParents s written).Alone db (.ok db) (·, ()) := by
  refine Alone.bind_update (g := .ok) (alone_checkKey _ _ db) fun _ heq => ?_
  obtain rfl := Except.ok.inj heq
  refine Alone.bind_update (g := .ok) (alone_checkKey _ _ db) fun _ heq => ?_
  obtain rfl := Except.ok.inj heq
  exact alone_checkKey _ _ db

/-- The begin of `Subscription.save`, and the rest. -/
theorem save_eq_bind (s : Chargeflow.SubscriptionInstance)
    (updateFields : Option (List SubscriptionColumn)) (db : Db) :
    s.save db updateFields =
      ((if (s.pk.bind db.subscriptions.get?).map
          (fun row => (some row.customerId, some row.planId)) ≠
          some (s.customer.column, s.plan.column) then
        SubscriptionInstance.lockParents db s.customer.column s.plan.column else .ok ()) >>=
          fun _ => .ok (s.pk.bind db.subscriptions.get?)) >>= fun _ =>
            s.clean db >>= fun s => s.write db updateFields := by
  have hkeeps : s.KeepsParents db ↔ (s.pk.bind db.subscriptions.get?).map
      (fun row => (some row.customerId, some row.planId)) =
        some (s.customer.column, s.plan.column) := by
    unfold SubscriptionInstance.KeepsParents SubscriptionInstance.persistedParents
    rw [Option.map_map]
    rfl
  unfold Chargeflow.SubscriptionInstance.save
  split_ifs with h h' h'
  · exact absurd (hkeeps.mp h) h'
  · rfl
  · rw [bind_assoc]
    rfl
  · exact absurd (hkeeps.mpr (not_not.mp h')) h

/-- The check of a subscription changes neither its primary key nor its plan. -/
theorem clean_pk_plan {s s' : SubscriptionInstance} (hok : s.clean db = .ok s') :
    s'.pk = s.pk ∧ s'.plan = s.plan := by
  unfold SubscriptionInstance.clean at hok
  split at hok
  · simp only [bind_eq_ok_iff, pure_eq_ok_iff] at hok
    obtain ⟨_, _, _, _, _, _, _, _, rfl⟩ := hok
    exact ⟨rfl, rfl⟩
  · obtain rfl := Except.ok.inj hok
    exact ⟨rfl, rfl⟩

/-- A save of a stored row wrote the row of its primary key. -/
theorem pk_of_storedRow {pk : Option ℕ} {updateFields : Option (List SubscriptionColumn)}
    {written : SubscriptionColumn → Bool}
    (hok : saveTarget pk updateFields = .ok (.storedRow n written)) : pk = some n := by
  unfold saveTarget at hok
  split at hok <;> cases hok <;> rfl

/-- An instance with a key is saved when it has a row, or when only some columns are written. -/
theorem SubscriptionInstance.alone_save (updateFields : Option (List SubscriptionColumn))
    (s : Chargeflow.SubscriptionInstance) (db : Db)
    (hrow : updateFields = none → ∀ n, s.pk = some n → (db.subscriptions.get? n).isSome) :
    (SubscriptionInstance.save updateFields s).Alone db (s.save db updateFields) (·, ()) := by
  rw [save_eq_bind]
  refine (alone_lockForSave s.pk s.customer.column s.plan.column db).bind_read fun stored hs => ?_
  refine (alone_read _ db).bind_read fun s' hclean => ?_
  have hwrite := alone_update (ρ := Resource) (fun db => s'.write db updateFields) db
  split
  · have hinsert : ((s'.write db updateFields).map (·, db.subscriptions.next) >>= fun q =>
        .ok q.1) = s'.write db updateFields := by
      cases s'.write db updateFields <;> rfl
    rw [← hinsert]
    refine (alone_exec _ db).bind_exec fun db' n _ => .insertRow ?_
    exact alone_checkParents s' _ db'
  · rw [← bind_pure (s'.write db updateFields)]
    refine .lockRow ((alone_update _ db).bind_update fun db' _ => ?_)
    exact alone_checkParents s' _ db'
  · rename_i n _ htarget
    split_ifs with hfields
    · exact hwrite
    · -- the row has been found
      have hsome := hrow (Option.not_isSome_iff_eq_none.mp hfields) n
        ((clean_pk_plan hclean).1 ▸ pk_of_storedRow htarget)
      obtain ⟨_, -, hnone⟩ := bind_eq_ok_iff.mp hs
      rw [← (clean_pk_plan hclean).1, pk_of_storedRow htarget] at hnone
      rw [show db.subscriptions.get? n = none from Except.ok.inj hnone] at hsome
      cases hsome
  · exact hwrite

/-! ## Payment attempts -/

/-- Alone, the insertion of the keys of an attempt changes nothing. -/
theorem PaymentAttempt.alone_insertKeys (organizationId : ℕ) (p : Chargeflow.PaymentAttempt)
    (db : Db) : (PaymentAttempt.insertKeys organizationId p).Alone db (.ok db) (·, ()) := by
  unfold PaymentAttempt.insertKeys
  split <;> rfl

/-- `objects.create` reads the invoice, too. -/
theorem fetch_create (db : Db) (p : Chargeflow.PaymentAttempt) :
    (fetch db.invoices "Invoice" p.invoiceId >>= fun _ =>
      Chargeflow.PaymentAttempt.create db p) = Chargeflow.PaymentAttempt.create db p := by
  unfold Chargeflow.PaymentAttempt.create PaymentAttempt.clean
  dsimp only
  cases fetch db.invoices "Invoice" p.invoiceId <;> rfl

/-- Alone, the program that creates an attempt does what the model does. -/
theorem PaymentAttempt.alone_create (p : Chargeflow.PaymentAttempt) (db : Db) :
    (PaymentAttempt.create p).Alone db (Chargeflow.PaymentAttempt.create db p) id := by
  rw [← fetch_create]
  refine (alone_read _ db).bind_read fun i _ => ?_
  rw [← bind_pure (Chargeflow.PaymentAttempt.create db p)]
  refine Alone.bind_update (g := fun db => Chargeflow.PaymentAttempt.create db p >>= pure)
    (PaymentAttempt.alone_insertKeys _ _ db) fun _ heq => ?_
  obtain rfl := Except.ok.inj heq
  refine (alone_exec _ db).bind_exec fun db' row _ => ?_
  exact .insertRow (.checkAtCommit (.checkAtCommit rfl))

/-- Alone, the program that saves an attempt does what the model does. -/
theorem PaymentAttempt.alone_save (fields : List PaymentField) (p : Chargeflow.PaymentAttempt)
    (db : Db) :
    (PaymentAttempt.save fields p).Alone db (Chargeflow.PaymentAttempt.save db fields p)
      (·, ()) := by
  refine .lockRow ?_
  split_ifs
  · exact alone_update (fun db => Chargeflow.PaymentAttempt.save db fields p) db
  · exact alone_update _ db

/-! ## Preparing a charge -/

/-- Alone, the program of `_prepare_attempt` does what the model does. -/
theorem PaymentService.alone_prepareAttempt (s : Chargeflow.Subscription) (i : Chargeflow.Invoice)
    (idempotencyKey : Option String) (providerKey : String) (db : Db) :
    (PaymentService.prepareAttempt s i idempotencyKey providerKey now).Alone db
      (Chargeflow.PaymentService.prepareAttempt db s i idempotencyKey providerKey now) id := by
  unfold PaymentService.prepareAttempt Chargeflow.PaymentService.prepareAttempt
  by_cases hpayable : ¬ i.Payable
  · rw [if_pos hpayable, if_pos hpayable]
    refine .view ?_
    cases Chargeflow.PaymentService.firstAttempt db i fun p => p.status == .pending <;> rfl
  · rw [if_neg hpayable, if_neg hpayable]
    refine .view ?_
    dsimp only
    cases if i.status = .issued then
        Chargeflow.PaymentService.firstAttempt db i (Chargeflow.PaymentService.sinceIssue i)
      else none with
    | some p => exact (alone_raising _ db).bind_read fun _ _ => rfl
    | none =>
      refine .view ?_
      cases Chargeflow.PaymentService.firstAttempt db i fun p =>
          p.status == .pending || p.status == .success with
      | some p => rfl
      | none =>
        refine (alone_raising _ db).bind_read fun _ _ => ?_
        refine (alone_read _ db).bind_read fun customer _ => ?_
        exact (PaymentAttempt.alone_create _ db).bind_exec fun _ _ _ => rfl

/-- Alone, the program of `_prepare` does what the model does. -/
theorem PaymentService.alone_prepare (n : ℕ) (idempotencyKey : Option String) (issuedOnly : Bool)
    (providerKey : String) (db : Db) :
    (PaymentService.prepare n idempotencyKey issuedOnly providerKey now).Alone db
      (Chargeflow.PaymentService.prepare db n idempotencyKey issuedOnly providerKey now) id := by
  refine (alone_read _ db).bind_read fun i hi => ?_
  refine (alone_getSubscription i.subscriptionId db).bind_read fun s _ => ?_
  refine (alone_getInvoice n db).again hi ?_
  by_cases hissued : (issuedOnly && i.status != .issued) = true
  · rw [if_pos hissued, if_pos hissued]
    rfl
  · rw [if_neg hissued, if_neg hissued]
    refine .lockRowIf (.view ?_)
    dsimp only
    cases (normalizeKey idempotencyKey).bind
        (Chargeflow.PaymentService.findReplay db i.organizationId) with
    | some replay => exact (alone_raising _ db).bind_read fun _ _ => rfl
    | none => exact PaymentService.alone_prepareAttempt s i _ providerKey db

/-! ## Settling a charge -/

/-- What `bindChargeId` returns. -/
def bindingResult : Chargeflow.PaymentService.ChargeBinding → Db × Option Chargeflow.PaymentAttempt
  | .bound db payment => (db, some payment)
  | .collided db => (db, none)

/-- A charge id is saved, or it is taken and the attempt is flagged. -/
theorem bindChargeId_eq_bind {env : Env} {payment : Chargeflow.PaymentAttempt}
    {providerResponse : List (String × Json)} {incoming : Json} (db : Db)
    (hincoming : (incoming.truthy && payment.providerChargeId == "") = true) :
    Chargeflow.PaymentService.bindChargeId env db payment providerResponse incoming =
      PaymentService.saveChargeId
        { payment with
          providerResponse := .obj providerResponse
          providerChargeId := env.columnText incoming } true db >>= fun q =>
        if q.2 then
          .ok (.bound q.1 { payment with
            providerResponse := .obj providerResponse
            providerChargeId := env.columnText incoming })
        else
          Chargeflow.PaymentAttempt.save q.1 [.providerResponse, .needsReconciliation]
            { payment with
              providerChargeId := ""
              providerResponse :=
                Chargeflow.PaymentService.collisionResponse providerResponse incoming
              needsReconciliation := true } >>= fun db => .ok (.collided db) := by
  unfold Chargeflow.PaymentService.bindChargeId PaymentService.saveChargeId
  rw [if_pos hincoming, if_pos rfl]
  dsimp only
  cases Chargeflow.PaymentAttempt.save db [.providerResponse, .providerChargeId]
      { payment with
        providerResponse := .obj providerResponse
        providerChargeId := env.columnText incoming } with
  | ok db' => rfl
  | error e =>
    cases e with
    | integrityError constraint =>
      by_cases htaken : constraint = "unique_provider_charge"
      · subst htaken
        rfl
      · simp only [Err.integrityError.injEq, htaken, imp_self]
        rfl
    | _ => rfl

/-- Alone, the program of `_bind_charge_id` does what the model does. -/
theorem PaymentService.alone_bindChargeId (env : Env) (payment : Chargeflow.PaymentAttempt)
    (providerResponse : List (String × Json)) (incoming : Json) (db : Db) :
    (PaymentService.bindChargeId env payment providerResponse incoming).Alone db
      (Chargeflow.PaymentService.bindChargeId env db payment providerResponse incoming)
      bindingResult := by
  unfold PaymentService.bindChargeId
  dsimp only
  split_ifs with hincoming
  · rw [bindChargeId_eq_bind db hincoming]
    refine .lockRow (.insertKey ((alone_exec _ db).bind_exec fun db' saved _ => ?_))
    cases saved with
    | true => rfl
    | false => exact (PaymentAttempt.alone_save _ _ db').bind_update fun _ _ => rfl
  · unfold Chargeflow.PaymentService.bindChargeId
    rw [if_neg hincoming]
    rfl

/-- Alone, the program of `_apply_success` does what the model does. -/
theorem PaymentService.alone_applySuccess (s : Chargeflow.Subscription) (i : Chargeflow.Invoice)
    (payment : Chargeflow.PaymentAttempt) (db : Db) :
    (PaymentService.applySuccess s i payment now).Alone db
      (Chargeflow.PaymentService.applySuccess db s i payment now) (·, ()) := by
  refine .view ?_
  unfold Chargeflow.PaymentService.applySuccess
  dsimp only
  split_ifs
  · exact PaymentAttempt.alone_save _ _ db
  · refine (PaymentAttempt.alone_save _ _ db).bind_update fun db₁ _ => ?_
    refine (InvoiceService.alone_markPaid i.id db₁).bind_update fun db₂ _ => ?_
    exact SubscriptionService.alone_reactivate s.id db₂

/-- Alone, the program of `_apply_failure` does what the model does. -/
theorem PaymentService.alone_applyFailure (s : Chargeflow.Subscription) (i : Chargeflow.Invoice)
    (payment : Chargeflow.PaymentAttempt) (db : Db) :
    (PaymentService.applyFailure s i payment now).Alone db
      (Chargeflow.PaymentService.applyFailure db s i payment now) (·, ()) := by
  refine (PaymentAttempt.alone_save _ _ db).bind_update fun db₁ _ => .view ?_
  split_ifs
  · refine (InvoiceService.alone_markFailed i.id db₁).bind_update fun db₂ _ => ?_
    exact SubscriptionService.alone_markOverdue s.id db₂
  · rfl

/-- Alone, the program of `_settle`, once it has its rows, does what the model does. -/
theorem PaymentService.alone_settleLocked (env : Env) (s : Chargeflow.Subscription)
    (i : Chargeflow.Invoice) (payment : Chargeflow.PaymentAttempt) (success : Bool)
    (providerResponse : List (String × Json)) (providerChargeId : String) (db : Db)
    (hpayment : fetch db.attempts "PaymentAttempt" n = .ok payment)
    (hinvoice : fetch db.invoices "Invoice" payment.invoiceId = .ok i)
    (hsubscription : fetch db.subscriptions "Subscription" i.subscriptionId = .ok s) :
    (PaymentService.settleLocked env s i payment success providerResponse providerChargeId
      now).Alone db (Chargeflow.PaymentService.settle env db n success providerResponse
        providerChargeId now) (·, ()) := by
  unfold PaymentService.settleLocked Chargeflow.PaymentService.settle
  rw [hpayment, ok_bind, hinvoice, ok_bind, hsubscription, ok_bind]
  dsimp only
  split_ifs
  · rfl
  · exact PaymentAttempt.alone_save _ _ db
  · rfl
  · refine (PaymentService.alone_bindChargeId env payment providerResponse _ db).bind fun b _ => ?_
    cases b with
    | collided db' => rfl
    | bound db' payment' =>
      dsimp only [bindingResult]
      split_ifs
      · rfl
      · exact PaymentService.alone_applySuccess s i payment' db'
  · refine (PaymentService.alone_bindChargeId env payment providerResponse _ db).bind fun b _ => ?_
    cases b with
    | collided db' => rfl
    | bound db' payment' =>
      dsimp only [bindingResult]
      split_ifs
      · rfl
      · exact PaymentService.alone_applyFailure s i payment' db'

/-- `settle` looks for the subscription first. -/
theorem seen_settle (env : Env) (n : ℕ) (success : Bool) (providerResponse : List (String × Json))
    (providerChargeId : String) (db : Db) :
    ((fetch db.attempts "PaymentAttempt" n >>= fun p =>
        fetch db.invoices "Invoice" p.invoiceId >>= fun i => pure i.subscriptionId) >>=
      fun subscriptionId => fetch db.subscriptions "Subscription" subscriptionId >>= fun _ =>
        Chargeflow.PaymentService.settle env db n success providerResponse providerChargeId now) =
      Chargeflow.PaymentService.settle env db n success providerResponse providerChargeId now := by
  unfold Chargeflow.PaymentService.settle
  cases fetch db.attempts "PaymentAttempt" n with
  | error e => rfl
  | ok p =>
    simp only [ok_bind]
    cases fetch db.invoices "Invoice" p.invoiceId with
    | error e => rfl
    | ok i =>
      simp only [ok_bind, pure_bind]
      cases fetch db.subscriptions "Subscription" i.subscriptionId <;> rfl

/-- Alone, the program of `_settle` does what the model does. -/
theorem PaymentService.alone_settle (env : Env) (n : ℕ) (success : Bool)
    (providerResponse : List (String × Json)) (providerChargeId : String) (db : Db) :
    (PaymentService.settle env n success providerResponse providerChargeId now).Alone db
      (Chargeflow.PaymentService.settle env db n success providerResponse providerChargeId now)
      (·, ()) := by
  rw [← seen_settle]
  refine (alone_read _ db).bind_read fun subscriptionId hseen => ?_
  obtain ⟨p, hp, hseen⟩ := bind_eq_ok_iff.mp hseen
  obtain ⟨i, hi, heq⟩ := bind_eq_ok_iff.mp hseen
  obtain rfl := pure_eq_ok_iff.mp heq
  refine (alone_getSubscription i.subscriptionId db).bind_read fun s hs => ?_
  refine (alone_read _ db).again (congrArg (Except.map PaymentAttempt.invoiceId) hp) ?_
  refine (alone_getInvoice p.invoiceId db).again hi ?_
  refine (alone_readForUpdate _ _ db).again hp ?_
  exact PaymentService.alone_settleLocked env s i p success providerResponse providerChargeId db hp
    hi hs

/-! ## Webhooks and dunning -/

/-- Alone, the save of a webhook event does what the model does. -/
theorem alone_saveWebhook (webhook : WebhookEvent) (db : Db) :
    (PaymentService.saveWebhook webhook).Alone db
      (.ok ({ db with webhookEvents := db.webhookEvents.update webhook }, ())) id :=
  rfl

/-- Alone, the program of `handle_webhook` does what the model does. -/
theorem PaymentService.alone_handleWebhook (env : Env) (eventType payload : Json)
    (provider : String) (providerEventId : Json) (db : Db) :
    (PaymentService.handleWebhook env eventType payload provider providerEventId now).Alone db
      (Chargeflow.PaymentService.handleWebhook env db eventType payload provider providerEventId
        now) (·, ()) := by
  refine (alone_raising _ db).bind_read fun event _ => .view ?_
  split_ifs
  · rfl
  refine .insertKey ?_
  have hexec := alone_exec (ρ := Resource) (PaymentService.createWebhook event provider) db
  unfold PaymentService.createWebhook at hexec
  rw [if_pos rfl]
  cases hcreate : WebhookEvent.create db event.eventType provider event.providerEventId
      event.payload with
  | error e =>
    rw [hcreate] at hexec
    cases e with
    | integrityError constraint => exact hexec.done rfl
    | _ => exact hexec.fails
  | ok q =>
    obtain ⟨db₁, webhook⟩ := q
    rw [hcreate] at hexec
    refine hexec.done (.insertRow ?_)
    refine Alone.bind_update (g := fun db => _) (alone_checkKey _ _ db₁) fun _ heq => ?_
    obtain rfl := Except.ok.inj heq
    refine .view ?_
    dsimp only
    cases namedAttempt db₁ event.payload with
    | none => rfl
    | some payment =>
      refine (alone_saveWebhook _ db₁).done (.checkAtCommit ?_)
      exact (PaymentService.alone_settle env _ _ _ _ _).bind_update fun _ _ => rfl

/-- Alone, the program of `dun_invoice` does what the model does. -/
theorem alone_dunInvoice (n : ℕ) (db : Db) :
    (dunInvoice n now).Alone db (Chargeflow.dunInvoice db n now) (·, ()) := by
  refine (alone_read _ db).bind_read fun i hi => ?_
  refine (alone_getSubscription i.subscriptionId db).bind_read fun s _ => ?_
  refine (alone_getInvoice n db).again hi ?_
  by_cases hstatus : i.status ≠ .failed
  · rw [if_pos hstatus, if_pos hstatus]
    rfl
  rw [if_neg hstatus, if_neg hstatus]
  refine .view ?_
  dsimp only
  split_ifs
  · refine (InvoiceService.alone_markOverdue i.id db).bind_update fun db' _ => ?_
    exact SubscriptionService.alone_cancel s.id .nonPayment db'
  · exact (InvoiceService.alone_markOverdue i.id db).bind_update fun _ _ => rfl
  · exact InvoiceService.alone_reissueForRetry i.id db

end Locking

end Chargeflow
