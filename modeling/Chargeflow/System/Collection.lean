import Chargeflow.Foundation.Passes
import Chargeflow.Books.Rank
import Chargeflow.System.Provider

/-!
# The scheduled tasks

`run_dunning` and `reconcile_stuck` go over the rows that their queries return, and everything else
goes on in between, with a consistent provider and a clock that runs.  When a handler raises, what
it has committed stays.  `OperationalError` and `SoftTimeLimitExceeded` end the batch; any other
exception is logged, and the next row is handled all the same.  A round of collection is a run of
`reconcile_stuck`, at least ten minutes later, whose tasks the worker takes up, and after it a run
of `run_dunning`: runs that no exception has ended.
-/

namespace Chargeflow

open Foundation PaymentService

/-- An event, with the clock running between the transactions on an invoice. -/
def TimedEvent (env : Env) (e : Event) (sys sys' : Sys) : Prop :=
  sys.step env e = some sys' ∧ StampsIncrease sys.db.books sys'.db.books

/-- Some event under the clock. -/
def TimedStep (env : Env) (sys sys' : Sys) : Prop := ∃ e : Event, TimedEvent env e sys sys'

/-- `recover_pending` comes to its end: there is nothing to charge any more, or the result of the
charge is settled. -/
inductive Recovered (env : Env) (paymentId : ℕ) : Sys → Sys → Prop
  | skipped {sys : Sys} (h : ∀ p ∈ sys.db.attempts, p.id = paymentId → chargeable p = false) :
      Recovered env paymentId sys sys
  | charged {sys a b : Sys} (hcharge : Reaches (TimedStep env) sys a) {n : ℕ} {result : ChargeResult}
      (hcaller : a.charges[n]? = some (.answered paymentId result)) {success : Bool}
      {chargeId : String} {now : DateTime}
      (hsettle : TimedEvent env (.advance n success chargeId now) a b) :
      Recovered env paymentId sys b

/-- The worker starts on the task of an invoice. -/
def Charged (env : Env) (invoiceId : ℕ) (sys sys' : Sys) : Prop :=
  ∃ providerKey now, TimedEvent env (.call invoiceId none true providerKey now) sys sys'

/-- Dunning turns to an invoice. -/
def Dunned (env : Env) (invoiceId : ℕ) (sys sys' : Sys) : Prop :=
  ∃ now, TimedEvent env (.transact (.dun invoiceId now)) sys sys'

/-- A row is handled, or its handler raises, after some steps, an exception that does not end the
batch. -/
def Attended (env : Env) (raises : ℕ → Prop) (handled : ℕ → Sys → Sys → Prop) (n : ℕ)
    (sys sys' : Sys) : Prop :=
  handled n sys sys' ∨ raises n ∧ Reaches (TimedStep env) sys sys'

/-- A round of collection.  `raises` tells the invoices for which some handler may raise.  At the
time of the queries ten minutes have passed since every issue and every attempt of the first
state. -/
inductive Round (env : Env) (raises : ℕ → Prop) : Sys → Sys → Prop
  | mk {sys queried listed handed charged failed dunned sys' : Sys} {tasks : List ℕ}
      {now later : DateTime}
      (hbefore : Reaches (TimedStep env) sys queried)
      (hattempts : ∀ p ∈ sys.db.attempts, StuckSince p.attemptedAt now)
      (hrecover : Pass (TimedStep env)
        (Attended env (fun n => ∃ p ∈ queried.db.attempts, p.id = n ∧ raises p.invoiceId)
          (Recovered env))
        (pendingIds queried.db now) queried listed)
      (hissues : ∀ i ∈ sys.db.invoices, ∀ t ∈ i.issuedAt, StuckSince t later)
      (hhandOff : TimedEvent env (.transact (.reconcile later)) listed handed)
      (htasks : ∀ n ∈ stuckIds listed.db later, ¬ raises n → n ∈ tasks)
      (hcharge : Pass (TimedStep env) (Attended env raises (Charged env)) tasks handed charged)
      (hbetween : Reaches (TimedStep env) charged failed)
      (hdun : Pass (TimedStep env) (Attended env raises (Dunned env)) (failedIds failed.db) failed
        dunned)
      (hafter : Reaches (TimedStep env) dunned sys') : Round env raises sys sys'

variable {env : Env}

/-! ## Runs -/

/-- An event under the clock is a step of the run. -/
theorem TimedEvent.step {e : Event} {sys sys' : Sys} (h : TimedEvent env e sys sys') :
    TimedStep env sys sys' := ⟨e, h⟩

/-- A step under the clock is a step of the system. -/
theorem TimedStep.sysStep {sys sys' : Sys} (h : TimedStep env sys sys') : SysStep env sys sys' := by
  obtain ⟨e, hstep, -⟩ := h
  exact ⟨e, hstep⟩

/-- A recovery is a run. -/
theorem Recovered.reaches {n : ℕ} {sys sys' : Sys} (h : Recovered env n sys sys') :
    Reaches (TimedStep env) sys sys' := by
  cases h with
  | skipped => exact .refl
  | charged hcharge _ hsettle => exact hcharge.tail hsettle.step

/-- The start of a task is a run. -/
theorem Charged.reaches {n : ℕ} {sys sys' : Sys} (h : Charged env n sys sys') :
    Reaches (TimedStep env) sys sys' := by
  obtain ⟨providerKey, now, hcall⟩ := h
  exact .single hcall.step

/-- The dunning of an invoice is a run. -/
theorem Dunned.reaches {n : ℕ} {sys sys' : Sys} (h : Dunned env n sys sys') :
    Reaches (TimedStep env) sys sys' := by
  obtain ⟨now, hdun⟩ := h
  exact .single hdun.step

/-- A handler leaves a run behind, whether it returns or raises. -/
theorem Attended.reaches {raises : ℕ → Prop} {handled : ℕ → Sys → Sys → Prop}
    (hhandled : ∀ n a b, handled n a b → Reaches (TimedStep env) a b) (n : ℕ) (a b : Sys)
    (h : Attended env raises handled n a b) : Reaches (TimedStep env) a b := by
  rcases h with h | ⟨-, h⟩
  · exact hhandled n a b h
  · exact h

/-- A round is a run. -/
theorem Round.reaches {raises : ℕ → Prop} (s s' : Sys) (h : Round env raises s s') :
    Reaches (TimedStep env) s s' := by
  obtain ⟨hbefore, -, hrecover, -, hhandOff, -, hcharge, hbetween, hdun, hafter⟩ := h
  have hrecovered := hrecover.reaches (Attended.reaches fun _ _ _ => Recovered.reaches)
  have hcharged := hcharge.reaches (Attended.reaches fun _ _ _ => Charged.reaches)
  have hdunned := hdun.reaches (Attended.reaches fun _ _ _ => Dunned.reaches)
  exact ((((hbefore.trans hrecovered).tail hhandOff.step).trans hcharged).trans hbetween).trans
    (hdunned.trans hafter)

/-! ## What a handler achieves -/

/-- An attempt is not charged again once a result has been settled for it. -/
theorem Settlement.not_chargeable {b b' : Books} {p : PaymentAttempt} {i : Invoice}
    {s : Subscription} {success : Bool} {response : List (String × Json)} {incoming : Json}
    {now : DateTime} (hp : p ∈ b.attempts)
    (h : Settlement env b p i s success response incoming now b') :
    ∃ p' ∈ b'.attempts, p'.id = p.id ∧ chargeable p' = false := by
  have hrow : ∀ {p' : PaymentAttempt}, p'.id = p.id → chargeable p' = false →
      ∃ q ∈ b.attempts.update p', q.id = p.id ∧ chargeable q = false :=
    fun hid hdone => ⟨_, Table.mem_update_self hp hid, hid, hdone⟩
  have hflagged : ∀ {p' : PaymentAttempt}, p'.needsReconciliation = true →
      chargeable p' = false := by
    intro p' hflag
    simp [chargeable, hflag]
  have hended : ∀ {p' : PaymentAttempt}, p'.status ≠ .pending → chargeable p' = false := by
    intro p' hstatus
    simp [chargeable, hstatus]
  cases h with
  | ignored hdone =>
    refine ⟨p, hp, rfl, ?_⟩
    by_cases hflag : p.needsReconciliation = true
    · exact hflagged hflag
    · refine hended fun hpending => hdone ⟨by simp [hpending], by simpa using hflag⟩
  | mismatched => exact hrow rfl (hflagged rfl)
  | collided => exact hrow rfl (hflagged rfl)
  | repeated _ _ _ hfailed hversion =>
    rcases hversion with rfl | rfl
    · exact hrow rfl (hended (by simp [hfailed]))
    · exact hrow rfl (hended (show p.status ≠ .pending by simp [hfailed]))
  | inapplicable => exact hrow rfl (hflagged rfl)
  | applied => exact hrow rfl (hended PaymentStatus.noConfusion)
  | declined => exact hrow rfl (hended PaymentStatus.noConfusion)
  | declinedClosed => exact hrow rfl (hended PaymentStatus.noConfusion)

/-- The attempt whose result a caller settles is not charged again. -/
theorem not_chargeable_of_answered {sys sys' : Sys} {n paymentId : ℕ} {result : ChargeResult}
    {success : Bool} {chargeId : String} {now : DateTime}
    (hcaller : sys.charges[n]? = some (.answered paymentId result))
    (h : sys.step env (.advance n success chargeId now) = some sys') :
    ∃ p ∈ sys'.db.attempts, p.id = paymentId ∧ chargeable p = false := by
  obtain ⟨c, hc, c', hnext, -⟩ := Sys.advance_eq_some h
  obtain rfl := Option.some.inj (hcaller.symm.trans hc)
  obtain ⟨db', hsettle, hdb⟩ := bind_eq_ok_iff.mp hnext
  obtain ⟨rfl, -⟩ := Prod.mk.inj (pure_eq_ok_iff.mp hdb)
  obtain ⟨p, b', rfl, ⟨hp, i, hi, s, hs, -, -, hsettlement⟩, hbooks⟩ := settle_eq_ok hsettle
  obtain ⟨p', hp', hid, hdone⟩ := hsettlement.not_chargeable hp
  refine ⟨p', ?_, hid, hdone⟩
  rw [hbooks]
  exact hp'

/-- A task of the worker prepares an attempt for an ISSUED invoice that has none since its issue. -/
theorem underWay_of_call {sys sys' : Sys} {i : Invoice} {providerKey : String} {now : DateTime}
    (hi : i ∈ sys.db.invoices) (hissued : i.status = .issued)
    (hcoupled : Coupled sys.db.invoices sys.db.attempts) (hissues : Issues sys.db.books)
    (h : sys.step env (.call i.id none true providerKey now) = some sys') :
    underWay sys'.db.attempts i.id = true := by
  obtain ⟨hop, -⟩ := Sys.call_eq_some h
  obtain ⟨⟨db', payment, shouldCharge⟩, hprepare, hdb⟩ := map_eq_ok_iff.mp hop
  obtain ⟨j, hj, s, hs, hid, hsid, hprepared, -⟩ := prepare_eq_ok hprepare
  obtain rfl := Table.eq_of_key_eq hj hi hid
  have hdb' : sys'.db = db' := hdb.symm
  rw [hdb', underWay_eq_true_iff]
  cases hprepared with
  | skipped _ hstatus => exact absurd hissued hstatus
  | replayed _ hkey => cases hkey
  | recovered _ hpayable => exact absurd (Invoice.payable_iff.mpr (Or.inl hissued)) hpayable
  | thisIssue _ _ hq hinvoice hsince =>
    exact ⟨_, hq, hinvoice, hissues.pending j hi hissued _ hq hinvoice hsince⟩
  | @existing _ _ q hq hinvoice hstatus =>
    refine ⟨q, hq, hinvoice, ?_⟩
    cases hq' : q.status with
    | pending => rfl
    | failed => exact absurd hq' hstatus
    | success =>
      have hpaid := (hcoupled.paid j hi).mpr ⟨q, hq, hinvoice, hq'⟩
      rw [hissued] at hpaid
      cases hpaid
  | created => exact ⟨_, Table.mem_insert_self, rfl, rfl⟩

/-- Dunning leaves no invoice FAILED. -/
theorem dunInvoice_not_failed {db db' : Db} {i i' : Invoice} {now : DateTime}
    (h : dunInvoice db i.id now = .ok db') (hi : i ∈ db.invoices) (hi' : i' ∈ db'.invoices)
    (hid : i'.id = i.id) : i'.status ≠ .failed := by
  simp only [dunInvoice, bind_eq_ok_iff, fetch_eq_ok_iff] at h
  obtain ⟨j, ⟨hj, hji⟩, s, ⟨hs, hsid⟩, h⟩ := h
  obtain rfl := Table.eq_of_key_eq hj hi hji
  have hupdated : ∀ {status : InvoiceStatus}, status ≠ .failed →
      ∀ k ∈ db.invoices.update (j.stamp status now), k.id = j.id → k.status ≠ .failed := by
    intro status hstatus k hk hkid
    rcases (Table.mem_update_of_mem hj (by rfl)).mp hk with rfl | ⟨hk, hne⟩
    · exact hstatus
    · exact absurd (Table.eq_of_key_eq hk hj hkid) hne
  split_ifs at h with hstatus hcount hopen
  · obtain rfl := pure_eq_ok_iff.mp h
    rw [Table.eq_of_key_eq hi' hj hid]
    exact hstatus
  · obtain ⟨db₁, hoverdue, hcancel⟩ := bind_eq_ok_iff.mp h
    obtain rfl := InvoiceService.markOverdue_eq_ok hoverdue hj (not_not.mp hstatus)
    obtain ⟨-, invoices, rfl, -, hrows⟩ := SubscriptionService.cancel_eq_ok hcancel hs
    obtain ⟨k, hk, rfl⟩ := (hrows i').mp hi'
    intro hfailed
    exact hupdated InvoiceStatus.noConfusion k hk ((closeOpen_id _ k).symm.trans hid)
      (closeOpen_status (by decide) hfailed)
  · simp only [bind_eq_ok_iff, pure_eq_ok_iff] at h
    obtain ⟨db₁, hoverdue, rfl⟩ := h
    obtain rfl := InvoiceService.markOverdue_eq_ok hoverdue hj (not_not.mp hstatus)
    exact hupdated InvoiceStatus.noConfusion i' hi' hid
  · obtain rfl := InvoiceService.reissueForRetry_eq_ok h hj (not_not.mp hstatus)
    exact hupdated InvoiceStatus.noConfusion i' hi' hid

end Chargeflow
