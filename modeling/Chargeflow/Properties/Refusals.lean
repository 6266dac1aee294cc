import Chargeflow.Properties.Prices
import Chargeflow.System.Columns
import Chargeflow.System.Dunning

/-!
# What may be raised

`_prepare`, `_charge` and the tasks have many ways to raise: rows that are not there, constraints,
columns that are too narrow, amounts that cannot be quantized, a key that the gateway has seen with
other parameters, transitions that the state machines do not allow.  Of all of them only those are
left that the endpoint of `attempt` answers, and a client key that is too long.  The provider may
report anything in between: a webhook that contradicts the receipts stops no charge.
-/

namespace Chargeflow

open Foundation PaymentService MockPaymentGateway

/-! ## Receipts and callers -/

/-- The receipt was made for the attempt, and what it says can be settled. -/
structure MockChargeReceipt.MadeFor (env : Env) (r : MockChargeReceipt) (p : PaymentAttempt) :
    Prop where
  key : r.providerIdempotencyKey = p.providerIdempotencyKey
  fingerprint : MockPaymentGateway.requestFingerprint env (chargeRequest p) =
    .ok r.requestFingerprint
  chargeId : r.providerChargeId.length ≤ 255
  response : r.providerResponse = outcomeResponse r.success

/-- What a caller knows is what the database says about its attempt. -/
def ChargePhase.Backed (env : Env) (db : Db) : ChargePhase → Prop
  | .started paymentId => ∃ p ∈ db.attempts, p.id = paymentId
  | .requested paymentId request => ∃ p ∈ db.attempts, p.id = paymentId ∧ request = chargeRequest p
  | .lookedUp paymentId request seen => ∃ p ∈ db.attempts, p.id = paymentId ∧
    request = chargeRequest p ∧ ∀ r ∈ seen, r.MadeFor env p
  | .answered paymentId result => ∃ p ∈ db.attempts, p.id = paymentId ∧
    ∃ r : MockChargeReceipt, r.MadeFor env p ∧ result = answer r

/-- Every receipt was made for a stored attempt. -/
def BackedReceipts (env : Env) (db : Db) : Prop :=
  ∀ r ∈ db.receipts, ∃ p ∈ db.attempts, r.MadeFor env p

variable {env : Env} {db : Db}

/-- The receipt of the key of an attempt was made for this attempt. -/
theorem BackedReceipts.of_key (h : BackedReceipts env db) (hdb : db.Consistent) {p : PaymentAttempt}
    (hp : p ∈ db.attempts) {r : MockChargeReceipt} (hr : r ∈ db.receipts)
    (hkey : r.providerIdempotencyKey = p.providerIdempotencyKey) : r.MadeFor env p := by
  obtain ⟨q, hq, hmade⟩ := h r hr
  obtain rfl := hdb.sound.keysUnique.provider q hq p hp (hmade.key.symm.trans hkey)
  exact hmade

/-- A receipt made for an attempt is made for its later versions. -/
theorem MockChargeReceipt.MadeFor.later {r : MockChargeReceipt} {p p' : PaymentAttempt}
    (h : r.MadeFor env p) (hlater : p.Later p') : r.MadeFor env p' where
  key := h.key.trans hlater.snapshot.providerIdempotencyKey.symm
  fingerprint := hlater.snapshot.chargeRequest ▸ h.fingerprint
  chargeId := h.chargeId
  response := h.response

/-- A charge phase stays backed while the attempts move forward. -/
theorem ChargePhase.Backed.mono {db' : Db} {c : ChargePhase} (h : c.Backed env db)
    (hattempts : db.attempts.Evolves PaymentAttempt.Later db'.attempts) : c.Backed env db' := by
  cases c with
  | started paymentId =>
    obtain ⟨p, hp, hpid⟩ := h
    obtain ⟨p', hp', hid, -⟩ := hattempts.kept p hp
    exact ⟨p', hp', Eq.trans hid hpid⟩
  | requested paymentId request =>
    obtain ⟨p, hp, hpid, rfl⟩ := h
    obtain ⟨p', hp', hid, hlater⟩ := hattempts.kept p hp
    exact ⟨p', hp', Eq.trans hid hpid, hlater.snapshot.chargeRequest.symm⟩
  | lookedUp paymentId request seen =>
    obtain ⟨p, hp, hpid, rfl, hseen⟩ := h
    obtain ⟨p', hp', hid, hlater⟩ := hattempts.kept p hp
    exact ⟨p', hp', Eq.trans hid hpid, hlater.snapshot.chargeRequest.symm,
      fun r hr => (hseen r hr).later hlater⟩
  | answered paymentId result =>
    obtain ⟨p, hp, hpid, r, hr, rfl⟩ := h
    obtain ⟨p', hp', hid, hlater⟩ := hattempts.kept p hp
    exact ⟨p', hp', Eq.trans hid hpid, r, hr.later hlater, rfl⟩

/-- The receipts stay backed while the attempts move forward. -/
theorem BackedReceipts.mono {db' : Db} (h : BackedReceipts env db)
    (hattempts : db.attempts.Evolves PaymentAttempt.Later db'.attempts)
    (hreceipts : db'.receipts = db.receipts) : BackedReceipts env db' := by
  intro r hr
  rw [hreceipts] at hr
  obtain ⟨p, hp, hmade⟩ := h r hr
  obtain ⟨p', hp', -, hlater⟩ := hattempts.kept p hp
  exact ⟨p', hp', hmade.later hlater⟩

/-! ## The gateway -/

/-- A charge id as the gateway draws one. -/
def FreshChargeId (db : Db) (chargeId : String) : Prop :=
  FitsColumn chargeId 255 ∧ ∀ r ∈ db.receipts, r.providerChargeId ≠ chargeId

variable {request : ChargeRequest} {fp chargeId : String} {success : Bool}

/-- The gateway answers for an attempt with a receipt that was made for it. -/
theorem finishCharge_commits (hdb : db.Consistent) (hreceipts : BackedReceipts env db)
    {p : PaymentAttempt} (hp : p ∈ db.attempts) {seen : Option MockChargeReceipt}
    (hseen : ∀ r ∈ seen, r.MadeFor env p) (success : Bool) (hdrawn : FreshChargeId db chargeId) :
    ∃ r, finishCharge env db (chargeRequest p) seen success chargeId = .ok r := by
  obtain ⟨fp, hfp⟩ := requestFingerprint_of_lengths env (hdb.admitted.lengths p hp)
  have hmade : ∀ {r : MockChargeReceipt}, r.MadeFor env p → r.requestFingerprint = fp :=
    fun hr => Except.ok.inj (hr.fingerprint.symm.trans hfp)
  cases seen with
  | some r => exact ⟨_, finishCharge_of_seen hfp (hmade (hseen r rfl))⟩
  | none =>
    have hlength := key_of_lengths (hdb.admitted.lengths p hp)
    by_cases hfree : ∀ r ∈ db.receipts,
        r.providerIdempotencyKey ≠ (chargeRequest p).idempotencyKey
    · exact ⟨_, finishCharge_of_free hfp hlength hfree hdrawn.2⟩
    · -- another caller was faster, with the same parameters
      push Not at hfree
      obtain ⟨r, hr, hkey⟩ := hfree
      have hhonoured : Honoured db (chargeRequest p) fp := by
        intro r' hr' hkey'
        exact hmade (hreceipts.of_key hdb hp hr' hkey')
      obtain ⟨r', -, hanswered⟩ := finishCharge_of_taken hfp hlength hr hkey hhonoured
      exact ⟨_, hanswered⟩

/-- A caller that the database backs goes on. -/
theorem ChargePhase.Backed.goes_on {c : ChargePhase} (h : c.Backed env db) (hdb : db.Consistent)
    (hreceipts : BackedReceipts env db) (success : Bool) (hdrawn : FreshChargeId db chargeId)
    (now : DateTime) : ∃ r, c.next env db success chargeId now = .ok r := by
  cases c with
  | started paymentId =>
    obtain ⟨p, hp, rfl⟩ := h
    have hfetch : fetch db.attempts "PaymentAttempt" p.id = .ok p := fetch_key hp
    have hprovider : getPaymentGateway p.provider = .ok () := by
      rw [hdb.sound.keysUnique.mock p hp]
      rfl
    simp only [ChargePhase.next, hfetch, hprovider, ok_bind]
    split_ifs
    · exact ⟨_, rfl⟩
    · exact ⟨_, rfl⟩
  | requested paymentId request => exact ⟨_, rfl⟩
  | lookedUp paymentId request seen =>
    obtain ⟨p, hp, -, rfl, hseen⟩ := h
    obtain ⟨r, hr⟩ := finishCharge_commits hdb hreceipts hp hseen success hdrawn
    simp only [ChargePhase.next, hr, ok_bind]
    exact ⟨_, rfl⟩
  | answered paymentId result =>
    obtain ⟨p, hp, rfl, r, hr, rfl⟩ := h
    obtain ⟨i, hi, s, hs, hpi, hsi⟩ := hdb.rows hp
    have hincoming : incomingChargeId (answer r).providerResponse (answer r).providerChargeId =
        .str r.providerChargeId := by
      simp only [answer, hr.response, incomingChargeId_outcomeResponse]
    have hfits : ¬ tooLong env p (.str r.providerChargeId) :=
      fun hlong => absurd hlong.2.2 (not_lt.mpr hr.chargeId)
    obtain ⟨b', hsettle, -⟩ :=
      settle_commits hdb hp hi hpi hs hsi (answer r).success hincoming hfits now
    simp only [ChargePhase.next, hsettle, ok_bind]
    exact ⟨_, rfl⟩

/-! ## Runs -/

/-- The receipts and the callers of a system whose gateway draws charge ids that fit. -/
structure Sys.Backed (env : Env) (sys : Sys) : Prop where
  receipts : BackedReceipts env sys.db
  charges : ∀ c ∈ sys.charges, c.Backed env sys.db

/-- The charge id of an event, if a call of the gateway draws one, fits its column. -/
def Event.Drawn : Event → Prop
  | .advance _ _ chargeId _ => FitsColumn chargeId 255
  | _ => True

/-- A step of the system with a provider that may report anything, whose gateway draws charge ids
that fit their column. -/
inductive DrawnStep (env : Env) : Sys → Sys → Prop
  /-- A transaction other than a call of the gateway, which only a charge makes. -/
  | transact {op : Operation} {db db' : Db} (charges : List ChargePhase)
      (hgateway : ∀ request seen success chargeId, op ≠ .gateway request seen success chargeId)
      (hop : op.apply env db = .ok db') : DrawnStep env ⟨db, charges⟩ ⟨db', charges⟩
  /-- A charge is called or recovered, or its caller goes on or stops. -/
  | event {e : Event} {sys sys' : Sys} (hdrawn : e.Drawn) (he : sys.step env e = some sys') :
      DrawnStep env sys sys'

/-- Seen from the database, a step is a transaction or nothing. -/
theorem DrawnStep.step {sys sys' : Sys} (h : DrawnStep env sys sys') :
    sys'.db = sys.db ∨ Step env sys.db sys'.db := by
  cases h with
  | transact charges hgateway hop => exact Or.inr ⟨_, hop⟩
  | event hdrawn he => exact SysStep.db ⟨_, he⟩

/-- The database of a run is one that the transactions reach. -/
theorem Reaches.drawn_db {sys : Sys} (h : Reaches (DrawnStep env) Sys.empty sys) :
    Reachable env sys.db :=
  h.simulation (f := Sys.db) fun _ _ => DrawnStep.step

/-- The attempt that `_prepare` returns is stored. -/
theorem Prepared.mem {db' : Db} {s : Subscription} {i : Invoice} {key : Option String}
    {issuedOnly : Bool} {providerKey : String} {now : DateTime} {p : PaymentAttempt}
    (h : Prepared db s i key issuedOnly providerKey now db' (some p)) : p ∈ db'.attempts := by
  cases h with
  | replayed hq => exact hq
  | recovered _ _ hq => exact hq
  | thisIssue _ _ hq => exact hq
  | existing _ _ hq => exact hq
  | created => exact Table.mem_insert_self

/-- The caller that a call adds knows a stored attempt. -/
theorem Sys.call_backed {sys sys' : Sys} {invoiceId : ℕ} {key : Option String} {issuedOnly : Bool}
    {providerKey : String} {now : DateTime}
    (h : sys.step env (.call invoiceId key issuedOnly providerKey now) = some sys') :
    ∀ c ∈ sys'.charges, c ∈ sys.charges ∨ c.Backed env sys'.db := by
  intro c hc
  simp only [Sys.step] at h
  split at h
  · rename_i db p hrun
    obtain rfl := Option.some.inj h
    rcases List.mem_append.mp hc with hc | hc
    · exact Or.inl hc
    · obtain rfl := List.mem_singleton.mp hc
      obtain ⟨i, -, s, -, -, -, hprepared, -⟩ := prepare_eq_ok hrun
      exact Or.inr ⟨p, hprepared.mem, rfl⟩
  · obtain rfl := Option.some.inj h
    exact Or.inl hc
  · cases h

/-- What a caller learns is backed, and so is the receipt it may add. -/
theorem ChargePhase.Backed.next {db' : Db} {c : ChargePhase} {c' : Option ChargePhase}
    (h : c.Backed env db) (hdb : db.Consistent) (hreceipts : BackedReceipts env db)
    (hlength : chargeId.length ≤ 255) {now : DateTime}
    (hnext : c.next env db success chargeId now = .ok (db', c')) :
    (db'.receipts = db.receipts ∨ BackedReceipts env db') ∧ ∀ c₁ ∈ c', c₁.Backed env db' := by
  cases c with
  | started paymentId =>
    simp only [ChargePhase.next, bind_eq_ok_iff, fetch_eq_ok_iff] at hnext
    obtain ⟨p, ⟨hp, hpid⟩, hnext⟩ := hnext
    split_ifs at hnext
    · obtain ⟨rfl, rfl⟩ := Prod.mk.inj (pure_eq_ok_iff.mp hnext)
      exact ⟨Or.inl rfl, by simp⟩
    · obtain ⟨⟨⟩, -, hnext⟩ := bind_eq_ok_iff.mp hnext
      obtain ⟨rfl, rfl⟩ := Prod.mk.inj (pure_eq_ok_iff.mp hnext)
      refine ⟨Or.inl rfl, ?_⟩
      rintro _ ⟨⟩
      exact ⟨p, hp, hpid, rfl⟩
  | requested paymentId request =>
    obtain ⟨p, hp, hpid, rfl⟩ := h
    obtain ⟨rfl, rfl⟩ := Prod.mk.inj (Except.ok.inj hnext)
    refine ⟨Or.inl rfl, ?_⟩
    rintro _ ⟨⟩
    refine ⟨p, hp, hpid, rfl, ?_⟩
    intro r hr
    obtain ⟨hmem, hkey⟩ := findReceipt_eq_some hr
    exact hreceipts.of_key hdb hp hmem hkey
  | lookedUp paymentId request seen =>
    obtain ⟨p, hp, hpid, rfl, hseen⟩ := h
    obtain ⟨⟨db₁, result⟩, hgateway, hnext⟩ := bind_eq_ok_iff.mp hnext
    obtain ⟨rfl, rfl⟩ := Prod.mk.inj (pure_eq_ok_iff.mp hnext)
    obtain ⟨fp, r, hfp, hanswered, rfl⟩ := finishCharge_eq_ok hgateway
    cases hanswered with
    | replayed hsome =>
      refine ⟨Or.inl rfl, ?_⟩
      rintro _ ⟨⟩
      exact ⟨p, hp, hpid, r, hseen r hsome, rfl⟩
    | raced _ hr hkey =>
      refine ⟨Or.inl rfl, ?_⟩
      rintro _ ⟨⟩
      exact ⟨p, hp, hpid, r, hreceipts.of_key hdb hp hr hkey, rfl⟩
    | drawn =>
      have hmade : (withKey db.receipts.next
          (newReceipt (chargeRequest p) fp success chargeId)).MadeFor env p :=
        ⟨rfl, hfp, hlength, rfl⟩
      refine ⟨Or.inr ?_, ?_⟩
      · intro r hr
        rcases Table.mem_insert.mp hr with hr | rfl
        · exact hreceipts r hr
        · exact ⟨p, hp, hmade⟩
      · rintro _ ⟨⟩
        exact ⟨p, hp, hpid, _, hmade, rfl⟩
  | answered paymentId result =>
    obtain ⟨db₁, hsettle, hnext⟩ := bind_eq_ok_iff.mp hnext
    obtain ⟨rfl, rfl⟩ := Prod.mk.inj (pure_eq_ok_iff.mp hnext)
    obtain ⟨p, b', -, -, rfl⟩ := settle_eq_ok hsettle
    exact ⟨Or.inl rfl, by simp⟩

/-- A step keeps the receipts and the callers backed. -/
theorem Sys.Backed.step {sys sys' : Sys} (h : sys.Backed env) (hdb : sys.db.Consistent)
    (hstep : DrawnStep env sys sys') : sys'.Backed env := by
  have hattempts : sys.db.attempts.Evolves PaymentAttempt.Later sys'.db.attempts := by
    rcases hstep.step with hsame | hdb
    · rw [hsame]
      exact .refl PaymentAttempt.Later.refl _
    · obtain ⟨_, hbooks⟩ := hdb.books
      exact hbooks.attempts
  -- it is enough to look at the receipts and at the callers that have moved
  have hmoved : sys'.db.receipts = sys.db.receipts ∨ BackedReceipts env sys'.db →
      (∀ c ∈ sys'.charges, c ∈ sys.charges ∨ c.Backed env sys'.db) → sys'.Backed env := by
    intro hreceipts hcharges
    refine ⟨?_, ?_⟩
    · rcases hreceipts with hsame | hbacked
      · exact h.receipts.mono hattempts hsame
      · exact hbacked
    · intro c hc
      rcases hcharges c hc with hold | hnew
      · exact (h.charges c hold).mono hattempts
      · exact hnew
  cases hstep with
  | transact charges hgateway hop =>
    exact hmoved (Or.inl (Operation.receipts_eq hop hgateway)) fun c hc => Or.inl hc
  | @event e _ _ hdrawn he =>
    cases e with
    | transact op =>
      obtain ⟨hpermitted, hop, hcharges⟩ := Sys.transact_eq_some he
      refine hmoved (Or.inl (Operation.receipts_eq hop ?_)) fun c hc => Or.inl (hcharges ▸ hc)
      rintro request seen success chargeId rfl
      cases hpermitted
    | call invoiceId key issuedOnly providerKey now =>
      exact hmoved (Or.inl (Operation.receipts_eq (Sys.call_eq_some he).1 (by simp)))
        (Sys.call_backed he)
    | recover paymentId =>
      simp only [Sys.step] at he
      split_ifs at he with hfound
      obtain rfl := Option.some.inj he
      rw [Option.any_eq_true] at hfound
      obtain ⟨p, hget, -⟩ := hfound
      obtain ⟨hp, hpid⟩ := Table.get?_eq_some_iff.mp hget
      refine hmoved (Or.inl rfl) ?_
      intro c hc
      rcases List.mem_append.mp hc with hc | hc
      · exact Or.inl hc
      · rw [List.mem_singleton.mp hc]
        exact Or.inr ⟨p, hp, hpid⟩
    | advance n success chargeId now =>
      obtain ⟨c, hc, c', hnext, hcharges⟩ := Sys.advance_eq_some he
      obtain ⟨hreceipts, hbacked⟩ :=
        (h.charges c (List.mem_of_getElem? hc)).next hdb h.receipts hdrawn.1 hnext
      exact hmoved hreceipts fun c'' hc'' => (hcharges c'' hc'').imp_right (hbacked c'')
    | crash n =>
      obtain rfl := Option.some.inj he
      exact hmoved (Or.inl rfl) fun c hc => Or.inl (List.mem_of_mem_eraseIdx hc)

/-- In every run the receipts and the callers are backed. -/
theorem Reaches.backed {sys : Sys} (h : Reaches (DrawnStep env) Sys.empty sys) : sys.Backed env := by
  refine h.invariant (I := fun sys => sys.Backed env) ?_ ?_
  · refine ⟨?_, ?_⟩
    · intro r hr
      simp [Sys.empty, Db.empty] at hr
    · intro c hc
      simp [Sys.empty] at hc
  · intro a b hreach ha hstep
    exact ha.step (Reaches.drawn_db hreach).consistent hstep

/-- In every state of the system, every charge under way goes on, the worker prepares the charge of
every invoice, and `attempt` goes through as well, unless it refuses the call or the client key is
too long. -/
theorem only_refusals_are_raised {sys : Sys} (h : Reaches (DrawnStep env) Sys.empty sys) :
    (∀ c ∈ sys.charges, ∀ success chargeId now, FreshChargeId sys.db chargeId →
      ∃ r, c.next env sys.db success chargeId now = .ok r) ∧
    ∀ i ∈ sys.db.invoices, ∀ providerKey now, FreshKey sys.db providerKey →
      (∃ r, prepare sys.db i.id none true providerKey now = .ok r) ∧
      ∀ key : Option String, (∀ k ∈ key, StorableText k) →
        Prepares (normalizeKey key) (prepare sys.db i.id key false providerKey now) := by
  have hreach : Reachable env sys.db := Reaches.drawn_db h
  have hbacked := Reaches.backed h
  refine ⟨?_, ?_⟩
  · intro c hc success chargeId now hdrawn
    exact (hbacked.charges c hc).goes_on hreach.consistent hbacked.receipts success hdrawn now
  · intro i hi providerKey now hkey
    refine ⟨prepare_of_worker hreach.fits hreach.consistent hi hkey now, ?_⟩
    intro key _
    exact prepare_prepares hreach.fits hreach.consistent.tenancy hi hkey key false now

/-- Events that draw charge ids which fit lead from state to state. -/
theorem drawn_reaches_after (env : Env) (sys : Sys) {events : List Event}
    (h : ∀ e ∈ events, e.Drawn) : Reaches (DrawnStep env) sys (sys.after env events) := by
  induction events generalizing sys with
  | nil => exact .refl
  | cons e events ih =>
    simp only [List.mem_cons, forall_eq_or_imp] at h
    unfold Sys.after
    cases hstep : sys.step env e with
    | some sys' => exact .head (.event h.1 hstep) (ih sys' h.2)
    | none => exact ih sys h.2

/-- Two callers charge one attempt.  Both lookups find no receipt, and the first caller draws
one. -/
def racedCallers : Sys :=
  firstCall.after sampleEnv [.recover 1, declinedDraw, declinedDraw,
    .advance 1 true "mock_2" (sampleTime 0 3), .advance 1 true "mock_2" (sampleTime 0 3), declinedDraw]

/-- A report of a success under a charge id that the gateway has not drawn. -/
def contradiction : Operation :=
  .webhook (.str "payment.updated") (.obj [("payment_attempt_id", .int 1), ("status", .str "success"),
    ("provider_charge_id", .str "mock_9")]) "mock" (.str "evt_1") (sampleTime 0 4)

/-- Both callers go on after the provider has contradicted the receipt, and the charge of the
invoice can be prepared again. -/
theorem only_refusals_are_raised_racedCallers : ∃ sys : Sys, sys.charges.length = 2 ∧
    (∃ p ∈ sys.db.attempts, p.providerChargeId = "mock_9") ∧
    (∃ r ∈ sys.db.receipts, r.providerChargeId = "mock_1") ∧
    (∀ c ∈ sys.charges, ∀ success chargeId now, FreshChargeId sys.db chargeId →
      ∃ r, c.next sampleEnv sys.db success chargeId now = .ok r) ∧
    ∃ i ∈ sys.db.invoices, i.id = 1 ∧ ∃ r,
      prepare sys.db i.id none true "key_2" (sampleTime 0 5) = .ok r := by
  have hbefore : Reaches (DrawnStep sampleEnv) Sys.empty beforeCharge :=
    drawn_reaches_after sampleEnv Sys.empty (by simp [subscribed, Event.Drawn])
  have hcalled : Reaches (DrawnStep sampleEnv) beforeCharge firstCall :=
    drawn_reaches_after sampleEnv beforeCharge (by simp [Event.Drawn])
  have hfits : FitsColumn "mock_1" 255 ∧ FitsColumn "mock_2" 255 := by decide
  have hraced : Reaches (DrawnStep sampleEnv) firstCall racedCallers :=
    drawn_reaches_after sampleEnv firstCall (by simp [declinedDraw, Event.Drawn, hfits])
  have hcontradicted : DrawnStep sampleEnv racedCallers
      ⟨racedCallers.db.after sampleEnv [contradiction], racedCallers.charges⟩ :=
    .transact _ (by simp [contradiction]) (apply_eq_after contradiction (by decide +kernel))
  obtain ⟨hcallers, hinvoices⟩ :=
    only_refusals_are_raised (((hbefore.trans hcalled).trans hraced).tail hcontradicted)
  obtain ⟨i, hi, hid⟩ : ∃ i ∈ (racedCallers.db.after sampleEnv [contradiction]).invoices,
      i.id = 1 := by decide +kernel
  have hkey : FreshKey (racedCallers.db.after sampleEnv [contradiction]) "key_2" :=
    ⟨by decide, by decide +kernel⟩
  refine ⟨_, by decide +kernel, by decide +kernel, by decide +kernel, hcallers, i, hi, hid, ?_⟩
  exact (hinvoices i hi "key_2" (sampleTime 0 5) hkey).1

end Chargeflow
