import Chargeflow.Books.Closing
import Chargeflow.System.ChargeState
import Chargeflow.System.Deliveries
import Chargeflow.System.Provider

/-!
# Attempts and the ledger

With a consistent provider a result that is settled for an attempt is the receipt of this attempt.
`ProviderStep` lists what an event of such a system may do to the database.  So every charge id on
record is the one of the receipt of its attempt, and as the charge ids of the receipts are distinct,
none contradicts another.  What is left for a flag is a success that comes too late, for a
subscription that has been CANCELED (`Audited`).
-/

namespace Chargeflow

open Foundation PaymentService MockPaymentGateway

/-- The receipt `r` is the one of the attempt `p`. -/
def ReceiptOf (db : Db) (p : PaymentAttempt) (r : MockChargeReceipt) : Prop :=
  r ∈ db.receipts ∧ r.providerIdempotencyKey = p.providerIdempotencyKey

/-- The receipt of an attempt is a receipt for it. -/
theorem ReceiptOf.hasReceipt {db : Db} {p : PaymentAttempt} {r : MockChargeReceipt}
    (h : ReceiptOf db p r) : HasReceipt db.receipts p r.success :=
  ⟨r, h.1, h.2, rfl⟩

/-- A settlement of the receipt `r` for the attempt `p`. -/
def SettlesReceipt (db db' : Db) (p : PaymentAttempt) (r : MockChargeReceipt) : Prop :=
  p ∈ db.attempts ∧ ReceiptOf db p r ∧ ∃ i ∈ db.invoices, ∃ s ∈ db.subscriptions,
    i.id = p.invoiceId ∧ s.id = i.subscriptionId ∧
    SettledTo db.books db'.books p i s r.providerChargeId
      ((db.books.chargeState p i s r.providerChargeId).settle r.providerChargeId r.success)

/-- What an event may do to the database when the provider is consistent. -/
inductive ProviderStep (db db' : Db) : Prop
  | followed {readings : List DateTime} (h : Follows readings db db')
  | drawn {request : ChargeRequest} {fingerprint : String} {success : Bool} {chargeId : String}
      (hfresh : ∀ r ∈ db.receipts, r.providerChargeId ≠ chargeId) (hbooks : db'.books = db.books)
      (hreceipts : db'.receipts =
        db.receipts.insert (newReceipt request fingerprint success chargeId))
  | settled {p : PaymentAttempt} {r : MockChargeReceipt} (h : SettlesReceipt db db' p r)
      (hreceipts : db'.receipts = db.receipts)

/-- An event that stays away from the books and the ledger. -/
theorem ProviderStep.idle {db db' : Db} (hbooks : db'.books = db.books)
    (hreceipts : db'.receipts = db.receipts) : ProviderStep db db' :=
  @ProviderStep.followed db db' [] (.idle hbooks hreceipts)

/-- Every response in the ledger is the plain one of its outcome. -/
def PlainResponses (db : Db) : Prop :=
  ∀ r ∈ db.receipts, r.providerResponse = outcomeResponse r.success

/-- The result a caller has got is the answer for the receipt of its attempt. -/
def ChargePhase.Quotes (db : Db) : ChargePhase → Prop
  | .answered paymentId result =>
    ∃ p ∈ db.attempts, p.id = paymentId ∧ ∃ r, ReceiptOf db p r ∧ result = answer r
  | _ => True

/-! ## What an event does -/

section

variable {env : Env} {db db' : Db}

/-- The charge id of a result of the gateway is the one of its receipt, also when that is empty. -/
theorem incomingChargeId_outcomeResponse (success : Bool) (c : String) :
    incomingChargeId (outcomeResponse success) c = .str c := by
  by_cases hc : c = ""
  · subst hc
    rfl
  · exact if_pos hc

/-- A settlement with the result of the receipt settles the receipt. -/
theorem settlesReceipt_of_settle (h : db.Consistent) {p : PaymentAttempt} (hp : p ∈ db.attempts)
    {r : MockChargeReceipt} (hr : ReceiptOf db p r) {response : List (String × Json)}
    {now : DateTime} {chargeId : String}
    (hincoming : incomingChargeId response chargeId = .str r.providerChargeId)
    (hsettle : settle env db p.id r.success response chargeId now = .ok db') :
    SettlesReceipt db db' p r ∧ db'.receipts = db.receipts := by
  obtain ⟨i, hi, s, hs, hpi, hsi⟩ := h.rows hp
  rcases settle_step h hp hi hpi hs hsi r.success hincoming now with
    ⟨b', hcommits, hsettled⟩ | ⟨⟨e, haborts⟩, -⟩
  · obtain rfl := Except.ok.inj (hsettle.symm.trans hcommits)
    exact ⟨⟨hp, hr, i, hi, s, hs, hpi, hsi, hsettled⟩, rfl⟩
  · rw [haborts] at hsettle
    cases hsettle

/-- A delivered webhook settles the receipt of its attempt, or touches nothing but the events. -/
theorem handleWebhook_providerStep (hdb : db.Consistent) {eventType payload : Json}
    {provider : String} {providerEventId : Json} {now : DateTime}
    (h : handleWebhook env db eventType payload provider providerEventId now = .ok db')
    (hdeliverable : deliverable db payload = true) : ProviderStep db db' := by
  rw [handleWebhook_eq] at h
  obtain ⟨event, hvalid, h⟩ := bind_eq_ok_iff.mp h
  split_ifs at h with hseen
  · obtain rfl := pure_eq_ok_iff.mp h
    exact .idle rfl rfl
  rw [Bool.not_eq_true] at hseen
  cases hnamed : namedAttempt db event.payload with
  | none =>
    rw [recordWebhook_of_unnamed hseen hnamed] at h
    obtain rfl := Except.ok.inj h
    exact .idle rfl rfl
  | some p =>
    have hp : p ∈ db.attempts := namedAttempt_mem hnamed
    rw [(validateWebhook_eq_ok hvalid).1] at hdeliverable
    simp only [deliverable, hnamed, Option.all_some, Option.any_eq_true, Bool.and_eq_true,
      beq_iff_eq] at hdeliverable
    obtain ⟨r, hfind, hsuccess, hcharge⟩ := hdeliverable
    have hr : ReceiptOf db p r := findReceipt_eq_some hfind
    have hincoming : incomingChargeId event.payload (payloadChargeId event.payload) =
        .str r.providerChargeId := by
      rw [hcharge]
      exact if_pos (validateWebhook_chargeId hvalid hnamed).1
    rw [recordWebhook_of_named hseen hnamed, ← hsuccess] at h
    obtain ⟨db₁, hsettle, h⟩ := bind_eq_ok_iff.mp h
    obtain rfl := Except.ok.inj h
    -- the events are no part of what a settlement sees
    obtain ⟨hsettles, hreceipts⟩ := settlesReceipt_of_settle
      (hdb.withEvents (db.webhookEvents.insert (receivedEvent db provider event))) hp hr hincoming
      hsettle
    exact .settled hsettles hreceipts

/-- A caller goes on by a step of the provider. -/
theorem ChargePhase.next_providerStep (hdb : db.Consistent) (hplain : PlainResponses db)
    {success : Bool} {chargeId : String} {now : DateTime} {c : ChargePhase}
    {c' : Option ChargePhase} (h : c.next env db success chargeId now = .ok (db', c'))
    (hagrees : c.Agrees db) (hquotes : c.Quotes db) :
    ProviderStep db db' ∧ ∀ c'' ∈ c', c''.Quotes db' := by
  have hsame : ∀ {c'' : Option ChargePhase}, (∀ c ∈ c'', c.Quotes db) →
      ProviderStep db db ∧ ∀ c ∈ c'', c.Quotes db :=
    fun hq => ⟨.idle rfl rfl, hq⟩
  unfold ChargePhase.next at h
  cases c with
  | started paymentId =>
    obtain ⟨p, -, h⟩ := bind_eq_ok_iff.mp h
    split_ifs at h
    · obtain ⟨rfl, rfl⟩ := Prod.mk.inj (pure_eq_ok_iff.mp h)
      exact hsame fun c'' hc'' => by cases hc''
    · obtain ⟨-, -, h⟩ := bind_eq_ok_iff.mp h
      obtain ⟨rfl, rfl⟩ := Prod.mk.inj (pure_eq_ok_iff.mp h)
      exact hsame fun c'' hc'' => by
        obtain rfl := Option.some.inj hc''
        trivial
  | requested paymentId request =>
    obtain ⟨rfl, rfl⟩ := Prod.mk.inj (Except.ok.inj h)
    exact hsame fun c'' hc'' => by
      obtain rfl := Option.some.inj hc''
      trivial
  | lookedUp paymentId request seen =>
    obtain ⟨⟨db₁, result⟩, hgateway, h⟩ := bind_eq_ok_iff.mp h
    obtain ⟨rfl, rfl⟩ := Prod.mk.inj (pure_eq_ok_iff.mp h)
    obtain ⟨fingerprint, r, -, hanswered, rfl⟩ := finishCharge_eq_ok hgateway
    obtain ⟨⟨p, hp, hpid, hkey⟩, hseen⟩ := hagrees
    obtain ⟨hr, hrkey⟩ := hanswered.recorded hseen
    have hattempts : db₁.attempts = db.attempts := by cases hanswered <;> rfl
    refine ⟨?_, ?_⟩
    · cases hanswered with
      | drawn _ _ hfresh => exact .drawn hfresh rfl rfl
      | _ => exact .idle rfl rfl
    · intro c'' hc''
      obtain rfl := Option.some.inj hc''
      exact ⟨p, hattempts ▸ hp, hpid, r, ⟨hr, hrkey.trans hkey⟩, rfl⟩
  | answered paymentId result =>
    obtain ⟨db₁, hsettle, h⟩ := bind_eq_ok_iff.mp h
    obtain ⟨rfl, rfl⟩ := Prod.mk.inj (pure_eq_ok_iff.mp h)
    obtain ⟨p, hp, rfl, r, hr, rfl⟩ := hquotes
    have hincoming : incomingChargeId (answer r).providerResponse (answer r).providerChargeId =
        .str r.providerChargeId := by
      simp only [answer, hplain r hr.1, incomingChargeId_outcomeResponse]
    obtain ⟨hsettles, hreceipts⟩ := settlesReceipt_of_settle hdb hp hr hincoming hsettle
    exact ⟨.settled hsettles hreceipts, fun c'' hc'' => by cases hc''⟩

end

/-! ## Callers -/

/-- What a caller has got stays true while receipts are only added. -/
theorem ChargePhase.Quotes.mono {db db' : Db} {c : ChargePhase} (h : c.Quotes db)
    (hattempts : db.attempts.Evolves PaymentAttempt.Later db'.attempts)
    (hreceipts : ∀ r ∈ db.receipts, r ∈ db'.receipts) : c.Quotes db' := by
  cases c with
  | answered paymentId result =>
    obtain ⟨p, hp, hpid, r, ⟨hr, hkey⟩, hresult⟩ := h
    obtain ⟨p', hp', hid, hlater⟩ := hattempts.kept p hp
    exact ⟨p', hp', Eq.trans hid hpid, r,
      ⟨hreceipts r hr, hkey.trans hlater.snapshot.providerIdempotencyKey.symm⟩, hresult⟩
  | _ => trivial

/-- The ledger forgets no receipt. -/
theorem ProviderStep.receipts_kept {db db' : Db} (h : ProviderStep db db') :
    ∀ r ∈ db.receipts, r ∈ db'.receipts := by
  intro r hr
  cases h with
  | followed h => exact h.receipts ▸ hr
  | drawn _ _ hreceipts => exact hreceipts ▸ Table.mem_insert_of_mem hr
  | settled _ hreceipts => exact hreceipts ▸ hr

/-- A step of the provider keeps the responses plain. -/
theorem ProviderStep.plain {db db' : Db} (h : ProviderStep db db') (hdb : PlainResponses db) :
    PlainResponses db' := by
  intro r hr
  cases h with
  | followed h => exact hdb r (h.receipts ▸ hr)
  | drawn _ _ hreceipts =>
    rw [hreceipts] at hr
    rcases Table.mem_insert.mp hr with hr | rfl
    · exact hdb r hr
    · rfl
  | settled _ hreceipts => exact hdb r (hreceipts ▸ hr)

/-- The callers quote the ledger. -/
structure Sys.Quoting (sys : Sys) : Prop where
  plain : PlainResponses sys.db
  quotes : ∀ c ∈ sys.charges, c.Quotes sys.db

/-- An event of a system whose callers quote the ledger. -/
theorem SysStep.providerStep {env : Env} {sys sys' : Sys} (h : SysStep env sys sys')
    (hdb : sys.db.Consistent) (hinOrder : sys.InOrder) (hquoting : sys.Quoting) :
    ProviderStep sys.db sys'.db ∧ sys'.Quoting := by
  have hattempts : sys.db.attempts.Evolves PaymentAttempt.Later sys'.db.attempts := by
    rcases h.db with hsame | hstep
    · rw [hsame]
      exact .refl PaymentAttempt.Later.refl _
    · obtain ⟨_, hbooks⟩ := hstep.books
      exact hbooks.attempts
  -- it is enough to look at the callers that have moved
  have hmoved : ProviderStep sys.db sys'.db →
      (∀ c ∈ sys'.charges, c ∈ sys.charges ∨ c.Quotes sys'.db) →
      ProviderStep sys.db sys'.db ∧ sys'.Quoting := by
    intro hstep hcharges
    refine ⟨hstep, hstep.plain hquoting.plain, ?_⟩
    intro c hc
    rcases hcharges c hc with hold | hnew
    · exact (hquoting.quotes c hold).mono hattempts hstep.receipts_kept
    · exact hnew
  have hsame : sys'.db = sys.db → ProviderStep sys.db sys'.db :=
    fun hdb => hdb ▸ .idle rfl rfl
  obtain ⟨e, he⟩ := h
  cases e with
  | transact op =>
    obtain ⟨hpermitted, hop, hcharges⟩ := Sys.transact_eq_some he
    refine hmoved ?_ fun c hc => Or.inl (hcharges ▸ hc)
    by_cases hbrings : op.bringsResult = false
    · exact .followed (op.follows hop hbrings)
    cases op with
    | webhook eventType payload provider providerEventId now =>
      exact handleWebhook_providerStep hdb hop hpermitted
    | gateway => cases hpermitted
    | settle => cases hpermitted
    | _ => exact absurd rfl hbrings
  | call invoiceId key issuedOnly providerKey now =>
    obtain ⟨hop, hcharges⟩ := Sys.call_eq_some he
    refine hmoved (.followed (Operation.follows hop rfl)) ?_
    intro c hc
    rcases hcharges c hc with hold | ⟨paymentId, rfl⟩
    · exact Or.inl hold
    · exact Or.inr trivial
  | recover paymentId =>
    simp only [Sys.step] at he
    split_ifs at he
    obtain rfl := Option.some.inj he
    refine hmoved (hsame rfl) ?_
    intro c hc
    rcases List.mem_append.mp hc with hc | hc
    · exact Or.inl hc
    · rw [List.mem_singleton.mp hc]
      exact Or.inr trivial
  | advance n success chargeId now =>
    obtain ⟨c, hc, c', hnext, hcharges⟩ := Sys.advance_eq_some he
    obtain ⟨hstep, hquotes⟩ := ChargePhase.next_providerStep hdb hquoting.plain hnext
      (hinOrder.agrees c (List.mem_of_getElem? hc)) (hquoting.quotes c (List.mem_of_getElem? hc))
    exact hmoved hstep fun c'' hc'' => (hcharges c'' hc'').imp_right (hquotes c'')
  | crash n =>
    obtain rfl := Option.some.inj he
    exact hmoved (hsame rfl) fun c hc => Or.inl (List.mem_of_mem_eraseIdx hc)

/-! ## What is on record -/

/-- A charge id on record is the one of the receipt of its attempt, and only the attempts of
CANCELED subscriptions are flagged. -/
structure Audited (db : Db) : Prop where
  distinct : ∀ r ∈ db.receipts, ∀ r' ∈ db.receipts, r.providerChargeId = r'.providerChargeId → r = r'
  recorded : ∀ p ∈ db.attempts, p.providerChargeId ≠ "" →
    ∃ r, ReceiptOf db p r ∧ r.providerChargeId = p.providerChargeId
  flagged : ∀ p ∈ db.attempts, p.needsReconciliation = true → OnClosed db.books p

/-- The empty database is audited. -/
theorem Audited.empty : Audited Db.empty where
  distinct r hr := by simp [Db.empty] at hr
  recorded p hp := by simp [Db.empty] at hp
  flagged p hp := by simp [Db.empty] at hp

/-- The attempts after a transaction that settles no charge. -/
theorem Lifecycle.attempts_cases {readings : List DateTime} {b b' : Books}
    (h : Lifecycle readings b b') : b'.attempts = b.attempts ∨ ∃ p : PaymentAttempt,
      p.providerChargeId = "" ∧ p.needsReconciliation = false ∧
      b'.attempts = b.attempts.insert p := by
  cases h with
  | prepared => exact Or.inr ⟨_, rfl, rfl, rfl⟩
  | _ => exact Or.inl rfl

section

variable {env : Env} {readings : List DateTime} {db db' : Db} {p : PaymentAttempt}

/-- A success that cannot be applied comes too late: the invoice has no other charge that
succeeded. -/
theorem onClosed_of_not_applicable (hdb : Sound db.books)
    (htruthful : Truthful db.attempts db.receipts) (hclosed : ClosedTogether db.books)
    (hp : p ∈ db.attempts) (hopen : p.Unsettled) (hcharged : HasReceipt db.receipts p true)
    {i : Invoice} (hi : i ∈ db.invoices) (hpi : i.id = p.invoiceId) {s : Subscription}
    (hs : s ∈ db.subscriptions) (hsi : s.id = i.subscriptionId)
    (hnot : ¬ Applicable db.books p i s) : OnClosed db.books p := by
  have hpending : p.status ≠ .failed := htruthful.not_failed hp hcharged
  -- the one attempt that is not FAILED is not SUCCESS either
  have hnone : ∀ q ∈ db.attempts, q.invoiceId = i.id → q.status ≠ .success := by
    intro q hq hinvoice hsuccess
    obtain rfl := htruthful.single q hq p hp (hinvoice.trans hpi) (by simp [hsuccess]) hpending
    exact hopen.1 hsuccess
  by_cases hcanceled : s.status = .canceled
  · exact ⟨i, hi, hpi, s, hs, hsi, hcanceled⟩
  cases hstatus : i.status with
  | draft => exact absurd hstatus (hdb.inStanding.agrees s hs i hi hsi.symm).issued
  | paid =>
    obtain ⟨q, hq, hinvoice, hsuccess⟩ := (hdb.coupled.paid i hi).mp hstatus
    exact absurd hsuccess (hnone q hq hinvoice)
  | canceled => exact ⟨i, hi, hpi, hclosed i hi hstatus⟩
  | _ =>
    refine absurd ⟨hcanceled, Invoice.payable_iff.mpr (by simp [hstatus]), ?_⟩ hnot
    exact fun q hq hinvoice hsuccess => absurd hsuccess (hnone q hq hinvoice)

/-- A receipt never contradicts what is on record, so its settlement flags the attempt of a CANCELED
subscription only. -/
theorem Audited.flagged_of_settled (h : Audited db) (hdb : db.Consistent)
    (htruthful : Truthful db.attempts db.receipts) (hclosed : ClosedTogether db.books)
    (hp : p ∈ db.attempts) {r : MockChargeReceipt} (hr : ReceiptOf db p r)
    {i : Invoice} (hi : i ∈ db.invoices) (hpi : i.id = p.invoiceId) {s : Subscription}
    (hs : s ∈ db.subscriptions) (hsi : s.id = i.subscriptionId)
    (hflag : ((db.books.chargeState p i s r.providerChargeId).settle r.providerChargeId
      r.success).needsReconciliation = true) : OnClosed db.books p := by
  rcases ChargeState.settle_flagged hflag with hold | hconflict | ⟨-, htaken⟩ |
    ⟨hopen, hsuccess, hnot⟩
  · exact h.flagged p hp hold
  · obtain ⟨r', hr', hcharge⟩ := h.recorded p hp hconflict.1
    have hsame : r' = r := htruthful.unique r' hr'.1 r hr.1 (hr'.2.trans hr.2.symm)
    exact absurd (hsame ▸ hcharge) hconflict.2.2
  · obtain ⟨hne, q, hq, hqp, -, hcharge⟩ := chargeState_taken.mp htaken
    obtain ⟨r', hr', hcharge'⟩ := h.recorded q hq (by rwa [hcharge])
    have hsame : r' = r := h.distinct r' hr'.1 r hr.1 (hcharge'.trans hcharge)
    have hkey : q.providerIdempotencyKey = p.providerIdempotencyKey :=
      hr'.2.symm.trans (hsame ▸ hr.2)
    exact absurd (congrArg _ (hdb.sound.keysUnique.provider q hq p hp hkey)) hqp
  · have hunsettled : p.Unsettled := not_not.mp fun hdone => hopen (chargeState_done.mpr hdone)
    refine onClosed_of_not_applicable hdb.sound htruthful hclosed hp hunsettled
      (hsuccess ▸ hr.hasReceipt) hi hpi hs hsi ?_
    exact fun happ => hnot ((chargeState_open_iff_applicable hpi).mpr happ)

/-- A step of the provider keeps the database audited. -/
theorem ProviderStep.audited (h : ProviderStep db db') (hbooks : BooksStep env readings db.books
    db'.books) (hdb : db.Consistent) (htruthful : Truthful db.attempts db.receipts)
    (hclosed : ClosedTogether db.books) (hauth : Audited db) : Audited db' := by
  -- an attempt that keeps its charge id and its flag
  have hkept : ∀ q ∈ db.attempts, (∀ r ∈ db.receipts, r ∈ db'.receipts) →
      (q.providerChargeId ≠ "" → ∃ r, ReceiptOf db' q r ∧
        r.providerChargeId = q.providerChargeId) ∧
      (q.needsReconciliation = true → OnClosed db'.books q) := by
    intro q hq hreceipts
    refine ⟨?_, ?_⟩
    · intro hcharge
      obtain ⟨r, hr, hid⟩ := hauth.recorded q hq hcharge
      exact ⟨r, ⟨hreceipts r hr.1, hr.2⟩, hid⟩
    · exact fun hflag => hbooks.onClosed (hauth.flagged q hq hflag) rfl
  cases h with
  | followed h =>
    have hattempts : ∀ q' ∈ db'.attempts, q' ∈ db.attempts ∨
        q'.providerChargeId = "" ∧ q'.needsReconciliation = false := by
      intro q' hq'
      rcases h.books.attempts_cases with hsame | ⟨q, hcharge, hflag, hinsert⟩
      · exact Or.inl (show q' ∈ db.books.attempts from hsame ▸ hq')
      · have hmem : q' ∈ db.books.attempts.insert q := hinsert ▸ hq'
        rcases Table.mem_insert.mp hmem with hold | rfl
        · exact Or.inl hold
        · exact Or.inr ⟨hcharge, hflag⟩
    refine ⟨?_, ?_, ?_⟩
    · rw [h.receipts]
      exact hauth.distinct
    · intro q' hq' hcharge
      rcases hattempts q' hq' with hold | ⟨hempty, -⟩
      · exact (hkept q' hold fun r hr => h.receipts ▸ hr).1 hcharge
      · exact absurd hempty hcharge
    · intro q' hq' hflag
      rcases hattempts q' hq' with hold | ⟨-, hnot⟩
      · exact (hkept q' hold fun r hr => h.receipts ▸ hr).2 hflag
      · simp [hnot] at hflag
  | drawn hfresh hsame hreceipts =>
    have hattempts : db'.attempts = db.attempts := congrArg Books.attempts hsame
    have hmono : ∀ r ∈ db.receipts, r ∈ db'.receipts :=
      fun r hr => hreceipts ▸ Table.mem_insert_of_mem hr
    refine ⟨?_, ?_, ?_⟩
    · intro r hr r' hr' hcharge
      rw [hreceipts] at hr hr'
      rcases Table.mem_insert.mp hr with hr | rfl <;>
        rcases Table.mem_insert.mp hr' with hr' | rfl
      · exact hauth.distinct r hr r' hr' hcharge
      · exact absurd hcharge (hfresh r hr)
      · exact absurd hcharge.symm (hfresh r' hr')
      · rfl
    · rw [hattempts]
      exact fun q hq => (hkept q hq hmono).1
    · rw [hattempts]
      exact fun q hq => (hkept q hq hmono).2
  | @settled p r h hreceipts =>
    obtain ⟨hp, hr, i, hi, s, hs, hpi, hsi, p', i', s', hversions, hrows, hstate⟩ := h
    have hmono : ∀ r ∈ db.receipts, r ∈ db'.receipts := fun r hr => hreceipts ▸ hr
    have hattempts : db'.attempts = db.attempts.update p' := congrArg Books.attempts hrows
    have hcases : ∀ q' ∈ db'.attempts, q' = p' ∨ q' ∈ db.attempts := by
      intro q' hq'
      rw [hattempts] at hq'
      exact (Table.mem_update_of_mem hp hversions.attempt.id).mp hq' |>.imp_right And.left
    have hcharge : p'.providerChargeId = p.providerChargeId ∨
        p'.providerChargeId = r.providerChargeId := by
      have hbound := ChargeState.settle_providerChargeId
        (db.books.chargeState p i s r.providerChargeId) r.providerChargeId r.success
      rwa [← hstate] at hbound
    have hflag : p'.needsReconciliation = ((db.books.chargeState p i s
        r.providerChargeId).settle r.providerChargeId r.success).needsReconciliation :=
      congrArg ChargeState.needsReconciliation hstate
    have hkey : p'.providerIdempotencyKey = p.providerIdempotencyKey :=
      hversions.attempt.providerIdempotencyKey
    refine ⟨by rw [hreceipts]; exact hauth.distinct, ?_, ?_⟩
    · intro q' hq' hne
      rcases hcases q' hq' with rfl | hold
      · rcases hcharge with hsame | hnew
        · obtain ⟨r', hr', hid⟩ := hauth.recorded p hp (hsame ▸ hne)
          exact ⟨r', ⟨hmono r' hr'.1, hr'.2.trans hkey.symm⟩, hid.trans hsame.symm⟩
        · exact ⟨r, ⟨hmono r hr.1, hr.2.trans hkey.symm⟩, hnew.symm⟩
      · exact (hkept q' hold hmono).1 hne
    · intro q' hq' hflagged
      rcases hcases q' hq' with rfl | hold
      · have hclosedBefore := hauth.flagged_of_settled hdb htruthful hclosed hp hr hi hpi hs hsi
          (hflag.symm.trans hflagged)
        exact hbooks.onClosed hclosedBefore hversions.attempt.invoiceId
      · exact (hkept q' hold hmono).2 hflagged

end

/-- What holds of every system with a consistent provider. -/
structure Sys.Audited (sys : Sys) : Prop where
  quoting : sys.Quoting
  closedTogether : ClosedTogether sys.db.books
  audited : Chargeflow.Audited sys.db

/-- Along a run the system stays audited. -/
theorem Reaches.audited {env : Env} {sys : Sys} (h : Reaches (SysStep env) Sys.empty sys) :
    sys.Audited := by
  refine h.invariant (I := Sys.Audited) ?_ ?_
  · refine ⟨⟨?_, ?_⟩, ?_, .empty⟩
    · intro r hr
      simp [Sys.empty, Db.empty] at hr
    · intro c hc
      simp [Sys.empty] at hc
    · intro i hi
      simp [Sys.empty, Db.empty, Db.books] at hi
  · intro a b hreach ha hstep
    have hconsistent := (Reaches.db hreach).consistent
    have hinOrder := Reaches.inOrder hreach
    obtain ⟨hprovider, hquoting⟩ := hstep.providerStep hconsistent hinOrder ha.quoting
    rcases hstep.db with hsame | hdb
    · exact ⟨hquoting, hsame ▸ ha.closedTogether, hsame ▸ ha.audited⟩
    · obtain ⟨readings, hbooks⟩ := hdb.books
      exact ⟨hquoting, hbooks.closedTogether ha.closedTogether,
        hprovider.audited hbooks hconsistent hinOrder.truthful ha.closedTogether ha.audited⟩

end Chargeflow
