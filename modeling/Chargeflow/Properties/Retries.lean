import Chargeflow.System.Retries

/-!
# Retries of a charge

A charge that stops before its result is settled, any number of times and at any point, and is then
tried once more, ends as if it had never stopped.
-/

namespace Chargeflow

open Foundation PaymentService MockPaymentGateway

/-- The request of a charge under way, once it has been made. -/
def ChargePhase.request : ChargePhase → Option ChargeRequest
  | .requested _ request | .lookedUp _ request _ => some request
  | _ => none

/-- A charge id as the gateway draws one: it fits its column, and no receipt has it. -/
def Drawn (db : Db) (chargeId : String) : Prop :=
  chargeId.length ≤ 255 ∧ ∀ r ∈ db.receipts, r.providerChargeId ≠ chargeId

section

variable (env : Env) (origin : EntryPoint) (db₀ : Db) (invoiceId : ℕ) (providerKey : String)
  (preparedAt : DateTime) (p : PaymentAttempt)

/-- An execution ends with no new attempt but `p`, with one receipt for it, and with the statuses
that the first call alone would have ended with, had the gateway drawn the outcome of this
receipt. -/
def AsUndisturbed (result : Except Err (Db × Option PaymentAttempt)) : Prop :=
  ∃ db' p' r, result = .ok (db', some p') ∧
    (∀ q' ∈ db'.attempts, q'.id = p.id ∨ ∃ q ∈ db₀.attempts, q.id = q'.id) ∧
    r.providerIdempotencyKey = p.providerIdempotencyKey ∧
    db'.receipts = db₀.receipts.insert r ∧
    ∀ settledAt, ∃ db'' p'',
      origin.run env db₀ invoiceId providerKey preparedAt r.success r.providerChargeId settledAt =
        .ok (db'', some p'') ∧
      ∃ statuses, db'.statuses p.id = some statuses ∧ db''.statuses p.id = some statuses

/-- What holds of the system `sys` after any retries of the charge of the attempt `p`, which the
first call created in the database `db₀`. -/
structure Transparent (sys : Sys) : Prop where
  oneAttempt : ∀ q, q ∈ sys.db.attempts ↔ q ∈ db₀.attempts ∨ q = p
  oneReceipt : ∀ r ∈ sys.db.receipts, ∀ r' ∈ sys.db.receipts, r ∉ db₀.receipts →
    r' ∉ db₀.receipts → r = r'
  sameRequest : ∀ c ∈ sys.charges, ∀ request ∈ c.request, request = chargeRequest p
  accepted : ∀ paymentId request seen, ChargePhase.lookedUp paymentId request seen ∈ sys.charges →
    ∀ success chargeId,
      finishCharge env sys.db request seen success chargeId ≠ .error differentParameters
  recovers : ∀ success chargeId settledAt, Drawn sys.db chargeId →
    AsUndisturbed env origin db₀ invoiceId providerKey preparedAt p
      (recoverPending env sys.db p.id false success chargeId settledAt)
  repeats : ∀ key' preparedAt' success chargeId settledAt, Drawn sys.db chargeId →
    AsUndisturbed env origin db₀ invoiceId providerKey preparedAt p
      (origin.run env sys.db invoiceId key' preparedAt' success chargeId settledAt)

end

variable {env : Env}

/-- The retries of a charge do not show: of any number of calls that stop before their settlement
commits, while tokens, totals and currencies are edited, one attempt and at most one receipt
remain, and one more call ends as the first one alone. -/
theorem retries_transparent {origin : EntryPoint} {db₀ db₁ : Db} {invoiceId : ℕ}
    {providerKey : String} {preparedAt : DateTime} {p : PaymentAttempt}
    (hreach : Reaches (GenuineStep env) Db.empty db₀)
    (hprepare : prepare db₀ invoiceId origin.key origin.issuedOnly providerKey preparedAt =
      .ok (db₁, some p, true))
    (hnew : p ∉ db₀.attempts) {sys : Sys}
    (hrun : Reaches (RetryStep env origin invoiceId p.id) ⟨db₁, [.started p.id]⟩ sys) :
    Transparent env origin db₀ invoiceId providerKey preparedAt p sys := by
  obtain ⟨i, s, rfl, hstart, hattempts, hreceipts⟩ := FreshCharge.of_prepare hprepare hnew
  have hstep : Step env db₀ db₁ :=
    ⟨.prepare i.id origin.key origin.issuedOnly providerKey preparedAt,
      map_eq_ok_iff.mpr ⟨_, hprepare, rfl⟩⟩
  have hconsistent : db₁.Consistent := Reachable.consistent ((Reaches.of_genuine hreach).tail hstep)
  -- no receipt was made under the fresh key
  have hfree : ∀ r ∈ db₁.receipts, r.providerIdempotencyKey ≠ p.providerIdempotencyKey := by
    intro r hr hkey
    obtain ⟨q, hq, hqkey⟩ := Reaches.receiptsKeyed hreach r (hreceipts ▸ hr)
    have hqp : q = p := hconsistent.sound.keysUnique.provider q ((hattempts q).mpr (Or.inl hq)) p
      hstart.attempt (hqkey.symm.trans hkey)
    exact hnew (hqp ▸ hq)
  obtain ⟨fp, hfp⟩ :=
    requestFingerprint_of_lengths env (hconsistent.admitted.lengths p hstart.attempt)
  have hretrying : Retrying origin db₁ p i s fp sys :=
    hrun.invariant (I := Retrying origin db₁ p i s fp) (hstart.retrying hconsistent fp)
      fun _ _ _ h hnext => h.step hfree hfp hnext
  obtain ⟨i', hid, hfresh, -⟩ := hretrying.charge
  -- the charge of the last execution, whoever makes it
  have hends : ∀ {success chargeId settledAt} {result : Except Err (Db × Option PaymentAttempt)},
      Drawn sys.db chargeId →
      (∀ db' p', PaymentService.charge env sys.db p.id success chargeId settledAt =
        .ok (db', p') → result = .ok (db', some p')) →
      AsUndisturbed env origin db₀ i.id providerKey preparedAt p result := by
    intro success chargeId settledAt result hdrawn hresult
    obtain ⟨r, db', p', hcharge, hkey, hledger, hrows, hclean⟩ :=
      hretrying.charge_ends hstart hconsistent hfree hfp hdrawn.1 hdrawn.2 settledAt
    refine ⟨db', p', r, hresult db' p' hcharge, ?_, hkey, hreceipts ▸ hledger, ?_⟩
    · intro q' hq'
      obtain ⟨q, hq, hqid⟩ := hrows q' hq'
      rcases (hattempts q).mp hq with hold | rfl
      · exact Or.inr ⟨q, hold, hqid⟩
      · exact Or.inl hqid.symm
    · intro settledAt'
      obtain ⟨db'', p'', hcharge', hstatuses⟩ := hclean settledAt'
      exact ⟨db'', p'', origin.run_of_prepare hprepare hcharge', hstatuses⟩
  refine ⟨hretrying.attempts ▸ hattempts, ?_, ?_, ?_, ?_, ?_⟩
  · intro r hr r' hr' hrnew hrnew'
    rw [← hreceipts] at hrnew hrnew'
    have hledger := hretrying.receipts
    generalize sys.db.receipts = receipts at hr hr' hledger
    cases hledger with
    | unasked => exact absurd hr hrnew
    | answered =>
      rcases Table.mem_insert.mp hr with hr | rfl
      · exact absurd hr hrnew
      · rcases Table.mem_insert.mp hr' with hr' | rfl
        · exact absurd hr' hrnew'
        · rfl
  · intro c hc request hrequest
    have hretries := hretrying.charges c hc
    cases c with
    | requested paymentId request' =>
      obtain rfl := Option.some.inj hrequest
      exact hretries.2
    | lookedUp paymentId request' seen =>
      obtain rfl := Option.some.inj hrequest
      exact hretries.2.1
    | started => cases hrequest
    | answered => cases hrequest
  · intro paymentId request seen hc success chargeId
    obtain ⟨rfl, rfl, hseen⟩ := hretrying.charges _ hc
    exact finishCharge_accepts hfp (hretrying.receipts.honoured hfree) hseen
  · intro success chargeId settledAt hdrawn
    exact hends hdrawn fun db' p' hcharge =>
      recoverPending_of_chargeable hfresh.attempt hfresh.chargeable hcharge
  · intro key' preparedAt' success chargeId settledAt hdrawn
    refine hends hdrawn fun db' p' hcharge => origin.run_of_prepare ?_ hcharge
    rw [← hid]
    exact hfresh.prepare_eq hretrying.consistent.sound.keysUnique (Or.inl rfl) hfresh.issued key'
      preparedAt'

/-- The customer has subscribed, and no charge has been made. -/
def beforeCharge : Sys := Sys.empty.after sampleEnv (subscribed.map .transact)

/-- A call of `attempt` has created its attempt. -/
def firstCall : Sys := beforeCharge.after sampleEnv [.call 1 (some "K") false "key_1" (sampleTime 0 2)]

/-- The caller goes on, and the gateway declines the charge when it is asked. -/
def declinedDraw : Event := .advance 0 false "mock_1" (sampleTime 0 3)

/-- The call stops when it has the answer of the gateway, before it is settled. -/
def answeredCall : Sys := firstCall.after sampleEnv [declinedDraw, declinedDraw, declinedDraw]

/-- Whether the first caller has its result. -/
def firstAnswered (sys : Sys) : Bool :=
  match sys.charges with
  | .answered .. :: _ => true
  | _ => false

/-- The repeated call after a stop is transparent. -/
theorem retries_transparent_stopped :
    ∃ p ∈ answeredCall.db.attempts, (∃ r ∈ answeredCall.db.receipts, r.success = false) ∧
      Transparent sampleEnv (.attempt (some "K")) beforeCharge.db 1 "key_1" (sampleTime 0 2) p
        answeredCall := by
  have hcall : beforeCharge.step sampleEnv (.call 1 (some "K") false "key_1" (sampleTime 0 2)) =
      some firstCall := Sys.step_eq_after _ (by decide +kernel)
  obtain ⟨p, hprepare, hcharges⟩ := Sys.prepare_of_call hcall (by decide +kernel)
  have hstart : (⟨firstCall.db, [.started p.id]⟩ : Sys) = firstCall :=
    congrArg (Sys.mk firstCall.db) hcharges.symm
  have hstep : ∀ sys : Sys, firstAnswered sys = false →
      (sys.step sampleEnv declinedDraw).isSome = true →
      RetryStep sampleEnv (.attempt (some "K")) 1 p.id sys (sys.after sampleEnv [declinedDraw]) := by
    intro sys hfirst hsome
    refine .advance ?_ false (by decide) (sampleTime 0 3) (Sys.step_eq_after declinedDraw hsome)
    intro paymentId result hanswered
    obtain ⟨db, charges⟩ := sys
    cases charges with
    | nil => cases hanswered
    | cons c charges =>
      obtain rfl := Option.some.inj hanswered
      cases hfirst
  have hrun : Reaches (RetryStep sampleEnv (.attempt (some "K")) 1 p.id)
      ⟨firstCall.db, [.started p.id]⟩ answeredCall := by
    rw [hstart]
    exact .head (hstep _ (by decide +kernel) (by decide +kernel))
      (.head (hstep _ (by decide +kernel) (by decide +kernel))
        (.single (hstep _ (by decide +kernel) (by decide +kernel))))
  have hcreated : prepare beforeCharge.db 1 (EntryPoint.attempt (some "K")).key
      (EntryPoint.attempt (some "K")).issuedOnly "key_1" (sampleTime 0 2) =
      .ok (firstCall.db, some p, true) := hprepare
  have hnone : beforeCharge.db.attempts.rows = [] := rfl
  have hnew : p ∉ beforeCharge.db.attempts := by
    rw [Table.mem_def, hnone]
    exact List.not_mem_nil
  have htransparent := retries_transparent
    (Reaches.genuine (sys_reaches_after sampleEnv Sys.empty (subscribed.map .transact))) hcreated
    hnew hrun
  exact ⟨p, (htransparent.oneAttempt p).mpr (Or.inr rfl), by decide +kernel, htransparent⟩

end Chargeflow
