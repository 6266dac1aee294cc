import Chargeflow.Books.Receipts
import Chargeflow.System.Operations

/-!
# A consistent provider

Here the results of the provider are not arbitrary: they come from the gateway, through a charge, or
through a webhook that repeats what the receipt of the attempt says.  A caller of `_charge` stands
at one of four points (`ChargePhase`): it has the key of an attempt, it has read the attempt and
made a request of it, the lookup in the ledger has answered, or it has the result to be settled.
Between any two of these points everything else may happen, and any caller may stop for good.

The system refines the open one of `Operation`: seen from the database, each of its events is a
transaction or changes nothing (`SysStep.db`).
-/

namespace Chargeflow

open Foundation PaymentService MockPaymentGateway

/-! ## Events -/

/-- A charge under way, at the point where its caller stands. -/
inductive ChargePhase where
  | started (paymentId : ℕ)
  | requested (paymentId : ℕ) (request : ChargeRequest)
  | lookedUp (paymentId : ℕ) (request : ChargeRequest) (seen : Option MockChargeReceipt)
  | answered (paymentId : ℕ) (result : ChargeResult)

/-- `_charge` up to the next point where other callers may run.  `success` and `chargeId` are the
draws of the gateway. -/
def ChargePhase.next (env : Env) (db : Db) (success : Bool) (chargeId : String) (now : DateTime) :
    ChargePhase → Except Err (Db × Option ChargePhase)
  | .started paymentId => do
    let payment ← fetch db.attempts "PaymentAttempt" paymentId
    if !chargeable payment then
      return (db, none)
    getPaymentGateway payment.provider
    return (db, some (.requested paymentId (chargeRequest payment)))
  | .requested paymentId request =>
    .ok (db, some (.lookedUp paymentId request (findReceipt db request.idempotencyKey)))
  | .lookedUp paymentId request seen => do
    let (db, result) ← finishCharge env db request seen success chargeId
    return (db, some (.answered paymentId result))
  | .answered paymentId result => do
    let db ← settle env db paymentId result.success result.providerResponse
      result.providerChargeId now
    return (db, none)

/-- The database, and the charges under way. -/
structure Sys where
  db : Db
  charges : List ChargePhase

/-- Nothing is stored and no charge is under way. -/
def Sys.empty : Sys := ⟨Db.empty, []⟩

/-- A consistent provider delivers a webhook: the attempt it names has a receipt, and the webhook
repeats its outcome and its charge id. -/
def deliverable (db : Db) : Json → Bool
  | .obj payload => (namedAttempt db payload).all fun p =>
    (findReceipt db p.providerIdempotencyKey).any fun r =>
      r.success == payloadSuccess payload && r.providerChargeId == payloadChargeId payload
  | _ => true

/-- The transactions that run by themselves: the gateway is only called by a charge under way, whose
result is settled by its caller. -/
def permitted (db : Db) : Operation → Bool
  | .gateway .. | .settle .. => false
  | .webhook _ payload _ _ _ => deliverable db payload
  | _ => true

/-- The events of the system: transactions and the phases of charges. -/
inductive Event where
  | transact (op : Operation)
  /-- `attempt` or `charge_issued` prepares a charge, and goes on with it if the provider is to be
  called. -/
  | call (invoiceId : ℕ) (key : Option String) (issuedOnly : Bool) (providerKey : String)
      (now : DateTime)
  /-- `recover_pending` finds a PENDING attempt. -/
  | recover (paymentId : ℕ)
  /-- The caller of a charge under way goes on. -/
  | advance (n : ℕ) (success : Bool) (chargeId : String) (now : DateTime)
  /-- The caller of a charge under way stops. -/
  | crash (n : ℕ)

/-- The system after an event, if the event can happen. -/
def Sys.step (env : Env) (sys : Sys) : Event → Option Sys
  | .transact op =>
    if permitted sys.db op then
      match op.apply env sys.db with
      | .ok db => some { sys with db := db }
      | .error _ => none
    else none
  | .call invoiceId key issuedOnly providerKey now =>
    match prepare sys.db invoiceId key issuedOnly providerKey now with
    | .ok (db, some payment, true) => some ⟨db, sys.charges ++ [.started payment.id]⟩
    | .ok (db, _, _) => some { sys with db := db }
    | .error _ => none
  | .recover paymentId =>
    if (sys.db.attempts.get? paymentId).any chargeable then
      some { sys with charges := sys.charges ++ [.started paymentId] }
    else none
  | .advance n success chargeId now =>
    match sys.charges[n]? with
    | none => none
    | some c =>
      match c.next env sys.db success chargeId now with
      | .ok (db, some c') => some ⟨db, sys.charges.set n c'⟩
      | .ok (db, none) => some ⟨db, sys.charges.eraseIdx n⟩
      | .error _ => none
  | .crash n => some { sys with charges := sys.charges.eraseIdx n }

/-- The steps of the system with a provider. -/
def SysStep (env : Env) (sys sys' : Sys) : Prop := ∃ e : Event, sys.step env e = some sys'

/-- The system after a list of events.  One that cannot happen changes nothing. -/
def Sys.after (env : Env) (sys : Sys) : List Event → Sys
  | [] => sys
  | e :: events => ((sys.step env e).getD sys).after env events

/-- A run of events consists of steps. -/
theorem sys_reaches_after (env : Env) (sys : Sys) (events : List Event) :
    Reaches (SysStep env) sys (sys.after env events) := by
  induction events generalizing sys with
  | nil => exact Relation.ReflTransGen.refl
  | cons e events ih =>
    unfold Sys.after
    cases hstep : sys.step env e with
    | some sys' => exact Relation.ReflTransGen.head ⟨e, hstep⟩ (ih sys')
    | none => exact ih sys

/-- An event that can happen leads to the system after it. -/
theorem Sys.step_eq_after {env : Env} {sys : Sys} (e : Event)
    (h : (sys.step env e).isSome = true) : sys.step env e = some (sys.after env [e]) := by
  unfold Sys.after Sys.after
  cases hstep : sys.step env e with
  | some sys' => rfl
  | none => simp [hstep] at h

/-- A transaction of the system is a permitted operation. -/
theorem Sys.transact_eq_some {env : Env} {sys sys' : Sys} {op : Operation}
    (h : sys.step env (.transact op) = some sys') :
    permitted sys.db op = true ∧ op.apply env sys.db = .ok sys'.db ∧
      sys'.charges = sys.charges := by
  simp only [Sys.step] at h
  split_ifs at h with hpermitted
  split at h
  · rename_i db hop
    obtain rfl := Option.some.inj h
    exact ⟨hpermitted, hop, rfl⟩
  · cases h

/-- What a call of `attempt` or `charge_issued` does to the system. -/
theorem Sys.call_eq_some {env : Env} {sys sys' : Sys} {invoiceId : ℕ} {key : Option String}
    {issuedOnly : Bool} {providerKey : String} {now : DateTime}
    (h : sys.step env (.call invoiceId key issuedOnly providerKey now) = some sys') :
    (Operation.prepare invoiceId key issuedOnly providerKey now).apply env sys.db = .ok sys'.db ∧
      ∀ c ∈ sys'.charges, c ∈ sys.charges ∨ ∃ paymentId, c = .started paymentId := by
  simp only [Sys.step] at h
  cases hrun : prepare sys.db invoiceId key issuedOnly providerKey now with
  | error e => simp [hrun] at h
  | ok r =>
    have happly : ∀ {db : Db}, r.1 = db →
        (Operation.prepare invoiceId key issuedOnly providerKey now).apply env sys.db = .ok db :=
      fun hdb => map_eq_ok_iff.mpr ⟨r, hrun, hdb⟩
    rw [hrun] at h
    split at h
    · rename_i db payment hr
      obtain rfl := Option.some.inj h
      refine ⟨happly (congrArg Prod.fst (Except.ok.inj hr)), ?_⟩
      intro c hc
      rcases List.mem_append.mp hc with hc | hc
      · exact Or.inl hc
      · exact Or.inr ⟨payment.id, List.mem_singleton.mp hc⟩
    · rename_i db payment shouldCharge _ hr
      obtain rfl := Option.some.inj h
      exact ⟨happly (congrArg Prod.fst (Except.ok.inj hr)), fun c hc => Or.inl hc⟩
    · cases h

/-- A call that goes on with a charge has prepared its attempt. -/
theorem Sys.prepare_of_call {env : Env} {sys sys' : Sys} {invoiceId : ℕ} {key : Option String}
    {issuedOnly : Bool} {providerKey : String} {now : DateTime}
    (h : sys.step env (.call invoiceId key issuedOnly providerKey now) = some sys')
    (hmore : sys'.charges.length ≠ sys.charges.length) :
    ∃ p, prepare sys.db invoiceId key issuedOnly providerKey now = .ok (sys'.db, some p, true) ∧
      sys'.charges = sys.charges ++ [.started p.id] := by
  simp only [Sys.step] at h
  split at h
  · rename_i db p hrun
    obtain rfl := Option.some.inj h
    exact ⟨p, hrun, rfl⟩
  · obtain rfl := Option.some.inj h
    exact absurd rfl hmore
  · cases h

/-- What the caller of a charge under way does to the system. -/
theorem Sys.advance_eq_some {env : Env} {sys sys' : Sys} {n : ℕ} {success : Bool}
    {chargeId : String} {now : DateTime}
    (h : sys.step env (.advance n success chargeId now) = some sys') :
    ∃ c, sys.charges[n]? = some c ∧ ∃ c', c.next env sys.db success chargeId now = .ok (sys'.db, c') ∧
      ∀ c'' ∈ sys'.charges, c'' ∈ sys.charges ∨ c'' ∈ c' := by
  simp only [Sys.step] at h
  cases hget : sys.charges[n]? with
  | none => simp [hget] at h
  | some c =>
    rw [hget] at h
    refine ⟨c, rfl, ?_⟩
    dsimp only at h
    split at h
    · rename_i db c' hnext
      obtain rfl := Option.some.inj h
      refine ⟨some c', hnext, ?_⟩
      intro c'' hc''
      rcases List.mem_or_eq_of_mem_set hc'' with hc'' | rfl
      · exact Or.inl hc''
      · exact Or.inr rfl
    · rename_i db hnext
      obtain rfl := Option.some.inj h
      exact ⟨none, hnext, fun c'' hc'' => Or.inl (List.mem_of_mem_eraseIdx hc'')⟩
    · cases h

/-! ## Refinement -/

/-- A charge under way goes on by a transaction that reads the clock once at most, or without
touching the database. -/
theorem ChargePhase.next_operation {env : Env} {db db' : Db} {success : Bool} {chargeId : String}
    {now : DateTime} {c : ChargePhase} {c' : Option ChargePhase}
    (h : c.next env db success chargeId now = .ok (db', c')) : db' = db ∨
      ∃ op : Operation, op.readings.Pairwise (· ≤ ·) ∧ op.apply env db = .ok db' := by
  unfold ChargePhase.next at h
  cases c with
  | started paymentId =>
    obtain ⟨payment, -, h⟩ := bind_eq_ok_iff.mp h
    split_ifs at h
    · exact Or.inl (congrArg Prod.fst (pure_eq_ok_iff.mp h)).symm
    · obtain ⟨-, -, h⟩ := bind_eq_ok_iff.mp h
      exact Or.inl (congrArg Prod.fst (pure_eq_ok_iff.mp h)).symm
  | requested paymentId request =>
    exact Or.inl (congrArg Prod.fst (Except.ok.inj h)).symm
  | lookedUp paymentId request seen =>
    obtain ⟨⟨db₁, result⟩, hgateway, h⟩ := bind_eq_ok_iff.mp h
    obtain ⟨rfl, -⟩ := Prod.mk.inj (pure_eq_ok_iff.mp h)
    exact Or.inr ⟨.gateway request seen success chargeId, .nil,
      map_eq_ok_iff.mpr ⟨_, hgateway, rfl⟩⟩
  | answered paymentId result =>
    obtain ⟨db₁, hsettle, h⟩ := bind_eq_ok_iff.mp h
    obtain ⟨rfl, -⟩ := Prod.mk.inj (pure_eq_ok_iff.mp h)
    exact Or.inr ⟨.settle paymentId result.success result.providerResponse
      result.providerChargeId now, List.pairwise_singleton .., hsettle⟩

/-- A charge under way goes on by a transaction, or without touching the database. -/
theorem ChargePhase.next_step {env : Env} {db db' : Db} {success : Bool} {chargeId : String}
    {now : DateTime} {c : ChargePhase} {c' : Option ChargePhase}
    (h : c.next env db success chargeId now = .ok (db', c')) : db' = db ∨ Step env db db' := by
  rcases next_operation h with hkept | ⟨op, -, hop⟩
  · exact Or.inl hkept
  · exact Or.inr ⟨op, hop⟩

/-- Seen from the database, an event is a transaction or nothing. -/
theorem SysStep.db {env : Env} {sys sys' : Sys} (h : SysStep env sys sys') :
    sys'.db = sys.db ∨ Step env sys.db sys'.db := by
  obtain ⟨e, h⟩ := h
  cases e with
  | transact op =>
    exact Or.inr ⟨op, (Sys.transact_eq_some h).2.1⟩
  | call invoiceId key issuedOnly providerKey now => exact Or.inr ⟨_, (Sys.call_eq_some h).1⟩
  | recover paymentId =>
    simp only [Sys.step] at h
    split_ifs at h
    obtain rfl := Option.some.inj h
    exact Or.inl rfl
  | advance n success chargeId now =>
    obtain ⟨c, -, c', hnext, -⟩ := Sys.advance_eq_some h
    exact ChargePhase.next_step hnext
  | crash n =>
    obtain rfl := Option.some.inj h
    exact Or.inl rfl

/-- The database of a reached system is reachable. -/
theorem Reaches.db {env : Env} {sys : Sys} (h : Reaches (SysStep env) Sys.empty sys) :
    Reachable env sys.db :=
  h.simulation (f := Sys.db) fun _ _ => SysStep.db

/-! ## Undisturbed charges -/

/-- The caller of the last charge under way goes on. -/
theorem sysStep_last {env : Env} {db db' : Db} {charges : List ChargePhase} {success : Bool}
    {chargeId : String} {now : DateTime} {c : ChargePhase} {c' : Option ChargePhase}
    (h : c.next env db success chargeId now = .ok (db', c')) :
    SysStep env ⟨db, charges ++ [c]⟩ ⟨db', charges ++ c'.toList⟩ := by
  refine ⟨.advance charges.length success chargeId now, ?_⟩
  have hget : (charges ++ [c])[charges.length]? = some c := by simp
  simp only [Sys.step, hget, h]
  cases c' with
  | none => simp [List.eraseIdx_append_of_length_le]
  | some c' => simp

/-- A charge that nothing disturbs is a run of the system. -/
theorem charge_reaches {env : Env} {db db' : Db} {paymentId : ℕ} {success : Bool}
    {chargeId : String} {now : DateTime} {payment : PaymentAttempt}
    (h : PaymentService.charge env db paymentId success chargeId now = .ok (db', payment))
    (charges : List ChargePhase) :
    Reaches (SysStep env) ⟨db, charges ++ [.started paymentId]⟩ ⟨db', charges⟩ := by
  have hlast : ∀ {db db' : Db} {c : ChargePhase} {c' : Option ChargePhase},
      c.next env db success chargeId now = .ok (db', c') →
      SysStep env ⟨db, charges ++ [c]⟩ ⟨db', charges ++ c'.toList⟩ := sysStep_last
  unfold PaymentService.charge at h
  obtain ⟨p, hfetch, h⟩ := bind_eq_ok_iff.mp h
  split_ifs at h with hdone
  · obtain ⟨rfl, rfl⟩ := Prod.mk.inj (pure_eq_ok_iff.mp h)
    have hread : (ChargePhase.started paymentId).next env db success chargeId now =
        .ok (db, none) := by
      simp only [ChargePhase.next, hfetch, bind, Except.bind, if_pos hdone]
      rfl
    have hstep := hlast hread
    simp only [Option.toList_none, List.append_nil] at hstep
    exact .single hstep
  · obtain ⟨_, hprovider, h⟩ := bind_eq_ok_iff.mp h
    obtain ⟨⟨db₁, result⟩, hgateway, h⟩ := bind_eq_ok_iff.mp h
    obtain ⟨db₂, hsettle, h⟩ := bind_eq_ok_iff.mp h
    obtain ⟨q, -, h⟩ := bind_eq_ok_iff.mp h
    obtain ⟨rfl, -⟩ := Prod.mk.inj (pure_eq_ok_iff.mp h)
    have hpid : p.id = paymentId := (fetch_eq_ok_iff.mp hfetch).2
    rw [hpid] at hsettle
    have hread : (ChargePhase.started paymentId).next env db success chargeId now =
        .ok (db, some (.requested paymentId (chargeRequest p))) := by
      simp only [ChargePhase.next, hfetch, hprovider, bind, Except.bind, if_neg hdone]
      rfl
    have hanswer : (ChargePhase.lookedUp paymentId (chargeRequest p)
        (findReceipt db (chargeRequest p).idempotencyKey)).next env db success chargeId now =
        .ok (db₁, some (.answered paymentId result)) :=
      bind_eq_ok_iff.mpr ⟨_, hgateway, rfl⟩
    have hend : (ChargePhase.answered paymentId result).next env db₁ success chargeId now =
        .ok (db₂, none) := bind_eq_ok_iff.mpr ⟨_, hsettle, rfl⟩
    have hstep := hlast hend
    simp only [Option.toList_none, List.append_nil] at hstep
    exact .head (hlast hread) (.head (hlast rfl) (.head (hlast hanswer) (.single hstep)))

/-- A call that prepares a charge and goes on with it, undisturbed, is a run of the system. -/
theorem call_reaches {env : Env} {db db₁ db' : Db} {invoiceId : ℕ} {key : Option String}
    {issuedOnly : Bool} {providerKey : String} {preparedAt settledAt : DateTime}
    {payment result : Option PaymentAttempt} {shouldCharge success : Bool} {chargeId : String}
    (hprepare : prepare db invoiceId key issuedOnly providerKey preparedAt =
      .ok (db₁, payment, shouldCharge))
    (h : (match payment, shouldCharge with
      | some payment, true => do
        let (db, payment) ← PaymentService.charge env db₁ payment.id success chargeId settledAt
        return (db, some payment)
      | payment, _ => return (db₁, payment)) = Except.ok (db', result))
    (charges : List ChargePhase) : Reaches (SysStep env) ⟨db, charges⟩ ⟨db', charges⟩ := by
  have hcall : ∀ {sys : Sys}, (⟨db, charges⟩ : Sys).step env
      (.call invoiceId key issuedOnly providerKey preparedAt) = some sys →
      SysStep env ⟨db, charges⟩ sys := fun hstep => ⟨_, hstep⟩
  split at h
  · rename_i p
    obtain ⟨⟨db₂, q⟩, hcharge, h⟩ := bind_eq_ok_iff.mp h
    obtain ⟨rfl, -⟩ := Prod.mk.inj (pure_eq_ok_iff.mp h)
    exact .head (hcall (by simp [Sys.step, hprepare])) (charge_reaches hcharge charges)
  · rename_i hnot
    obtain ⟨rfl, -⟩ := Prod.mk.inj (pure_eq_ok_iff.mp h)
    refine .single (hcall ?_)
    cases payment with
    | none => simp [Sys.step, hprepare]
    | some p =>
      cases shouldCharge with
      | false => simp [Sys.step, hprepare]
      | true => exact absurd rfl (hnot p rfl)

/-- An undisturbed `attempt`. -/
theorem attempt_reaches {env : Env} {db db' : Db} {invoiceId : ℕ} {key : Option String}
    {inAtomicBlock success : Bool} {providerKey chargeId : String} {preparedAt settledAt : DateTime}
    {result : Option PaymentAttempt}
    (h : attempt env db invoiceId key inAtomicBlock providerKey preparedAt success chargeId
      settledAt = .ok (db', result))
    (charges : List ChargePhase) : Reaches (SysStep env) ⟨db, charges⟩ ⟨db', charges⟩ := by
  obtain ⟨_, -, h⟩ := bind_eq_ok_iff.mp h
  obtain ⟨⟨db₁, payment, shouldCharge⟩, hprepare, h⟩ := bind_eq_ok_iff.mp h
  exact call_reaches hprepare h charges

/-- An undisturbed task of the charge worker. -/
theorem chargeIssued_reaches {env : Env} {db db' : Db} {invoiceId : ℕ}
    {inAtomicBlock success : Bool} {providerKey chargeId : String} {preparedAt settledAt : DateTime}
    {result : Option PaymentAttempt}
    (h : chargeIssued env db invoiceId inAtomicBlock providerKey preparedAt success chargeId
      settledAt = .ok (db', result))
    (charges : List ChargePhase) : Reaches (SysStep env) ⟨db, charges⟩ ⟨db', charges⟩ := by
  obtain ⟨_, -, h⟩ := bind_eq_ok_iff.mp h
  obtain ⟨⟨db₁, payment, shouldCharge⟩, hprepare, h⟩ := bind_eq_ok_iff.mp h
  exact call_reaches hprepare h charges

/-- An undisturbed recovery of a PENDING attempt. -/
theorem recoverPending_reaches {env : Env} {db db' : Db} {paymentId : ℕ}
    {inAtomicBlock success : Bool} {chargeId : String} {settledAt : DateTime}
    {result : Option PaymentAttempt}
    (h : recoverPending env db paymentId inAtomicBlock success chargeId settledAt =
      .ok (db', result))
    (charges : List ChargePhase) : Reaches (SysStep env) ⟨db, charges⟩ ⟨db', charges⟩ := by
  obtain ⟨_, -, h⟩ := bind_eq_ok_iff.mp h
  split at h
  · obtain ⟨rfl, -⟩ := Prod.mk.inj (pure_eq_ok_iff.mp h)
    exact Relation.ReflTransGen.refl
  · rename_i p hfind
    obtain ⟨⟨db₁, q⟩, hcharge, h⟩ := bind_eq_ok_iff.mp h
    obtain ⟨rfl, -⟩ := Prod.mk.inj (pure_eq_ok_iff.mp h)
    obtain ⟨hp, htest⟩ := Table.head?_filter_eq_some hfind
    simp only [Bool.and_eq_true, beq_iff_eq] at htest
    have hget : db.attempts.get? p.id = some p := Table.get?_key hp
    refine .head ⟨.recover p.id, ?_⟩ (charge_reaches hcharge charges)
    simp [Sys.step, hget, htest.2]

/-! ## Charges under way and receipts -/

/-- What a caller knows agrees with the database: its request is made of the attempt, and the
receipt it has seen and the result it has got are those of the attempt. -/
def ChargePhase.Agrees (db : Db) : ChargePhase → Prop
  | .started _ => True
  | .requested paymentId request => ∃ p ∈ db.attempts, p.id = paymentId ∧
    request.idempotencyKey = p.providerIdempotencyKey
  | .lookedUp paymentId request seen =>
    (∃ p ∈ db.attempts, p.id = paymentId ∧ request.idempotencyKey = p.providerIdempotencyKey) ∧
      ∀ r ∈ seen, r ∈ db.receipts ∧ r.providerIdempotencyKey = request.idempotencyKey
  | .answered paymentId result => ∃ p ∈ db.attempts, p.id = paymentId ∧
    HasReceipt db.receipts p result.success

/-- The attempts tell the truth about the ledger, and so do the callers. -/
structure Sys.InOrder (sys : Sys) : Prop where
  truthful : Truthful sys.db.attempts sys.db.receipts
  agrees : ∀ c ∈ sys.charges, c.Agrees sys.db

/-- What a caller knows stays true while receipts are only added. -/
theorem ChargePhase.Agrees.mono {db db' : Db} {c : ChargePhase} (h : c.Agrees db)
    (hattempts : db.attempts.Evolves PaymentAttempt.Later db'.attempts)
    (hreceipts : ∀ r ∈ db.receipts, r ∈ db'.receipts) : c.Agrees db' := by
  have hrequest : ∀ {paymentId : ℕ} {key : String},
      (∃ p ∈ db.attempts, p.id = paymentId ∧ key = p.providerIdempotencyKey) →
      ∃ p ∈ db'.attempts, p.id = paymentId ∧ key = p.providerIdempotencyKey := by
    rintro paymentId key ⟨p, hp, rfl, rfl⟩
    obtain ⟨p', hp', hid, hlater⟩ := hattempts.kept p hp
    exact ⟨p', hp', hid, hlater.snapshot.providerIdempotencyKey.symm⟩
  cases c with
  | started paymentId => trivial
  | requested paymentId request => exact hrequest h
  | lookedUp paymentId request seen =>
    exact ⟨hrequest h.1, fun r hr => ⟨hreceipts r (h.2 r hr).1, (h.2 r hr).2⟩⟩
  | answered paymentId result =>
    obtain ⟨p, hp, hpid, r, hr, hkey, hsuccess⟩ := h
    obtain ⟨p', hp', hid, hlater⟩ := hattempts.kept p hp
    exact ⟨p', hp', Eq.trans hid hpid, r, hreceipts r hr,
      hkey.trans hlater.snapshot.providerIdempotencyKey.symm, hsuccess⟩

/-- A delivered webhook settles its attempt with the outcome of its receipt. -/
theorem hasReceipt_of_deliverable {db : Db} {payload : List (String × Json)} {p : PaymentAttempt}
    (h : deliverable db (.obj payload) = true) (hp : namedAttempt db payload = some p) :
    HasReceipt db.receipts p (payloadSuccess payload) := by
  simp only [deliverable, hp, Option.all_some, Option.any_eq_true, Bool.and_eq_true,
    beq_iff_eq] at h
  obtain ⟨r, hfind, hsuccess, -⟩ := h
  obtain ⟨hr, hkey⟩ := findReceipt_eq_some hfind
  exact ⟨r, hr, hkey, hsuccess⟩

/-- A permitted transaction leaves the ledger alone, and the attempts tell the truth about it. -/
theorem permitted_truthful {env : Env} {db db' : Db} {op : Operation}
    (h : op.apply env db = .ok db') (hop : permitted db op = true)
    (hdb : Truthful db.attempts db.receipts) :
    Truthful db'.attempts db'.receipts ∧ db'.receipts = db.receipts := by
  by_cases hbrings : op.bringsResult = false
  · have hfollows := op.follows h hbrings
    rw [hfollows.receipts]
    exact ⟨hfollows.books.truthful hdb, rfl⟩
  cases op with
  | webhook eventType payload provider providerEventId now =>
    obtain ⟨event, hevent, hreceipts, hbooks⟩ := handleWebhook_eq_ok h
    rw [hreceipts]
    refine ⟨?_, rfl⟩
    rcases hbooks with ⟨hsame, -⟩ | ⟨p, hp, hsettles⟩
    · have hattempts : db'.attempts = db.attempts := congrArg Books.attempts hsame
      rwa [hattempts]
    · rw [(validateWebhook_eq_ok hevent).1] at hop
      exact hsettles.truthful hdb (hasReceipt_of_deliverable hop hp)
  | gateway => cases hop
  | settle => cases hop
  | _ => exact absurd rfl hbrings

/-- A caller goes on with what it knows. -/
theorem ChargePhase.next_inOrder {env : Env} {db db' : Db} {success : Bool} {chargeId : String}
    {now : DateTime} {c : ChargePhase} {c' : Option ChargePhase}
    (h : c.next env db success chargeId now = .ok (db', c'))
    (hdb : Truthful db.attempts db.receipts) (hc : c.Agrees db) :
    Truthful db'.attempts db'.receipts ∧ (∀ r ∈ db.receipts, r ∈ db'.receipts) ∧
      ∀ c'' ∈ c', c''.Agrees db' := by
  unfold ChargePhase.next at h
  cases c with
  | started paymentId =>
    obtain ⟨p, hfetch, h⟩ := bind_eq_ok_iff.mp h
    obtain ⟨hp, hpid⟩ := fetch_eq_ok_iff.mp hfetch
    split_ifs at h
    · obtain ⟨rfl, rfl⟩ := Prod.mk.inj (pure_eq_ok_iff.mp h)
      exact ⟨hdb, fun r hr => hr, fun c'' hc'' => by cases hc''⟩
    · obtain ⟨-, -, h⟩ := bind_eq_ok_iff.mp h
      obtain ⟨rfl, rfl⟩ := Prod.mk.inj (pure_eq_ok_iff.mp h)
      refine ⟨hdb, fun r hr => hr, ?_⟩
      intro c'' hc''
      obtain rfl := Option.some.inj hc''
      exact ⟨p, hp, hpid, rfl⟩
  | requested paymentId request =>
    obtain ⟨rfl, rfl⟩ := Prod.mk.inj (Except.ok.inj h)
    refine ⟨hdb, fun r hr => hr, ?_⟩
    intro c'' hc''
    obtain rfl := Option.some.inj hc''
    exact ⟨hc, fun r hr => findReceipt_eq_some hr⟩
  | lookedUp paymentId request seen =>
    obtain ⟨⟨db₁, result⟩, hgateway, h⟩ := bind_eq_ok_iff.mp h
    obtain ⟨rfl, rfl⟩ := Prod.mk.inj (pure_eq_ok_iff.mp h)
    obtain ⟨fingerprint, r, -, hanswered, rfl⟩ := finishCharge_eq_ok hgateway
    obtain ⟨⟨p, hp, hpid, hkey⟩, hseen⟩ := hc
    obtain ⟨hr, hrkey⟩ := hanswered.recorded hseen
    have hattempts : db₁.attempts = db.attempts := by cases hanswered <;> rfl
    refine ⟨hanswered.truthful hdb, hanswered.kept, ?_⟩
    intro c'' hc''
    obtain rfl := Option.some.inj hc''
    exact ⟨p, hattempts ▸ hp, hpid, r, hr, hrkey.trans hkey, rfl⟩
  | answered paymentId result =>
    obtain ⟨db₁, hsettle, h⟩ := bind_eq_ok_iff.mp h
    obtain ⟨rfl, rfl⟩ := Prod.mk.inj (pure_eq_ok_iff.mp h)
    obtain ⟨p, b', hpid, hsettles, rfl⟩ := settle_eq_ok hsettle
    obtain ⟨q, hq, hqid, hreceipt⟩ := hc
    obtain rfl := Table.eq_of_key_eq hsettles.1 hq (hpid.trans hqid.symm)
    exact ⟨hsettles.truthful hdb hreceipt, fun r hr => hr, fun c'' hc'' => by cases hc''⟩

/-- A step keeps the attempts and the callers truthful. -/
theorem Sys.InOrder.step {env : Env} {sys sys' : Sys} (h : sys.InOrder)
    (hstep : SysStep env sys sys') : sys'.InOrder := by
  have hattempts : sys.db.attempts.Evolves PaymentAttempt.Later sys'.db.attempts := by
    rcases hstep.db with hsame | hdb
    · rw [hsame]
      exact .refl PaymentAttempt.Later.refl _
    · obtain ⟨_, hbooks⟩ := hdb.books
      exact hbooks.attempts
  -- it is enough to look at the ledger and at the callers that have moved
  have hmoved : Truthful sys'.db.attempts sys'.db.receipts →
      (∀ r ∈ sys.db.receipts, r ∈ sys'.db.receipts) →
      (∀ c ∈ sys'.charges, c ∈ sys.charges ∨ c.Agrees sys'.db) → sys'.InOrder := by
    intro htruthful hreceipts hcharges
    refine ⟨htruthful, ?_⟩
    intro c hc
    rcases hcharges c hc with hold | hnew
    · exact (h.agrees c hold).mono hattempts hreceipts
    · exact hnew
  obtain ⟨e, he⟩ := hstep
  cases e with
  | transact op =>
    obtain ⟨hpermitted, hop, hcharges⟩ := Sys.transact_eq_some he
    obtain ⟨htruthful, hreceipts⟩ := permitted_truthful hop hpermitted h.truthful
    exact hmoved htruthful (fun r hr => hreceipts ▸ hr) fun c hc => Or.inl (hcharges ▸ hc)
  | call invoiceId key issuedOnly providerKey now =>
    obtain ⟨hop, hcharges⟩ := Sys.call_eq_some he
    obtain ⟨htruthful, hreceipts⟩ := permitted_truthful hop rfl h.truthful
    refine hmoved htruthful (fun r hr => hreceipts ▸ hr) ?_
    intro c hc
    rcases hcharges c hc with hold | ⟨paymentId, rfl⟩
    · exact Or.inl hold
    · exact Or.inr trivial
  | recover paymentId =>
    simp only [Sys.step] at he
    split_ifs at he
    obtain rfl := Option.some.inj he
    refine hmoved h.truthful (fun r hr => hr) ?_
    intro c hc
    rcases List.mem_append.mp hc with hc | hc
    · exact Or.inl hc
    · rw [List.mem_singleton.mp hc]
      exact Or.inr trivial
  | advance n success chargeId now =>
    obtain ⟨c, hc, c', hnext, hcharges⟩ := Sys.advance_eq_some he
    obtain ⟨htruthful, hreceipts, hagrees⟩ :=
      ChargePhase.next_inOrder hnext h.truthful (h.agrees c (List.mem_of_getElem? hc))
    exact hmoved htruthful hreceipts fun c'' hc'' => (hcharges c'' hc'').imp_right (hagrees c'')
  | crash n =>
    obtain rfl := Option.some.inj he
    exact hmoved h.truthful (fun r hr => hr) fun c hc => Or.inl (List.mem_of_mem_eraseIdx hc)

/-- Along a run the attempts and the callers stay truthful. -/
theorem Reaches.inOrder {env : Env} {sys : Sys} (h : Reaches (SysStep env) Sys.empty sys) :
    sys.InOrder := by
  refine h.invariant (I := Sys.InOrder) ?_ fun _ _ _ hinOrder hstep => hinOrder.step hstep
  refine ⟨⟨?_, ?_, ?_⟩, ?_⟩
  · intro r hr
    simp [Sys.empty, Db.empty] at hr
  · intro p hp
    simp [Sys.empty, Db.empty] at hp
  · intro p hp
    simp [Sys.empty, Db.empty] at hp
  · intro c hc
    simp [Sys.empty] at hc

end Chargeflow
