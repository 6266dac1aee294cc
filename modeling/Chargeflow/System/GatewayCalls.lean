import Chargeflow.Effects.Fingerprints
import Chargeflow.System.Charging

/-!
# Calls of the mock gateway, statement by statement

`MockPaymentGateway.charge` runs outside any transaction, so other calls run between its statements:
the lookup, the insertion of a receipt by a call that found none, and the second lookup by a call
whose insertion failed.  Each insertion draws its outcome and a charge id that was not drawn before.
Nothing but a call writes to the ledger, whatever happens to the rest of the database.
-/

namespace Chargeflow

open Foundation

namespace MockPaymentGateway

/-- What a call does with the receipt of its key. -/
def replayReceipt (fingerprint : String) (receipt : MockChargeReceipt) :
    Except Err ChargeResult := do
  ensure (receipt.requestFingerprint == fingerprint)
    (.valueError "Provider idempotency key was reused with different parameters.")
  return answer receipt

/-- A receipt with the same fingerprint is replayed. -/
theorem replayReceipt_of_eq {fingerprint : String} {r : MockChargeReceipt}
    (h : r.requestFingerprint = fingerprint) : replayReceipt fingerprint r = .ok (answer r) := by
  unfold replayReceipt ensure
  rw [if_pos (beq_iff_eq.mpr h)]
  rfl

/-- A receipt with another fingerprint is an error. -/
theorem replayReceipt_of_ne {fingerprint : String} {r : MockChargeReceipt}
    (h : r.requestFingerprint ≠ fingerprint) :
    replayReceipt fingerprint r = .error differentParameters := by
  unfold replayReceipt ensure
  rw [if_neg (by simpa using h)]
  rfl

/-- A call accepts the receipt it inserted. -/
theorem replayReceipt_new (request : ChargeRequest) (fingerprint : String) (success : Bool)
    (chargeId : String) (id : ℕ) :
    replayReceipt fingerprint (withKey id (newReceipt request fingerprint success chargeId)) =
      .ok (answer (newReceipt request fingerprint success chargeId)) :=
  replayReceipt_of_eq rfl

/-- A call, after one of its statements on the database. -/
inductive CallPhase where
  /-- There was no receipt; one is to be inserted. -/
  | missed (fingerprint : String)
  /-- The insertion raised an `IntegrityError`; the receipt is to be read again. -/
  | lost (fingerprint : String)
  /-- The call has returned or raised. -/
  | finished (outcome : Except Err ChargeResult)

/-- The call up to its lookup. -/
def lookup (env : Env) (db : Db) (request : ChargeRequest) : CallPhase :=
  match requestFingerprint env request with
  | .error e => .finished (.error e)
  | .ok fingerprint =>
    match findReceipt db request.idempotencyKey with
    | some receipt => .finished (replayReceipt fingerprint receipt)
    | none => .missed fingerprint

/-- The insertion of a receipt. -/
def record (db : Db) (request : ChargeRequest) (fingerprint : String) (success : Bool)
    (chargeId : String) : Db × CallPhase :=
  match checkLength "provider_idempotency_key" request.idempotencyKey 255 with
  | .error e => (db, .finished (.error e))
  | .ok () =>
    let receipt := newReceipt request fingerprint success chargeId
    match insertReceipt db receipt with
    | some db' => (db', .finished (replayReceipt fingerprint (withKey db.receipts.next receipt)))
    | none => (db, .lost fingerprint)

/-- The second lookup. -/
def reread (db : Db) (request : ChargeRequest) (fingerprint : String) : CallPhase :=
  match findReceipt db request.idempotencyKey with
  | some receipt => .finished (replayReceipt fingerprint receipt)
  | none => .finished (.error (.doesNotExist "MockChargeReceipt"))

/-- The outcome of a call whose statements run one after the other. -/
def runCall (env : Env) (db : Db) (request : ChargeRequest) (success : Bool) (chargeId : String) :
    Db × CallPhase :=
  match lookup env db request with
  | .missed fingerprint =>
    match record db request fingerprint success chargeId with
    | (db', .lost fingerprint) => (db', reread db' request fingerprint)
    | finished => finished
  | phase => (db, phase)

/-- Undisturbed, the statements are those of `charge`. -/
theorem charge_eq_runCall (env : Env) (db : Db) (request : ChargeRequest) (success : Bool)
    (chargeId : String) :
    ∃ db' outcome, runCall env db request success chargeId = (db', .finished outcome) ∧
      charge env db request success chargeId = outcome.map fun result => (db', result) := by
  have hreplay : ∀ (db : Db) (fingerprint : String) (r : MockChargeReceipt),
      (do
        ensure (r.requestFingerprint == fingerprint)
          (.valueError "Provider idempotency key was reused with different parameters.")
        return (db, answer r) : Except Err (Db × ChargeResult)) =
        (replayReceipt fingerprint r).map fun result => (db, result) := by
    intro db fingerprint r
    unfold replayReceipt ensure
    split_ifs <;> rfl
  unfold runCall lookup charge finishCharge
  cases requestFingerprint env request with
  | error e => exact ⟨db, .error e, rfl, rfl⟩
  | ok fingerprint =>
    cases hfind : findReceipt db request.idempotencyKey with
    | some r => exact ⟨db, _, rfl, hreplay db fingerprint r⟩
    | none =>
      dsimp only [record]
      cases checkLength "provider_idempotency_key" request.idempotencyKey 255 with
      | error e => exact ⟨db, .error e, rfl, rfl⟩
      | ok =>
        simp only [ok_bind]
        cases insertReceipt db (newReceipt request fingerprint success chargeId) with
        | some db' => exact ⟨db', _, rfl, hreplay db' fingerprint _⟩
        | none =>
          refine ⟨db, .error (.doesNotExist "MockChargeReceipt"), ?_, ?_⟩
          · simp only [reread, hfind]
          · rfl

/-! ## Calls side by side -/

/-- A call that was made. -/
structure Call where
  request : ChargeRequest
  phase : CallPhase

/-- The database, the calls that were made, and the charge ids that were drawn. -/
structure CallSys where
  db : Db
  calls : List Call
  drawn : List String

/-- No call was made. -/
def CallSys.empty : CallSys := ⟨Db.empty, [], []⟩

/-- One statement of one call, or a write to another table than that of the receipts. -/
inductive CallStep (env : Env) : CallSys → CallSys → Prop
  | lookup (db : Db) (calls : List Call) (drawn : List String) (request : ChargeRequest) :
      CallStep env ⟨db, calls, drawn⟩ ⟨db, calls ++ [⟨request, lookup env db request⟩], drawn⟩
  | record {db db' : Db} {calls : List Call} {drawn : List String} {n : ℕ} {request : ChargeRequest}
      {fingerprint chargeId : String} {success : Bool} {phase : CallPhase}
      (hc : calls[n]? = some ⟨request, .missed fingerprint⟩) (hnew : chargeId ∉ drawn)
      (hrecord : record db request fingerprint success chargeId = (db', phase)) :
      CallStep env ⟨db, calls, drawn⟩ ⟨db', calls.set n ⟨request, phase⟩, chargeId :: drawn⟩
  | reread {db : Db} {calls : List Call} {drawn : List String} {n : ℕ} {request : ChargeRequest}
      {fingerprint : String} (hc : calls[n]? = some ⟨request, .lost fingerprint⟩) :
      CallStep env ⟨db, calls, drawn⟩
        ⟨db, calls.set n ⟨request, reread db request fingerprint⟩, drawn⟩
  | elsewhere {db db' : Db} (calls : List Call) (drawn : List String)
      (hreceipts : db'.receipts = db.receipts) : CallStep env ⟨db, calls, drawn⟩ ⟨db', calls, drawn⟩

/-- What an insertion does: the key does not fit, or it is taken, or the receipt is in the
ledger. -/
inductive Recorded (db : Db) (request : ChargeRequest) (fingerprint : String) (success : Bool)
    (chargeId : String) : Db → CallPhase → Prop
  | tooLong (hlength : 255 < request.idempotencyKey.length) :
      Recorded db request fingerprint success chargeId db
        (.finished (.error (.dataError "provider_idempotency_key")))
  | lost {r : MockChargeReceipt} (hr : r ∈ db.receipts)
      (hkey : r.providerIdempotencyKey = request.idempotencyKey) :
      Recorded db request fingerprint success chargeId db (.lost fingerprint)
  | inserted (hlength : request.idempotencyKey.length ≤ 255)
      (hkey : ∀ r ∈ db.receipts, r.providerIdempotencyKey ≠ request.idempotencyKey) :
      Recorded db request fingerprint success chargeId
        { db with receipts := db.receipts.insert (newReceipt request fingerprint success chargeId) }
        (.finished (.ok (answer (newReceipt request fingerprint success chargeId))))

/-- An insertion under a fresh charge id. -/
theorem recorded_of_record {db db' : Db} {request : ChargeRequest} {fingerprint chargeId : String}
    {success : Bool} {phase : CallPhase}
    (hfresh : ∀ r ∈ db.receipts, r.providerChargeId ≠ chargeId)
    (h : record db request fingerprint success chargeId = (db', phase)) :
    Recorded db request fingerprint success chargeId db' phase := by
  unfold record at h
  by_cases hlength : request.idempotencyKey.length ≤ 255
  case neg =>
    simp only [checkLength, ensure, hlength, decide_false, Bool.false_eq_true, if_false,
      Prod.mk.injEq] at h
    obtain ⟨rfl, rfl⟩ := h
    exact .tooLong (not_le.mp hlength)
  simp only [checkLength, ensure, hlength, decide_true, if_true] at h
  unfold insertReceipt at h
  split_ifs at h with htaken
  · obtain ⟨rfl, rfl⟩ := Prod.mk.inj h
    simp only [Table.any_eq_true, Bool.or_eq_true, beq_iff_eq] at htaken
    obtain ⟨r, hr, hkey | hcharge⟩ := htaken
    · exact .lost hr hkey
    · exact absurd hcharge (hfresh r hr)
  · simp only [Bool.not_eq_true, Table.any_eq_false, Bool.or_eq_false_iff,
      beq_eq_false_iff_ne] at htaken
    rw [replayReceipt_new] at h
    obtain ⟨rfl, rfl⟩ := Prod.mk.inj h
    exact .inserted hlength fun r hr => (htaken r hr).1

/-! ## The ledger -/

/-- How a call ends, given the receipts. -/
inductive Outcome (env : Env) (receipts : Table MockChargeReceipt) (request : ChargeRequest) :
    Except Err ChargeResult → Prop
  | unencodable {e : Err} (hfp : requestFingerprint env request = .error e) :
      Outcome env receipts request (.error e)
  | tooLong {fingerprint : String} (hfp : requestFingerprint env request = .ok fingerprint)
      (hlength : 255 < request.idempotencyKey.length) :
      Outcome env receipts request (.error (.dataError "provider_idempotency_key"))
  | replayed {fingerprint : String} (hfp : requestFingerprint env request = .ok fingerprint)
      {r : MockChargeReceipt} (hr : r ∈ receipts)
      (hkey : r.providerIdempotencyKey = request.idempotencyKey) :
      Outcome env receipts request (replayReceipt fingerprint r)

/-- What is known about a call in each of its phases. -/
def Call.Sound (env : Env) (receipts : Table MockChargeReceipt) (c : Call) : Prop :=
  match c.phase with
  | .missed fingerprint => requestFingerprint env c.request = .ok fingerprint
  | .lost fingerprint => requestFingerprint env c.request = .ok fingerprint ∧
      ∃ r ∈ receipts, r.providerIdempotencyKey = c.request.idempotencyKey
  | .finished outcome => Outcome env receipts c.request outcome

/-- The receipts have distinct keys and distinct charge ids, and the call that inserted a receipt
returned it. -/
structure CallSys.Sound (env : Env) (sys : CallSys) : Prop where
  keys : sys.db.receipts.Unique MockChargeReceipt.providerIdempotencyKey
  charges : sys.db.receipts.Unique MockChargeReceipt.providerChargeId
  drawn : ∀ r ∈ sys.db.receipts, r.providerChargeId ∈ sys.drawn
  lengths : ∀ r ∈ sys.db.receipts, r.providerIdempotencyKey.length ≤ 255
  maker : ∀ r ∈ sys.db.receipts, ∃ c ∈ sys.calls,
    c.request.idempotencyKey = r.providerIdempotencyKey ∧
    requestFingerprint env c.request = .ok r.requestFingerprint ∧
    c.phase = .finished (.ok (answer r))
  calls : ∀ c ∈ sys.calls, c.Sound env sys.db.receipts

variable {env : Env}

/-- The outcome of a call stays while receipts are added. -/
theorem Outcome.mono {receipts receipts' : Table MockChargeReceipt} {request : ChargeRequest}
    {outcome : Except Err ChargeResult} (h : Outcome env receipts request outcome)
    (hsub : ∀ r ∈ receipts, r ∈ receipts') : Outcome env receipts' request outcome := by
  cases h with
  | unencodable hfp => exact .unencodable hfp
  | tooLong hfp hlength => exact .tooLong hfp hlength
  | replayed hfp hr hkey => exact .replayed hfp (hsub _ hr) hkey

/-- A sound call stays sound while receipts are added. -/
theorem Call.Sound.mono {receipts receipts' : Table MockChargeReceipt} {c : Call}
    (h : c.Sound env receipts) (hsub : ∀ r ∈ receipts, r ∈ receipts') : c.Sound env receipts' := by
  obtain ⟨request, phase⟩ := c
  cases phase with
  | missed fingerprint => exact h
  | lost fingerprint =>
    obtain ⟨hfp, r, hr, hkey⟩ := h
    exact ⟨hfp, r, hsub r hr, hkey⟩
  | finished outcome => exact Outcome.mono h hsub

/-- Without calls and receipts, the gateway is sound. -/
theorem CallSys.Sound.empty (env : Env) : CallSys.Sound env .empty := by
  constructor <;> simp [CallSys.empty, Db.empty, Table.Unique]

/-- The lookup of a call. -/
theorem sound_lookup (env : Env) (db : Db) (request : ChargeRequest) :
    Call.Sound env db.receipts ⟨request, MockPaymentGateway.lookup env db request⟩ := by
  unfold MockPaymentGateway.lookup
  cases hfp : requestFingerprint env request with
  | error e => exact Outcome.unencodable hfp
  | ok fingerprint =>
    cases hfind : findReceipt db request.idempotencyKey with
    | some r =>
      obtain ⟨hr, hkey⟩ := findReceipt_eq_some hfind
      exact Outcome.replayed hfp hr hkey
    | none => exact hfp

/-- The second lookup of a call finds the receipt that took its key. -/
theorem sound_reread {db : Db} {request : ChargeRequest} {fingerprint : String}
    (h : Call.Sound env db.receipts ⟨request, .lost fingerprint⟩) :
    Call.Sound env db.receipts ⟨request, MockPaymentGateway.reread db request fingerprint⟩ := by
  obtain ⟨hfp, r, hr, hkey⟩ := h
  unfold MockPaymentGateway.reread
  cases hfind : findReceipt db request.idempotencyKey with
  | some r' =>
    obtain ⟨hr', hkey'⟩ := findReceipt_eq_some hfind
    exact Outcome.replayed hfp hr' hkey'
  | none => exact absurd hkey (beq_eq_false_iff_ne.mp (Table.head?_filter_eq_none.mp hfind r hr))

/-- A call other than the one that goes on stays as it is. -/
theorem mem_set_of_ne {calls : List Call} {n : ℕ} {c c₁ c₂ : Call} (hc₁ : calls[n]? = some c₁)
    (hne : c ≠ c₁) (hc : c ∈ calls) : c ∈ calls.set n c₂ := by
  obtain ⟨m, hm⟩ := List.mem_iff_getElem?.mp hc
  refine List.mem_iff_getElem?.mpr ⟨m, ?_⟩
  rw [List.getElem?_set_ne, hm]
  rintro rfl
  exact hne (Option.some.inj (hm.symm.trans hc₁))

/-- The calls after one of them went on. -/
theorem sound_set {receipts receipts' : Table MockChargeReceipt} {calls : List Call}
    (h : ∀ c ∈ calls, c.Sound env receipts) (hsub : ∀ r ∈ receipts, r ∈ receipts') {n : ℕ}
    {c' : Call} (hc' : c'.Sound env receipts') : ∀ c ∈ calls.set n c', c.Sound env receipts' := by
  intro c hc
  rcases List.mem_or_eq_of_mem_set hc with hold | rfl
  · exact (h c hold).mono hsub
  · exact hc'

/-- Every statement keeps the ledger sound. -/
theorem CallSys.Sound.step {sys sys' : CallSys} (h : sys.Sound env) (hstep : CallStep env sys sys') :
    sys'.Sound env := by
  obtain ⟨hkeys, hcharges, hdrawn, hlengths, hmaker, hcalls⟩ := h
  cases hstep with
  | lookup db calls drawn request =>
    refine ⟨hkeys, hcharges, hdrawn, hlengths, ?_, ?_⟩
    · intro r hr
      obtain ⟨c, hc, hrest⟩ := hmaker r hr
      exact ⟨c, List.mem_append_left _ hc, hrest⟩
    · intro c hc
      rcases List.mem_append.mp hc with hc | hc
      · exact hcalls c hc
      · rw [List.mem_singleton.mp hc]
        exact sound_lookup env db request
  | @record db db' calls drawn n request fingerprint chargeId success phase hc hnew hrecord =>
    have hfresh : ∀ r ∈ db.receipts, r.providerChargeId ≠ chargeId := by
      rintro r hr rfl
      exact hnew (hdrawn r hr)
    have hcall : requestFingerprint env request = .ok fingerprint :=
      hcalls _ (List.mem_of_getElem? hc)
    have hmaker' : ∀ r ∈ db.receipts, ∃ c ∈ calls.set n ⟨request, phase⟩,
        c.request.idempotencyKey = r.providerIdempotencyKey ∧
        requestFingerprint env c.request = .ok r.requestFingerprint ∧
        c.phase = .finished (.ok (answer r)) := by
      intro r hr
      obtain ⟨c, hmem, hkey, hfp, hphase⟩ := hmaker r hr
      refine ⟨c, mem_set_of_ne hc ?_ hmem, hkey, hfp, hphase⟩
      rintro rfl
      cases hphase
    have hdrawn' : ∀ r ∈ db.receipts, r.providerChargeId ∈ chargeId :: drawn :=
      fun r hr => List.mem_cons_of_mem _ (hdrawn r hr)
    cases recorded_of_record hfresh hrecord with
    | tooLong hlength =>
      exact ⟨hkeys, hcharges, hdrawn', hlengths, hmaker',
        sound_set hcalls (fun _ => id) (Outcome.tooLong hcall hlength)⟩
    | lost hr hkey =>
      exact ⟨hkeys, hcharges, hdrawn', hlengths, hmaker',
        sound_set hcalls (fun _ => id) ⟨hcall, _, hr, hkey⟩⟩
    | inserted hlength hfree =>
      refine ⟨hkeys.insert rfl hfree, hcharges.insert rfl hfresh, ?_, ?_, ?_, ?_⟩
      · intro r hr
        rcases Table.mem_insert.mp hr with hr | rfl
        · exact hdrawn' r hr
        · exact List.mem_cons_self
      · intro r hr
        rcases Table.mem_insert.mp hr with hr | rfl
        · exact hlengths r hr
        · exact hlength
      · intro r hr
        rcases Table.mem_insert.mp hr with hr | rfl
        · exact hmaker' r hr
        · have hlt : n < calls.length := (List.getElem?_eq_some_iff.mp hc).1
          exact ⟨_, List.mem_set hlt _, rfl, hcall, rfl⟩
      · refine sound_set hcalls (fun _ => Table.mem_insert_of_mem) ?_
        have hreplayed : Outcome env
            (db.receipts.insert (newReceipt request fingerprint success chargeId)) request
            (replayReceipt fingerprint _) := .replayed hcall Table.mem_insert_self rfl
        rwa [replayReceipt_new] at hreplayed
  | @reread db calls drawn n request fingerprint hc =>
    refine ⟨hkeys, hcharges, hdrawn, hlengths, ?_, ?_⟩
    · intro r hr
      obtain ⟨c, hmem, hkey, hfp, hphase⟩ := hmaker r hr
      refine ⟨c, mem_set_of_ne hc ?_ hmem, hkey, hfp, hphase⟩
      rintro rfl
      cases hphase
    · exact sound_set hcalls (fun _ => id) (sound_reread (hcalls _ (List.mem_of_getElem? hc)))
  | elsewhere calls drawn hreceipts =>
    rw [← hreceipts] at *
    exact ⟨hkeys, hcharges, hdrawn, hlengths, hmaker, hcalls⟩

end MockPaymentGateway

end Chargeflow
