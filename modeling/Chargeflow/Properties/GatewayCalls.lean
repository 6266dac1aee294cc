import Mathlib.Logic.Equiv.Basic
import Chargeflow.System.GatewayCalls

/-!
# The mock gateway is a durable idempotent ledger

Whatever calls are made, and however their statements alternate, the first receipt of a key decides
what every call with this key returns.  Calls that ask for the same get the same answer, calls that
ask for something else are refused, and neither changes a receipt.  The amounts of two calls are the
same when they agree in their hundredths and in their sign: zero and negative zero differ.
-/

namespace Chargeflow

open Foundation

namespace MockPaymentGateway

variable {env : Env} {sys sys' : CallSys}

/-- The states of the calls are sound. -/
theorem sound_of_reaches (h : Reaches (CallStep env) .empty sys) : sys.Sound env :=
  h.invariant (I := CallSys.Sound env) (.empty env) fun _ _ _ ha hstep => ha.step hstep

/-- A call that could insert its receipt has been answered with the receipt of its key. -/
theorem CallSys.Sound.answered (h : sys.Sound env) (hsha : Function.Injective env.sha256)
    {c : Call} (hc : c ∈ sys.calls) {outcome : Except Err ChargeResult}
    (hphase : c.phase = .finished outcome) {fingerprint : String}
    (hfp : requestFingerprint env c.request = .ok fingerprint)
    (hlength : c.request.idempotencyKey.length ≤ 255) :
    ∃ r ∈ sys.db.receipts, r.providerIdempotencyKey = c.request.idempotencyKey ∧
      ∃ c₀ ∈ sys.calls, c₀.request.idempotencyKey = c.request.idempotencyKey ∧
        c₀.phase = .finished (.ok (answer r)) ∧
        (SameParameters c₀.request c.request → outcome = .ok (answer r)) ∧
        (¬ SameParameters c₀.request c.request → outcome = .error differentParameters) := by
  have hsound := h.calls c hc
  unfold Call.Sound at hsound
  rw [hphase] at hsound
  cases hsound with
  | unencodable hfp' => cases hfp.symm.trans hfp'
  | tooLong _ hlong => omega
  | @replayed fingerprint' hfp' r hr hkey =>
    obtain rfl := Except.ok.inj (hfp.symm.trans hfp')
    obtain ⟨c₀, hc₀, hkey₀, hfp₀, hphase₀⟩ := h.maker r hr
    refine ⟨r, hr, hkey, c₀, hc₀, hkey₀.trans hkey, hphase₀, ?_, ?_⟩
    · intro hsame
      exact replayReceipt_of_eq ((fingerprint_eq_iff hsha hfp₀ hfp).mpr hsame)
    · intro hdifferent
      exact replayReceipt_of_ne fun heq => hdifferent ((fingerprint_eq_iff hsha hfp₀ hfp).mp heq)

/-- Calls with one key that ask for the same end in the same way. -/
theorem CallSys.Sound.agree (h : sys.Sound env) {c c' : Call} (hc : c ∈ sys.calls)
    (hc' : c' ∈ sys.calls) (hkey : c.request.idempotencyKey = c'.request.idempotencyKey)
    (hsame : SameParameters c.request c'.request) {outcome outcome' : Except Err ChargeResult}
    (hphase : c.phase = .finished outcome) (hphase' : c'.phase = .finished outcome') :
    outcome = outcome' := by
  have hfp : requestFingerprint env c.request = requestFingerprint env c'.request := by
    unfold requestFingerprint
    rw [hsame.canonicalText_eq]
  have hsound := h.calls c hc
  have hsound' := h.calls c' hc'
  unfold Call.Sound at hsound hsound'
  rw [hphase] at hsound
  rw [hphase'] at hsound'
  have hfits : ∀ {r : MockChargeReceipt} {key : String}, r ∈ sys.db.receipts →
      r.providerIdempotencyKey = key → ¬ 255 < key.length := by
    rintro r _ hr rfl
    exact not_lt.mpr (h.lengths r hr)
  cases hsound with
  | unencodable h₁ =>
    cases hsound' with
    | unencodable h₂ => rw [Except.error.inj (h₁.symm.trans (hfp.trans h₂))]
    | tooLong h₂ => cases h₁.symm.trans (hfp.trans h₂)
    | replayed h₂ => cases h₁.symm.trans (hfp.trans h₂)
  | tooLong h₁ hlong =>
    cases hsound' with
    | unencodable h₂ => cases h₁.symm.trans (hfp.trans h₂)
    | tooLong => rfl
    | replayed _ hr hrkey => exact absurd hlong (hfits hr (hrkey.trans hkey.symm))
  | replayed h₁ hr hrkey =>
    cases hsound' with
    | unencodable h₂ => cases h₁.symm.trans (hfp.trans h₂)
    | tooLong _ hlong => exact absurd hlong (hfits hr (hrkey.trans hkey))
    | replayed h₂ hr' hrkey' =>
      obtain rfl := Except.ok.inj (h₁.symm.trans (hfp.trans h₂))
      obtain rfl := h.keys _ hr _ hr' (hrkey.trans (hkey.trans hrkey'.symm))
      rfl

/-- A successful answer is that of a receipt of the key. -/
theorem CallSys.Sound.receipt (h : sys.Sound env) {c : Call} (hc : c ∈ sys.calls)
    {result : ChargeResult} (hphase : c.phase = .finished (.ok result)) :
    ∃ r ∈ sys.db.receipts, r.providerIdempotencyKey = c.request.idempotencyKey ∧
      result = answer r := by
  have hsound := h.calls c hc
  unfold Call.Sound at hsound
  rw [hphase] at hsound
  generalize houtcome : Except.ok result = outcome at hsound
  cases hsound with
  | unencodable => cases houtcome
  | tooLong => cases houtcome
  | @replayed fingerprint _ r hr hkey =>
    refine ⟨r, hr, hkey, ?_⟩
    by_cases hfp : r.requestFingerprint = fingerprint
    · rw [replayReceipt_of_eq hfp] at houtcome
      exact Except.ok.inj houtcome
    · rw [replayReceipt_of_ne hfp] at houtcome
      cases houtcome

/-- Receipts are written by a call that returns them, and by nothing else. -/
theorem CallStep.receipts (h : sys.Sound env) (hstep : CallStep env sys sys') :
    sys'.db.receipts = sys.db.receipts ∨
      ∃ (n : ℕ) (request : ChargeRequest) (fingerprint : String) (success : Bool)
          (chargeId : String),
        sys.calls[n]? = some ⟨request, .missed fingerprint⟩ ∧
        sys'.db.receipts =
          sys.db.receipts.insert (newReceipt request fingerprint success chargeId) ∧
        sys'.calls[n]? = some ⟨request,
          .finished (.ok (answer (newReceipt request fingerprint success chargeId)))⟩ := by
  cases hstep with
  | lookup => exact Or.inl rfl
  | @record db db' calls drawn n request fingerprint chargeId success phase hc hnew hrecord =>
    have hfresh : ∀ r ∈ db.receipts, r.providerChargeId ≠ chargeId := by
      rintro r hr rfl
      exact hnew (h.drawn r hr)
    cases recorded_of_record hfresh hrecord with
    | tooLong => exact Or.inl rfl
    | lost => exact Or.inl rfl
    | inserted =>
      refine Or.inr ⟨n, request, fingerprint, success, chargeId, hc, rfl, ?_⟩
      exact List.getElem?_set_self (List.getElem?_eq_some_iff.mp hc).1
  | reread => exact Or.inl rfl
  | elsewhere _ _ hreceipts => exact Or.inl hreceipts

/-! ## One receipt for a key -/

/-- There is one receipt for a key at most; it decides what every call with the key returns; calls
with different keys get different charge ids; and only a call that returns a receipt writes one. -/
theorem one_receipt_per_key (hsha : Function.Injective env.sha256)
    (h : Reaches (CallStep env) .empty sys) :
    (∀ r ∈ sys.db.receipts, ∀ r' ∈ sys.db.receipts,
      r.providerIdempotencyKey = r'.providerIdempotencyKey → r = r') ∧
    (∀ c ∈ sys.calls, ∀ outcome, c.phase = .finished outcome →
      c.request.amount.hundredths ≠ none → FitsColumn c.request.idempotencyKey 255 →
      ∃ r ∈ sys.db.receipts, r.providerIdempotencyKey = c.request.idempotencyKey ∧
        ∃ c₀ ∈ sys.calls, c₀.request.idempotencyKey = c.request.idempotencyKey ∧
          c₀.phase = .finished (.ok (answer r)) ∧
          (SameParameters c₀.request c.request → outcome = .ok (answer r)) ∧
          (¬ SameParameters c₀.request c.request → outcome = .error differentParameters)) ∧
    (∀ c ∈ sys.calls, ∀ c' ∈ sys.calls, c.request.idempotencyKey = c'.request.idempotencyKey →
      SameParameters c.request c'.request → ∀ outcome outcome', c.phase = .finished outcome →
      c'.phase = .finished outcome' → outcome = outcome') ∧
    (∀ c ∈ sys.calls, ∀ c' ∈ sys.calls, c.request.idempotencyKey ≠ c'.request.idempotencyKey →
      ∀ result result', c.phase = .finished (.ok result) → c'.phase = .finished (.ok result') →
      result.providerChargeId ≠ result'.providerChargeId) ∧
    ∀ sys', CallStep env sys sys' → sys'.db.receipts = sys.db.receipts ∨
      ∃ (n : ℕ) (request : ChargeRequest) (fingerprint : String) (success : Bool)
          (chargeId : String),
        sys.calls[n]? = some ⟨request, .missed fingerprint⟩ ∧
        sys'.db.receipts =
          sys.db.receipts.insert (newReceipt request fingerprint success chargeId) ∧
        sys'.calls[n]? = some ⟨request,
          .finished (.ok (answer (newReceipt request fingerprint success chargeId)))⟩ := by
  have hsound := sound_of_reaches h
  refine ⟨hsound.keys, ?_, ?_, ?_, fun _ hstep => hstep.receipts hsound⟩
  · intro c hc outcome hphase hamount hkey
    obtain ⟨n, hn⟩ := Option.ne_none_iff_exists'.mp hamount
    obtain ⟨fingerprint, hfp⟩ := requestFingerprint_of_hundredths env hn
    exact hsound.answered hsha hc hphase hfp hkey.1
  · intro c hc c' hc' hkey hsame outcome outcome' hphase hphase'
    exact hsound.agree hc hc' hkey hsame hphase hphase'
  · intro c hc c' hc' hkey result result' hphase hphase' hcharge
    obtain ⟨r, hr, hrkey, rfl⟩ := hsound.receipt hc hphase
    obtain ⟨r', hr', hrkey', rfl⟩ := hsound.receipt hc' hphase'
    obtain rfl := hsound.charges r hr r' hr' hcharge
    exact hkey (hrkey.symm.trans hrkey')

/-! ## Zero and negative zero -/

/-- A charge of nothing, with a sign. -/
def zeroRequest (negative : Bool) : ChargeRequest :=
  ⟨⟨negative, 0, -2⟩, "USD", "cus_1", "pm_1", "key_1"⟩

/-- The canonical text of a charge of nothing. -/
def zeroText (negative : Bool) : String :=
  "\x7b\"amount\":\"" ++ (if negative then "-" else "") ++ "0.00\",\"currency\":\"USD\"," ++
    "\"provider_customer_id\":\"cus_1\",\"provider_payment_method_id\":\"pm_1\"\x7d"

/-- Its digest. -/
def zeroDigest (negative : Bool) : String :=
  if negative then "812ec696027557877d3553cf005d6e77e2a47d9f1d911b6374dbf98962eaf539"
  else "d6861a0db1ddc856a64b0d0846cb8ed635eb9a7c73a47d5e49f436794b8ac1f5"

/-- A digest without collisions that is right for the two texts. -/
def zeroEnv : Env where
  sha256 := (Equiv.swap (zeroText false) (zeroDigest false)).trans
    (Equiv.swap (zeroText true) (zeroDigest true))
  str _ := ""

/-- The sample digest is injective. -/
theorem zeroEnv_injective : Function.Injective zeroEnv.sha256 := Equiv.injective _

/-- The sample requests have fingerprints. -/
theorem requestFingerprint_zero :
    ∀ b, requestFingerprint zeroEnv (zeroRequest b) = .ok (zeroDigest b) := by
  decide +kernel

/-- The receipt of the first charge. -/
def zeroReceipt : MockChargeReceipt :=
  newReceipt (zeroRequest false) (zeroDigest false) true "mock_1"

/-- The ledger after the first charge. -/
def zeroDb : Db := { Db.empty with receipts := Table.empty.insert zeroReceipt }

/-- Two callers ask for a charge at once, and a third one asks for a charge of negative zero. -/
def racedCalls : CallSys where
  db := zeroDb
  calls := [⟨zeroRequest false, .finished (.ok (answer zeroReceipt))⟩,
    ⟨zeroRequest false, .finished (.ok (answer zeroReceipt))⟩,
    ⟨zeroRequest true, .finished (.error differentParameters)⟩]
  drawn := ["mock_2", "mock_1"]

/-- The raced calls are reached. -/
theorem racedCalls_reached : Reaches (CallStep zeroEnv) .empty racedCalls := by
  have hmiss : lookup zeroEnv Db.empty (zeroRequest false) = .missed (zeroDigest false) := by
    unfold lookup
    rw [requestFingerprint_zero]
    rfl
  have hrefuse : lookup zeroEnv zeroDb (zeroRequest true) =
      .finished (.error differentParameters) := by
    unfold lookup
    rw [requestFingerprint_zero]
    rfl
  have hinsert : record Db.empty (zeroRequest false) (zeroDigest false) true "mock_1" =
      (zeroDb, .finished (.ok (answer zeroReceipt))) := rfl
  have hlose : record zeroDb (zeroRequest false) (zeroDigest false) false "mock_2" =
      (zeroDb, .lost (zeroDigest false)) := rfl
  have hreread : reread zeroDb (zeroRequest false) (zeroDigest false) =
      .finished (.ok (answer zeroReceipt)) := rfl
  -- both callers find no receipt
  have h₁ : CallStep zeroEnv .empty
      ⟨Db.empty, [⟨zeroRequest false, .missed (zeroDigest false)⟩], []⟩ := by
    have h : CallStep zeroEnv .empty _ := .lookup Db.empty [] [] (zeroRequest false)
    rwa [hmiss] at h
  have h₂ : CallStep zeroEnv ⟨Db.empty, [⟨zeroRequest false, .missed (zeroDigest false)⟩], []⟩
      ⟨Db.empty, [⟨zeroRequest false, .missed (zeroDigest false)⟩,
        ⟨zeroRequest false, .missed (zeroDigest false)⟩], []⟩ := by
    have h : CallStep zeroEnv _ _ :=
      .lookup Db.empty [⟨zeroRequest false, .missed (zeroDigest false)⟩] [] (zeroRequest false)
    rwa [hmiss] at h
  -- the first one inserts its receipt, and the second one fails and reads it
  have h₃ : CallStep zeroEnv ⟨Db.empty, [⟨zeroRequest false, .missed (zeroDigest false)⟩,
      ⟨zeroRequest false, .missed (zeroDigest false)⟩], []⟩
      ⟨zeroDb, [⟨zeroRequest false, .finished (.ok (answer zeroReceipt))⟩,
        ⟨zeroRequest false, .missed (zeroDigest false)⟩], ["mock_1"]⟩ :=
    .record (n := 0) rfl (by simp) hinsert
  have h₄ : CallStep zeroEnv
      ⟨zeroDb, [⟨zeroRequest false, .finished (.ok (answer zeroReceipt))⟩,
        ⟨zeroRequest false, .missed (zeroDigest false)⟩], ["mock_1"]⟩
      ⟨zeroDb, [⟨zeroRequest false, .finished (.ok (answer zeroReceipt))⟩,
        ⟨zeroRequest false, .lost (zeroDigest false)⟩], ["mock_2", "mock_1"]⟩ :=
    .record (n := 1) rfl (by decide) hlose
  have h₅ : CallStep zeroEnv
      ⟨zeroDb, [⟨zeroRequest false, .finished (.ok (answer zeroReceipt))⟩,
        ⟨zeroRequest false, .lost (zeroDigest false)⟩], ["mock_2", "mock_1"]⟩
      ⟨zeroDb, [⟨zeroRequest false, .finished (.ok (answer zeroReceipt))⟩,
        ⟨zeroRequest false, .finished (.ok (answer zeroReceipt))⟩], ["mock_2", "mock_1"]⟩ := by
    rw [← hreread]
    exact .reread (n := 1) rfl
  have h₆ : CallStep zeroEnv
      ⟨zeroDb, [⟨zeroRequest false, .finished (.ok (answer zeroReceipt))⟩,
        ⟨zeroRequest false, .finished (.ok (answer zeroReceipt))⟩], ["mock_2", "mock_1"]⟩
      racedCalls := by
    have h : CallStep zeroEnv _ _ := .lookup zeroDb
      [⟨zeroRequest false, .finished (.ok (answer zeroReceipt))⟩,
        ⟨zeroRequest false, .finished (.ok (answer zeroReceipt))⟩] ["mock_2", "mock_1"]
      (zeroRequest true)
    rwa [hrefuse] at h
  exact ((((((Relation.ReflTransGen.refl.tail h₁).tail h₂).tail h₃).tail h₄).tail h₅).tail h₆)

/-- The second of two calls with one key is refused, although nothing but the sign of the amount
zero differs. -/
theorem negative_zero_refused : ∃ sys : CallSys, Function.Injective zeroEnv.sha256 ∧
    Reaches (CallStep zeroEnv) .empty sys ∧ ∃ c ∈ sys.calls, ∃ c' ∈ sys.calls,
      c.request.idempotencyKey = c'.request.idempotencyKey ∧
      c.request.amount.hundredths = some 0 ∧ c'.request.amount.hundredths = some 0 ∧
      c.request.currency = c'.request.currency ∧
      c.request.providerCustomerId = c'.request.providerCustomerId ∧
      c.request.providerPaymentMethodId = c'.request.providerPaymentMethodId ∧
      c.phase = .finished (.ok (answer zeroReceipt)) ∧
      c'.phase = .finished (.error differentParameters) :=
  ⟨racedCalls, zeroEnv_injective, racedCalls_reached, ⟨zeroRequest false, _⟩, .head _,
    ⟨zeroRequest true, _⟩, .tail _ (.tail _ (.head _)), rfl, by decide, by decide, rfl, rfl, rfl,
    rfl, rfl⟩

/-- The key of the three calls has one receipt, that of the calls which did not ask for negative
zero. -/
theorem one_receipt_per_key_raced : ∃ r ∈ racedCalls.db.receipts,
    (∀ r' ∈ racedCalls.db.receipts, r'.providerIdempotencyKey = "key_1" → r' = r) ∧
      ∃ c₀ ∈ racedCalls.calls, c₀.phase = .finished (.ok (answer r)) ∧
        ¬ SameParameters c₀.request (zeroRequest true) := by
  obtain ⟨hunique, hanswered, -⟩ := one_receipt_per_key zeroEnv_injective racedCalls_reached
  obtain ⟨r, hr, hkey, c₀, hc₀, -, hphase, hsame, -⟩ := hanswered
    ⟨zeroRequest true, .finished (.error differentParameters)⟩ (.tail _ (.tail _ (.head _))) _ rfl
    (by decide) (by decide)
  refine ⟨r, hr, fun r' hr' hkey' => hunique r' hr' r hr (hkey'.trans hkey.symm), c₀, hc₀, hphase,
    ?_⟩
  intro h
  cases hsame h

end MockPaymentGateway

end Chargeflow
