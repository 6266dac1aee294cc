import Chargeflow.Foundation.Encoding
import Chargeflow.Foundation.Transitions
import Chargeflow.Application.Gateway

/-!
# What a fingerprint tells about a request

The canonical text of a request determines the four parameters it is made of, whatever characters
they contain, and nothing else about the request.  So does the fingerprint, as far as no two texts
share a digest.
-/

namespace Chargeflow

open Foundation

namespace MockPaymentGateway

/-- Two requests ask for the same: the amounts agree in their sign and their hundredths, and the
other parameters are equal. -/
structure SameParameters (q q' : ChargeRequest) : Prop where
  negative : q.amount.negative = q'.amount.negative
  hundredths : q.amount.hundredths = q'.amount.hundredths
  currency : q.currency = q'.currency
  providerCustomerId : q.providerCustomerId = q'.providerCustomerId
  providerPaymentMethodId : q.providerPaymentMethodId = q'.providerPaymentMethodId

variable {q q' : ChargeRequest}

/-- Having the same parameters is symmetric. -/
theorem SameParameters.symm (h : SameParameters q q') : SameParameters q' q :=
  ⟨h.negative.symm, h.hundredths.symm, h.currency.symm, h.providerCustomerId.symm,
    h.providerPaymentMethodId.symm⟩

/-- Having the same parameters is transitive. -/
theorem SameParameters.trans {q'' : ChargeRequest} (h : SameParameters q q')
    (h' : SameParameters q' q'') : SameParameters q q'' :=
  ⟨h.negative.trans h'.negative, h.hundredths.trans h'.hundredths, h.currency.trans h'.currency,
    h.providerCustomerId.trans h'.providerCustomerId,
    h.providerPaymentMethodId.trans h'.providerPaymentMethodId⟩

/-- The canonical text of the four parameters. -/
def parametersText (amount currency customerId methodId : String) : String :=
  "\x7b\"amount\":" ++ jsonString amount ++ ",\"currency\":" ++ jsonString currency ++
    ",\"provider_customer_id\":" ++ jsonString customerId ++
    ",\"provider_payment_method_id\":" ++ jsonString methodId ++ "\x7d"

/-- The canonical text of a request whose amount can be quantized. -/
theorem canonicalText_eq_ok {text : String} : canonicalText q = .ok text ↔
    ∃ amount, q.amount.quantizedText = some amount ∧
      text = parametersText amount q.currency q.providerCustomerId q.providerPaymentMethodId := by
  unfold canonicalText
  cases q.amount.quantizedText with
  | none => simp
  | some amount =>
    constructor
    · intro h
      exact ⟨amount, rfl, (Except.ok.inj h).symm⟩
    · rintro ⟨_, ⟨⟩, rfl⟩
      rfl

/-- Quoted texts can be read off a text that has them at fixed places. -/
theorem quoted_inj (s₁ s₂ s₃ s₄ s₅ : String) {a b c d a' b' c' d' : String}
    (h : s₁ ++ jsonString a ++ s₂ ++ jsonString b ++ s₃ ++ jsonString c ++ s₄ ++ jsonString d ++ s₅ =
      s₁ ++ jsonString a' ++ s₂ ++ jsonString b' ++ s₃ ++ jsonString c' ++ s₄ ++ jsonString d' ++
        s₅) :
    a = a' ∧ b = b' ∧ c = c' ∧ d = d' := by
  have hlist := congrArg String.toList h
  simp only [String.toList_append, List.append_assoc] at hlist
  obtain ⟨ha, hlist⟩ := selfDelimiting_jsonString _ _ _ _ (List.append_cancel_left hlist)
  obtain ⟨hb, hlist⟩ := selfDelimiting_jsonString _ _ _ _ (List.append_cancel_left hlist)
  obtain ⟨hc, hlist⟩ := selfDelimiting_jsonString _ _ _ _ (List.append_cancel_left hlist)
  obtain ⟨hd, -⟩ := selfDelimiting_jsonString _ _ _ _ (List.append_cancel_left hlist)
  exact ⟨ha, hb, hc, hd⟩

/-- The canonical text tells the four parameters apart, whatever characters they have. -/
theorem parametersText_inj {a b c d a' b' c' d' : String}
    (h : parametersText a b c d = parametersText a' b' c' d') :
    a = a' ∧ b = b' ∧ c = c' ∧ d = d' :=
  quoted_inj _ _ _ _ _ h

/-- Requests for the same have one canonical text, or none. -/
theorem SameParameters.canonicalText_eq (h : SameParameters q q') :
    canonicalText q = canonicalText q' := by
  simp only [canonicalText, Decimal.quantizedText, h.negative, h.hundredths, h.currency,
    h.providerCustomerId, h.providerPaymentMethodId]

/-- Requests with one canonical text ask for the same. -/
theorem sameParameters_of_canonicalText {text : String} (h : canonicalText q = .ok text)
    (h' : canonicalText q' = .ok text) : SameParameters q q' := by
  obtain ⟨amount, hamount, rfl⟩ := canonicalText_eq_ok.mp h
  obtain ⟨amount', hamount', htext⟩ := canonicalText_eq_ok.mp h'
  obtain ⟨rfl, hcurrency, hcustomer, hmethod⟩ := parametersText_inj htext
  obtain ⟨hnegative, hhundredths⟩ := Decimal.quantizedText_inj hamount hamount'
  exact ⟨hnegative, hhundredths, hcurrency, hcustomer, hmethod⟩

variable {env : Env}

/-- Fingerprints agree exactly when the requests ask for the same. -/
theorem fingerprint_eq_iff (hsha : Function.Injective env.sha256) {fp fp' : String}
    (h : requestFingerprint env q = .ok fp) (h' : requestFingerprint env q' = .ok fp') :
    fp = fp' ↔ SameParameters q q' := by
  obtain ⟨text, htext, hfp⟩ := bind_eq_ok_iff.mp h
  obtain ⟨text', htext', hfp'⟩ := bind_eq_ok_iff.mp h'
  obtain rfl := Except.ok.inj hfp
  obtain rfl := Except.ok.inj hfp'
  constructor
  · intro heq
    obtain rfl := hsha heq
    exact sameParameters_of_canonicalText htext htext'
  · intro hsame
    rw [hsame.canonicalText_eq, htext'] at htext
    rw [Except.ok.inj htext]

/-- A request has a fingerprint unless its amount has too many digits. -/
theorem requestFingerprint_of_hundredths (env : Env) {n : ℕ} (h : q.amount.hundredths = some n) :
    ∃ fp, requestFingerprint env q = .ok fp := by
  simp only [requestFingerprint, canonicalText, Decimal.quantizedText, h, Option.map_some]
  exact ⟨_, rfl⟩

end MockPaymentGateway

end Chargeflow
