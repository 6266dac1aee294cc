import Mathlib.Algebra.Order.Field.Rat
import Chargeflow.Foundation.Encoding
import Chargeflow.Application.Signature

/-!
# Exactly the signed and fresh requests are accepted

A header is accepted when it is `t=T,v1=D` with a timestamp `T` near the clock and the digest `D` of
`T`, a dot and the body, and otherwise it is rejected.  The clock counts whole seconds.  Timestamp
and body can be read off the bytes that are signed, so a header that is accepted for two bodies
exhibits a collision of HMAC-SHA256.
-/

namespace Chargeflow

open Foundation

variable {env : SignatureEnv} {time : ℚ} {payload : List UInt8} {signature : String}

/-- A text of digits that `int` reads. -/
structure IsTimestamp (env : SignatureEnv) (text : List Char) : Prop where
  nonempty : text ≠ []
  digits : ∀ c ∈ text, c.isDigit = true
  limit : env.maxStrDigits = 0 ∨ text.length ≤ env.maxStrDigits

/-- The header for a timestamp and a body. -/
def signedHeader (env : SignatureEnv) (timestampText : List Char) (payload : List UInt8) :
    List Char :=
  (['t', '='] ++ timestampText) ++ ',' :: (['v', '1', '='] ++
    hexdigest (env.hmac (encode env.secret.toList) (signedBytes timestampText payload)))

/-! ## Digests and timestamps -/

/-- A hexadecimal digit is one. -/
theorem hexDigit_mem {n : ℕ} (h : n < 16) : hexDigit n ∈ "0123456789abcdefABCDEF".toList := by
  have hall : ∀ n < 16, hexDigit n ∈ "0123456789abcdefABCDEF".toList := by decide
  exact hall n h

/-- A digest in hexadecimal consists of hexadecimal digits. -/
theorem mem_hexdigest {bytes : Vector UInt8 32} {c : Char} (h : c ∈ hexdigest bytes) :
    c ∈ "0123456789abcdefABCDEF".toList := by
  obtain ⟨b, -, hc⟩ := List.mem_flatMap.mp h
  have hb : b.toNat < 256 := b.toNat_lt
  simp only [List.mem_cons, List.not_mem_nil, or_false] at hc
  rcases hc with rfl | rfl
  · exact hexDigit_mem (by omega)
  · exact hexDigit_mem (by omega)

/-- A SHA-256 digest has 64 hexadecimal digits. -/
theorem length_hexdigest (bytes : Vector UInt8 32) : (hexdigest bytes).length = 64 := by
  simp [hexdigest, List.length_flatMap]

/-- A digest in hexadecimal is ASCII. -/
theorem isascii_hexdigest (bytes : Vector UInt8 32) : isascii (hexdigest bytes) = true := by
  have hall : "0123456789abcdefABCDEF".toList.all (fun c => decide (c.toNat < 128)) = true := by
    decide +kernel
  exact List.all_eq_true.mpr fun c hc => List.all_eq_true.mp hall c (mem_hexdigest hc)

/-- A digit is a character in ASCII. -/
theorem toNat_of_isDigit {c : Char} (h : c.isDigit = true) : 48 ≤ c.toNat ∧ c.toNat ≤ 57 := by
  simp only [Char.isDigit, ge_iff_le, Bool.and_eq_true, decide_eq_true_eq, UInt32.le_iff_toNat_le] at h
  exact h

/-- A timestamp contains only digits. -/
theorem IsTimestamp.not_mem {text : List Char} (h : IsTimestamp env text) {c : Char}
    (hc : c.isDigit = false) : c ∉ text := by
  intro hmem
  rw [h.digits c hmem] at hc
  cases hc

/-- A timestamp is ASCII. -/
theorem IsTimestamp.isascii {text : List Char} (h : IsTimestamp env text) :
    isascii text = true := by
  refine List.all_eq_true.mpr fun c hc => decide_eq_true ?_
  obtain ⟨-, hle⟩ := toNat_of_isDigit (h.digits c hc)
  omega

/-- `isdigit` accepts a timestamp. -/
theorem IsTimestamp.isdigit {text : List Char} (h : IsTimestamp env text) :
    isdigit text = true := by
  simpa [Chargeflow.isdigit, h.nonempty] using h.digits

/-- `int` reads a timestamp as its number. -/
theorem IsTimestamp.parseInt {text : List Char} (h : IsTimestamp env text) :
    parseInt env.maxStrDigits text = some (Nat.ofDigitChars 10 text 0) := by
  have hlimit := h.limit
  unfold Chargeflow.parseInt
  rw [if_neg]
  omega

/-! ## The header -/

/-- A header in two parts is put together from them. -/
theorem eq_of_splitOn {l first second : List Char} (h : l.splitOn ',' = [first, second]) :
    l = first ++ ',' :: second := by
  have hl : [','].intercalate (l.splitOn ',') = l := List.intercalate_splitOn ','
  rw [h] at hl
  simpa [List.intercalate] using hl.symm

/-- A text with one comma splits into two parts. -/
theorem splitOn_of_not_mem {first second : List Char} (hfirst : ',' ∉ first)
    (hsecond : ',' ∉ second) : (first ++ ',' :: second).splitOn ',' = [first, second] := by
  rw [List.splitOn_append_cons_self_of_not_mem hfirst, List.splitOn_eq_singleton hsecond]

/-- A signed header with a fresh timestamp is accepted. -/
theorem verify_of_signed (hsecret : env.secret ≠ "") {text : List Char} (h : IsTimestamp env text)
    (hfresh : |wholeSeconds time - Nat.ofDigitChars 10 text 0| ≤ 300)
    (hheader : signature.toList = signedHeader env text payload) :
    verifyWebhookSignature env time payload signature = .ok () := by
  generalize hbytes : env.hmac (encode env.secret.toList) (signedBytes text payload) = bytes
  have hsplit : signature.toList.splitOn ',' =
      [['t', '='] ++ text, ['v', '1', '='] ++ hexdigest bytes] := by
    rw [hheader, signedHeader, hbytes]
    refine splitOn_of_not_mem ?_ ?_
    · simpa using h.not_mem (by decide)
    · have hcomma : ',' ∉ "0123456789abcdefABCDEF".toList := by decide
      simpa using fun hmem => hcomma (mem_hexdigest hmem)
  have hhex : (hexdigest bytes).any (fun c => !"0123456789abcdefABCDEF".toList.contains c) =
      false := by
    rw [List.any_eq_false]
    intro c hc
    simp only [Bool.not_eq_true, Bool.not_eq_false', List.contains_iff_mem]
    exact mem_hexdigest hc
  have htext : (['t', '='] ++ text).drop 2 = text := rfl
  have hdigest : (['v', '1', '='] ++ hexdigest bytes).drop 3 = hexdigest bytes := rfl
  unfold verifyWebhookSignature
  rw [if_neg hsecret, hsplit]
  dsimp only
  rw [if_neg (by simp), htext, hdigest, h.isascii, h.isdigit, length_hexdigest, isascii_hexdigest, hhex,
    if_neg (by decide), h.parseInt]
  dsimp only
  rw [if_neg (not_lt.mpr hfresh), hbytes, if_neg (not_not.mpr rfl)]

/-- An accepted header is signed, and its timestamp is fresh. -/
theorem signed_of_verify (h : verifyWebhookSignature env time payload signature = .ok ()) :
    ∃ text, IsTimestamp env text ∧ |wholeSeconds time - Nat.ofDigitChars 10 text 0| ≤ 300 ∧
      signature.toList = signedHeader env text payload := by
  unfold verifyWebhookSignature at h
  split at h
  case isTrue => cases h
  split at h
  case h_2 => cases h
  rename_i first second hsplit
  split at h
  case isTrue => cases h
  rename_i hprefix
  dsimp only at h
  split at h
  case isTrue => cases h
  rename_i hchars
  split at h
  case h_1 => cases h
  rename_i timestamp hparse
  split at h
  case isTrue => cases h
  rename_i hwindow
  split at h
  case isTrue => cases h
  rename_i hexpected
  simp only [Bool.not_eq_true, Bool.not_eq_false', Bool.and_eq_true,
    List.isPrefixOf_iff_prefix] at hprefix
  obtain ⟨⟨text, rfl⟩, ⟨digest, rfl⟩⟩ := hprefix
  have htext : (['t', '='] ++ text).drop 2 = text := rfl
  have hdigest : (['v', '1', '='] ++ digest).drop 3 = digest := rfl
  simp only [htext, hdigest] at hchars hparse hexpected
  simp only [Bool.not_eq_true, Bool.or_eq_false_iff, Bool.not_eq_false', isdigit,
    Bool.and_eq_true, List.all_eq_true] at hchars
  obtain ⟨⟨⟨⟨-, hne, hdigits⟩, -⟩, -⟩, -⟩ := hchars
  unfold parseInt at hparse
  split_ifs at hparse with hlimit
  obtain rfl := Option.some.inj hparse
  refine ⟨text, ⟨by simpa using hne, hdigits, by omega⟩, not_lt.mp hwindow, ?_⟩
  rw [eq_of_splitOn hsplit, signedHeader, not_not.mp hexpected]

/-! ## What the signed bytes tell -/

/-- A digit is encoded as one byte. -/
theorem utf8EncodeChar_of_isDigit {c : Char} (h : c.isDigit = true) :
    String.utf8EncodeChar c = [UInt8.ofNat c.toNat] := by
  obtain ⟨-, hle⟩ := toNat_of_isDigit h
  have hascii : c.val.toNat ≤ 127 := Nat.le_trans hle (by decide)
  unfold String.utf8EncodeChar
  exact if_pos hascii

/-- The byte of a digit is its code. -/
theorem toNat_ofNat_of_isDigit {c : Char} (h : c.isDigit = true) :
    (UInt8.ofNat c.toNat).toNat = c.toNat := by
  obtain ⟨-, hle⟩ := toNat_of_isDigit h
  rw [UInt8.toNat_ofNat', Nat.mod_eq_of_lt (by omega)]

/-- No byte of a timestamp is a dot. -/
theorem IsTimestamp.dot_not_mem {text : List Char} (h : IsTimestamp env text) :
    46 ∉ encode text := by
  intro hmem
  obtain ⟨c, hc, hbyte⟩ := List.mem_flatMap.mp hmem
  have hdigit := h.digits c hc
  obtain ⟨hlow, -⟩ := toNat_of_isDigit hdigit
  rw [utf8EncodeChar_of_isDigit hdigit, List.mem_singleton] at hbyte
  have hnat : 46 = c.toNat := by rw [← toNat_ofNat_of_isDigit hdigit, ← hbyte]; rfl
  omega

/-- The bytes of digits determine the digits. -/
theorem encode_inj {text text' : List Char} (h : ∀ c ∈ text, c.isDigit = true)
    (h' : ∀ c ∈ text', c.isDigit = true) (heq : encode text = encode text') : text = text' := by
  induction text generalizing text' with
  | nil =>
    cases text' with
    | nil => rfl
    | cons c' text' =>
      rw [encode, encode, List.flatMap_cons,
        utf8EncodeChar_of_isDigit (h' c' List.mem_cons_self)] at heq
      cases heq
  | cons c text ih =>
    have hc := h c List.mem_cons_self
    cases text' with
    | nil =>
      rw [encode, encode, List.flatMap_cons, utf8EncodeChar_of_isDigit hc] at heq
      cases heq
    | cons c' text' =>
      have hc' := h' c' List.mem_cons_self
      rw [encode, encode, List.flatMap_cons, List.flatMap_cons, utf8EncodeChar_of_isDigit hc,
        utf8EncodeChar_of_isDigit hc'] at heq
      obtain ⟨hbyte, hrest⟩ := List.cons.inj heq
      have hnat : c.toNat = c'.toNat := by
        rw [← toNat_ofNat_of_isDigit hc, hbyte, toNat_ofNat_of_isDigit hc']
      obtain rfl : c = c' := by rw [← Char.ofNat_toNat c, hnat, Char.ofNat_toNat]
      rw [ih (fun d hd => h d (List.mem_cons_of_mem _ hd))
        (fun d hd => h' d (List.mem_cons_of_mem _ hd)) hrest]

/-- Timestamp and body are recovered from the signed bytes. -/
theorem signedBytes_inj {text text' : List Char} {payload payload' : List UInt8}
    (h : IsTimestamp env text) (h' : IsTimestamp env text')
    (heq : signedBytes text payload = signedBytes text' payload') :
    text = text' ∧ payload = payload' := by
  obtain ⟨hbytes, hpayload⟩ := append_mark_inj h.dot_not_mem h'.dot_not_mem heq
  exact ⟨encode_inj h.digits h'.digits hbytes, hpayload⟩

/-- The two digits of a byte determine it. -/
theorem byte_eq_of_hexDigits {b b' : UInt8} (hhigh : hexDigit (b.toNat / 16) =
    hexDigit (b'.toNat / 16)) (hlow : hexDigit (b.toNat % 16) = hexDigit (b'.toNat % 16)) :
    b = b' := by
  have hb : b.toNat < 256 := b.toNat_lt
  have hb' : b'.toNat < 256 := b'.toNat_lt
  have h₁ := congrArg hexValue hhigh
  have h₂ := congrArg hexValue hlow
  rw [hexValue_hexDigit (by omega), hexValue_hexDigit (by omega)] at h₁ h₂
  exact UInt8.toNat_inj.mp (by omega)

/-- A digest determines its bytes. -/
theorem hexdigest_inj {bytes bytes' : Vector UInt8 32} (h : hexdigest bytes = hexdigest bytes') :
    bytes = bytes' := by
  have hlist : ∀ {l l' : List UInt8},
      (l.flatMap fun b => [hexDigit (b.toNat / 16), hexDigit (b.toNat % 16)]) =
        (l'.flatMap fun b => [hexDigit (b.toNat / 16), hexDigit (b.toNat % 16)]) → l = l' := by
    intro l
    induction l with
    | nil =>
      intro l' heq
      cases l' with
      | nil => rfl
      | cons b' l' => cases heq
    | cons b l ih =>
      intro l' heq
      cases l' with
      | nil => cases heq
      | cons b' l' =>
        simp only [List.flatMap_cons, List.cons_append, List.nil_append, List.cons.injEq] at heq
        obtain ⟨hhigh, hlow, hrest⟩ := heq
        rw [byte_eq_of_hexDigits hhigh hlow, ih hrest]
  exact Vector.toList_inj.mp (hlist h)

/-- A header names one timestamp and one digest. -/
theorem signedHeader_inj {text text' : List Char} {payload payload' : List UInt8}
    (h : IsTimestamp env text) (h' : IsTimestamp env text')
    (heq : signedHeader env text payload = signedHeader env text' payload') :
    text = text' ∧ env.hmac (encode env.secret.toList) (signedBytes text payload) =
      env.hmac (encode env.secret.toList) (signedBytes text' payload') := by
  have hcomma : ∀ {t : List Char}, IsTimestamp env t → ',' ∉ ['t', '='] ++ t := by
    intro t ht
    simpa using ht.not_mem (by decide)
  obtain ⟨htext, hdigest⟩ := append_mark_inj (hcomma h) (hcomma h') heq
  exact ⟨List.append_cancel_left htext, hexdigest_inj (List.append_cancel_left hdigest)⟩

/-! ## What is accepted -/

/-- HMAC-SHA256 has no collision between the bytes that are signed for two bodies. -/
def CollisionFree (env : SignatureEnv) (payload payload' : List UInt8) : Prop :=
  ∀ text, env.hmac (encode env.secret.toList) (signedBytes text payload) =
    env.hmac (encode env.secret.toList) (signedBytes text payload') →
    signedBytes text payload = signedBytes text payload'

/-- Exactly the signed and fresh requests are accepted, and a header is accepted for one body. -/
theorem signature_accepted_iff (hsecret : env.secret ≠ "") :
    (∀ time payload signature, verifyWebhookSignature env time payload signature = .ok () ↔
      ∃ text, IsTimestamp env text ∧ |wholeSeconds time - Nat.ofDigitChars 10 text 0| ≤ 300 ∧
        signature.toList = signedHeader env text payload) ∧
    (∀ text text' payload payload', IsTimestamp env text → IsTimestamp env text' →
      signedBytes text payload = signedBytes text' payload' → text = text' ∧ payload = payload') ∧
    ∀ signature time time' payload payload',
      verifyWebhookSignature env time payload signature = .ok () →
      verifyWebhookSignature env time' payload' signature = .ok () →
      CollisionFree env payload payload' → payload = payload' := by
  refine ⟨?_, fun _ _ _ _ => signedBytes_inj, ?_⟩
  · intro time payload signature
    constructor
    · exact signed_of_verify
    · rintro ⟨text, htext, hfresh, hheader⟩
      exact verify_of_signed hsecret htext hfresh hheader
  · intro signature time time' payload payload' h h' hfree
    obtain ⟨text, htext, -, hheader⟩ := signed_of_verify h
    obtain ⟨text', htext', -, hheader'⟩ := signed_of_verify h'
    obtain ⟨rfl, hhmac⟩ := signedHeader_inj htext htext' (hheader.symm.trans hheader')
    exact (signedBytes_inj htext htext' (hfree text hhmac)).2

/-! ## A sample -/

/-- A secret, and HMAC-SHA256 on the message `700.{}`. -/
def sampleSignatureEnv : SignatureEnv where
  hmac _ _ := #v[55, 253, 36, 64, 1, 78, 145, 167, 83, 193, 90, 221, 165, 38, 12, 38, 214, 235, 117,
    91, 111, 250, 131, 21, 158, 84, 139, 63, 70, 173, 91, 117]
  maxStrDigits := 4300
  secret := "secret"

/-- The header of a request with the body `{}`. -/
def sampleHeader : String :=
  "t=700,v1=37fd2440014e91a753c15adda5260c26d6eb755b6ffa83159e548b3f46ad5b75"

/-- The sample header is signed. -/
theorem sampleHeader_signed :
    sampleHeader.toList = signedHeader sampleSignatureEnv ['7', '0', '0'] [123, 125] := by
  decide +kernel

/-- The sample header is accepted. -/
theorem signature_accepted_iff_sample :
    verifyWebhookSignature sampleSignatureEnv 1000 [123, 125] sampleHeader = .ok () := by
  obtain ⟨hexact, -, -⟩ := @signature_accepted_iff sampleSignatureEnv (by decide +kernel)
  exact (hexact _ _ _).mpr ⟨['7', '0', '0'],
    ⟨by decide, List.all_eq_true.mp rfl, by decide⟩, by decide +kernel, sampleHeader_signed⟩

/-- A timestamp that is 300.9 seconds old is accepted. -/
theorem signature_stale_accepted : ¬ ∀ (env : SignatureEnv) (time : ℚ) (payload : List UInt8)
    (signature : String), env.secret ≠ "" →
    (verifyWebhookSignature env time payload signature = .ok () ↔
      ∃ text, IsTimestamp env text ∧ |time - Nat.ofDigitChars 10 text 0| ≤ 300 ∧
        signature.toList = signedHeader env text payload) := by
  intro h
  have haccepted : verifyWebhookSignature sampleSignatureEnv (10009 / 10) [123, 125] sampleHeader =
      .ok () := by
    decide +kernel
  obtain ⟨text, htext, hfresh, hheader⟩ := (h _ _ _ _ (by decide)).mp haccepted
  have hsample : IsTimestamp sampleSignatureEnv ['7', '0', '0'] :=
    ⟨by decide, List.all_eq_true.mp rfl, by decide⟩
  obtain ⟨rfl, -⟩ := signedHeader_inj htext hsample (hheader.symm.trans sampleHeader_signed)
  revert hfresh
  decide +kernel

end Chargeflow
