import Mathlib.Data.Rat.Defs
import Mathlib.Algebra.Order.Group.Unbundled.Int
import Chargeflow.Foundation.Transitions
import Chargeflow.Foundation.Values

/-!
# Webhook signatures

`verify_webhook_signature`, on the header as a sequence of characters and the body as a sequence of
bytes.  HMAC-SHA256 is a parameter: a function of the key and the message with values of 32 bytes.
-/

namespace Chargeflow

open Foundation

/-- `WebhookSignatureError`. -/
structure WebhookSignatureError where
  message : String
  deriving DecidableEq

/-- What the verification takes from outside. -/
structure SignatureEnv where
  /-- HMAC-SHA256 of a key and a message. -/
  hmac : List UInt8 → List UInt8 → Vector UInt8 32
  /-- The number of digits up to which `int` reads a text, or zero for no limit. -/
  maxStrDigits : ℕ
  /-- `settings.WEBHOOK_SECRET`. -/
  secret : String

/-- `str.encode`, in UTF-8. -/
def encode (text : List Char) : List UInt8 := text.flatMap String.utf8EncodeChar

/-- `hexdigest`: two digits for each byte, in lower case. -/
def hexdigest (bytes : Vector UInt8 32) : List Char :=
  bytes.toList.flatMap fun b => [hexDigit (b.toNat / 16), hexDigit (b.toNat % 16)]

/-- `str.isascii`. -/
def isascii (text : List Char) : Bool := text.all fun c => decide (c.toNat < 128)

/-- `str.isdigit`, on a text in ASCII. -/
def isdigit (text : List Char) : Bool := !text.isEmpty && text.all Char.isDigit

/-- `int` of a text of digits, with leading zeros; it fails on too many digits. -/
def parseInt (maxStrDigits : ℕ) (text : List Char) : Option ℕ :=
  if maxStrDigits ≠ 0 ∧ maxStrDigits < text.length then none else some (Nat.ofDigitChars 10 text 0)

/-- `int` of a clock reading, which drops the fraction. -/
def wholeSeconds (time : ℚ) : ℤ := time.num.tdiv time.den

/-- The bytes that are signed. -/
def signedBytes (timestampText : List Char) (payload : List UInt8) : List UInt8 :=
  encode timestampText ++ (46 :: payload)

/-- The error that tells nothing about what is wrong with a signature. -/
def invalidSignature : WebhookSignatureError := ⟨"Invalid webhook signature"⟩

/-- `verify_webhook_signature`, at the clock reading `time`. -/
def verifyWebhookSignature (env : SignatureEnv) (time : ℚ) (payload : List UInt8)
    (signature : String) : Except WebhookSignatureError Unit :=
  if env.secret = "" then
    .error ⟨"WEBHOOK_SECRET is not configured"⟩
  else
    match signature.toList.splitOn ',' with
    | [first, second] =>
      if !(['t', '='].isPrefixOf first && ['v', '1', '='].isPrefixOf second) then
        .error invalidSignature
      else
        let timestampText := first.drop 2
        let digest := second.drop 3
        if !isascii timestampText || !isdigit timestampText || digest.length != 64 ||
            !isascii digest || digest.any (fun c => !"0123456789abcdefABCDEF".toList.contains c) then
          .error invalidSignature
        else
          match parseInt env.maxStrDigits timestampText with
          | none => .error invalidSignature
          | some timestamp =>
            if 300 < |wholeSeconds time - timestamp| then
              .error ⟨"Webhook timestamp is outside the allowed window"⟩
            else if hexdigest (env.hmac (encode env.secret.toList)
                (signedBytes timestampText payload)) ≠ digest then
              .error invalidSignature
            else
              .ok ()
    | _ => .error invalidSignature

end Chargeflow
