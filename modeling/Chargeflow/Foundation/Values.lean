import Mathlib.Data.List.Basic
import Mathlib.Algebra.Order.Ring.Int
import Mathlib.Algebra.Order.Ring.Nat

/-!
# Dynamic values

The values a Python program exchanges as JSON, with Python's truth test on them, and finite decimal
numbers with the rounding of `Decimal.quantize`.  `jsonString` writes a text the way `json.dumps`
does by default, escaping everything outside printable ASCII.
-/

namespace Foundation

/-- A JSON value.  A number that is not an integer is kept as `mantissa * 10 ^ exponent`. -/
inductive Json where
  | null
  | bool (b : Bool)
  | int (n : ℤ)
  | float (mantissa exponent : ℤ)
  | str (s : String)
  | arr (items : List Json)
  | obj (fields : List (String × Json))
  deriving Inhabited

namespace Json

/-- Python's truth test: the empty values and zero are false. -/
def truthy : Json → Bool
  | null => false
  | bool b => b
  | int n => n != 0
  | float m _ => m != 0
  | str s => s != ""
  | arr xs => !xs.isEmpty
  | obj fs => !fs.isEmpty

/-- Whether a value is the given text. -/
def isText (s : String) : Json → Bool
  | str t => t == s
  | _ => false

/-- A text is true when it is not empty. -/
@[simp] theorem truthy_str {s : String} : truthy (str s) = true ↔ s ≠ "" := by
  simp [truthy]

/-- The value of a field of an object, or a default (`dict.get`). -/
def get (fields : List (String × Json)) (name : String) (default : Json) : Json :=
  (fields.lookup name).getD default

/-- The text `s` occurs in a value, as the value itself or at any depth inside it. -/
inductive Occurs (s : String) : Json → Prop
  | text : Occurs s (str s)
  | item {items : List Json} {v : Json} : v ∈ items → Occurs s v → Occurs s (arr items)
  | field {fields : List (String × Json)} {name : String} {v : Json} :
      (name, v) ∈ fields → Occurs s v → Occurs s (obj fields)

/-- A text occurs in a text just when they are the same. -/
theorem occurs_str {s t : String} : Occurs s (str t) ↔ t = s := by
  constructor
  · intro h
    cases h
    rfl
  · rintro rfl
    exact .text

end Json

/-! ## What a database can store -/

/-- A text that PostgreSQL can store: it has no NUL character. -/
def StorableText (s : String) : Prop := ∀ c ∈ s.toList, c.toNat ≠ 0

/-- Whether a text can be stored can be computed. -/
instance (s : String) : Decidable (StorableText s) :=
  decidable_of_iff (s.toList.all (fun c => c.toNat != 0) = true) (by simp [StorableText])

/-- A document that PostgreSQL can store: neither its texts nor the names of its fields have a NUL
character. -/
inductive Json.Storable : Json → Prop
  | null : Storable null
  | bool (b : Bool) : Storable (bool b)
  | int (n : ℤ) : Storable (int n)
  | float (mantissa exponent : ℤ) : Storable (float mantissa exponent)
  | str {s : String} (h : StorableText s) : Storable (str s)
  | arr {items : List Json} (h : ∀ v ∈ items, Storable v) : Storable (arr items)
  | obj {fields : List (String × Json)} (hnames : ∀ f ∈ fields, StorableText f.1)
      (hvalues : ∀ f ∈ fields, Storable f.2) : Storable (obj fields)

/-- The value of a field can be stored when its object and the default can. -/
theorem Json.Storable.get {fields : List (String × Json)} {default : Json}
    (h : (Json.obj fields).Storable) (hdefault : default.Storable) (name : String) :
    (Json.get fields name default).Storable := by
  cases h with
  | obj _ hvalues =>
    unfold Json.get
    cases hlookup : fields.lookup name with
    | none => exact hdefault
    | some v =>
      obtain ⟨l₁, l₂, rfl, -⟩ := List.lookup_eq_some_iff.mp hlookup
      exact hvalues (name, v) (by simp)

/-! ## Texts in JSON -/

/-- A hexadecimal digit, in lower case. -/
def hexDigit (n : ℕ) : Char :=
  if n < 10 then Char.ofNat (48 + n) else Char.ofNat (87 + n)

/-- The escape of a UTF-16 code unit. -/
def unicodeEscape (n : ℕ) : List Char :=
  ['\\', 'u', hexDigit (n / 4096 % 16), hexDigit (n / 256 % 16), hexDigit (n / 16 % 16),
    hexDigit (n % 16)]

/-- A character inside a JSON text. -/
def jsonChar (c : Char) : List Char :=
  if c = '"' then ['\\', '"']
  else if c = '\\' then ['\\', '\\']
  else if c = '\n' then ['\\', 'n']
  else if c = '\r' then ['\\', 'r']
  else if c = '\t' then ['\\', 't']
  else if c.toNat = 12 then ['\\', 'f']
  else if c.toNat = 8 then ['\\', 'b']
  else if 32 ≤ c.toNat ∧ c.toNat ≤ 126 then [c]
  else if c.toNat < 65536 then unicodeEscape c.toNat
  else
    -- a surrogate pair
    unicodeEscape (55296 + (c.toNat - 65536) / 1024) ++
      unicodeEscape (56320 + (c.toNat - 65536) % 1024)

/-- A text as `json.dumps` writes it. -/
def jsonString (s : String) : String :=
  String.ofList ('"' :: s.toList.flatMap jsonChar ++ ['"'])

/-! ## Decimal numbers -/

/-- A finite decimal number: the sign, the digits and the exponent of ten. -/
structure Decimal where
  /-- The sign: true for numbers below zero, and for negative zero. -/
  negative : Bool
  /-- The digits. -/
  coefficient : ℕ
  /-- The power of ten the digits are multiplied by. -/
  exponent : ℤ
  deriving DecidableEq

namespace Decimal

/-- The decimal with two places that has the given number of hundredths. -/
def ofCents (c : ℤ) : Decimal := ⟨decide (c < 0), c.natAbs, -2⟩

/-- Division by a power of ten, rounding to nearest and ties to the even neighbour. -/
def roundHalfEven (n k : ℕ) : ℕ :=
  let q := n / 10 ^ k
  let r := n % 10 ^ k
  if 10 ^ k < 2 * r ∨ (2 * r = 10 ^ k ∧ q % 2 = 1) then q + 1 else q

/-- The number of hundredths of `quantize(Decimal("0.01"))`, without the sign.  It fails when the
result has more digits than the default context carries. -/
def hundredths (d : Decimal) : Option ℕ :=
  let n :=
    if -2 ≤ d.exponent then d.coefficient * 10 ^ (d.exponent + 2).toNat
    else roundHalfEven d.coefficient (-2 - d.exponent).toNat
  if n < 10 ^ 28 then some n else none

/-- The text of `quantize(Decimal("0.01"))`: two digits after the point. -/
def quantizedText (d : Decimal) : Option String :=
  d.hundredths.map fun n =>
    (if d.negative then "-" else "") ++ toString (n / 100) ++ "." ++
      toString (n / 10 % 10) ++ toString (n % 10)

end Decimal

/-! ## Floating-point numbers

`float` of a decimal text and `int` of the result: the double nearest to the number, halves to even,
without its fraction.  A number that is too large becomes an infinity, which has no integer. -/

/-- The quotient rounded to an integer, halves to even. -/
def roundHalfEven (a b : ℕ) : ℕ :=
  if b < 2 * (a % b) ∨ (2 * (a % b) = b ∧ a / b % 2 = 1) then a / b + 1 else a / b

/-- The double nearest to `a / b`, as a significand and a power of two. -/
def toDouble (a b : ℕ) : ℕ × ℤ :=
  let d : ℤ := Nat.log2 a - Nat.log2 b
  -- the power of two below the quotient
  let k : ℤ := if b * 2 ^ d.toNat ≤ a * 2 ^ (-d).toNat then d else d - 1
  let e : ℤ := max (k - 52) (-1074)
  (roundHalfEven (a * 2 ^ (-e).toNat) (b * 2 ^ e.toNat), e)

/-- `int(float(...))` of the number `m * 10 ^ e`; infinities have none. -/
@[irreducible] def truncFloat (m e : ℤ) : Option ℤ :=
  let (n, k) := toDouble (m.natAbs * 10 ^ e.toNat) (10 ^ (-e).toNat)
  if 2 ^ 1024 ≤ n * 2 ^ k.toNat then none
  else some (m.sign * (n * 2 ^ k.toNat / 2 ^ (-k).toNat : ℕ))

example : truncFloat (-15) (-1) = some (-1) := by decide +kernel

/-- A fraction may be rounded up to one, and an odd integer to an even one. -/
example : truncFloat 99999999999999999999 (-20) = some 1 ∧
    truncFloat 90071992547409930 (-1) = some 9007199254740992 := by decide +kernel

end Foundation
