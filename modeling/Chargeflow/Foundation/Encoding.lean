import Mathlib.Data.List.Basic
import Chargeflow.Foundation.Values

/-!
# Encodings that can be read back

A code is self-delimiting when the code of a value shows where it ends, whatever comes after it: two
texts that begin with the codes of two values are equal only if the values are, and the rests.  The
characters of a JSON text have such a code, hence so has the text up to its closing quote.  The
decimal text of an amount determines its sign and its hundredths.
-/

namespace Foundation

/-- The code of a value shows where it ends. -/
def SelfDelimiting {α β : Type*} (code : α → List β) : Prop :=
  ∀ a b u v, code a ++ u = code b ++ v → a = b ∧ u = v

namespace SelfDelimiting

variable {α β : Type*} {code : α → List β}

/-- A code that can be read back is self-delimiting. -/
theorem of_read (read : List β → Option (α × List β))
    (h : ∀ a u, read (code a ++ u) = some (a, u)) : SelfDelimiting code := by
  intro a b u v heq
  have hread : some (a, u) = some (b, v) := by rw [← h, ← h, heq]
  simpa using hread

/-- A sequence of codes that is closed by a mark no code begins with. -/
theorem closed (h : SelfDelimiting code) {mark : β}
    (hmark : ∀ a, ∃ c w, code a = c :: w ∧ c ≠ mark) :
    SelfDelimiting fun l : List α => l.flatMap code ++ [mark] := by
  intro l
  induction l with
  | nil =>
    intro l' u v heq
    cases l' with
    | nil => exact ⟨rfl, by simpa using heq⟩
    | cons b l' =>
      obtain ⟨c, w, hcode, hc⟩ := hmark b
      simp only [List.flatMap_nil, List.flatMap_cons, hcode, List.nil_append, List.cons_append,
        List.cons.injEq] at heq
      exact absurd heq.1.symm hc
  | cons a l ih =>
    intro l' u v heq
    cases l' with
    | nil =>
      obtain ⟨c, w, hcode, hc⟩ := hmark a
      simp only [List.flatMap_nil, List.flatMap_cons, hcode, List.nil_append, List.cons_append,
        List.cons.injEq] at heq
      exact absurd heq.1 hc
    | cons b l' =>
      simp only [List.flatMap_cons, List.append_assoc] at heq
      obtain ⟨rfl, hrest⟩ := h a b _ _ heq
      obtain ⟨rfl, huv⟩ := ih l' u v (by simpa only [List.append_assoc] using hrest)
      exact ⟨rfl, huv⟩

end SelfDelimiting

/-- A list can be split at the first occurrence of a mark. -/
theorem append_mark_inj {β : Type*} {mark : β} {l l' u v : List β} (hl : mark ∉ l) (hl' : mark ∉ l')
    (h : l ++ mark :: u = l' ++ mark :: v) : l = l' ∧ u = v := by
  rcases List.append_eq_append_iff.mp h with ⟨w, rfl, hw⟩ | ⟨w, rfl, hw⟩
  · cases w with
    | nil => exact ⟨(List.append_nil l).symm, (List.cons.inj hw).2⟩
    | cons a w =>
      obtain ⟨rfl, -⟩ := List.cons.inj hw
      exact absurd (List.mem_append_right l List.mem_cons_self) hl'
  · cases w with
    | nil => exact ⟨List.append_nil l', (List.cons.inj hw).2.symm⟩
    | cons a w =>
      obtain ⟨rfl, -⟩ := List.cons.inj hw
      exact absurd (List.mem_append_right l' List.mem_cons_self) hl

/-! ## Texts in JSON -/

/-- The value of a hexadecimal digit in lower case. -/
def hexValue (c : Char) : ℕ := if c.toNat < 58 then c.toNat - 48 else c.toNat - 87

/-- The value of the digit of a nibble is the nibble. -/
@[simp] theorem hexValue_hexDigit {n : ℕ} (h : n < 16) : hexValue (hexDigit n) = n := by
  have hall : ∀ n < 16, hexValue (hexDigit n) = n := by decide
  exact hall n h

/-- The UTF-16 code unit with four hexadecimal digits. -/
def codeUnit (a b c d : Char) : ℕ :=
  4096 * hexValue a + 256 * hexValue b + 16 * hexValue c + hexValue d

/-- A code unit is read back from its digits. -/
theorem codeUnit_digits {n : ℕ} (h : n < 65536) :
    codeUnit (hexDigit (n / 4096 % 16)) (hexDigit (n / 256 % 16)) (hexDigit (n / 16 % 16))
      (hexDigit (n % 16)) = n := by
  have hdigit : ∀ m, hexValue (hexDigit (m % 16)) = m % 16 :=
    fun m => hexValue_hexDigit (Nat.mod_lt m (by decide))
  unfold codeUnit
  rw [hdigit, hdigit, hdigit, hdigit]
  omega

/-- Read a character of a JSON text, and what follows it. -/
def readJsonChar : List Char → Option (Char × List Char)
  | '\\' :: 'u' :: a :: b :: c :: d :: u =>
    let n := codeUnit a b c d
    if 55296 ≤ n ∧ n < 56320 then
      match u with
      | _ :: _ :: a :: b :: c :: d :: v =>
        some (Char.ofNat (65536 + (n - 55296) * 1024 + (codeUnit a b c d - 56320)), v)
      | _ => none
    else
      some (Char.ofNat n, u)
  | '\\' :: c :: u =>
    some (if c = 'n' then '\n' else if c = 'r' then '\r' else if c = 't' then '\t'
      else if c = 'f' then Char.ofNat 12 else if c = 'b' then Char.ofNat 8 else c, u)
  | c :: u => some (c, u)
  | [] => none

/-- A code unit outside the surrogates is read as a character. -/
theorem readJsonChar_unicodeEscape {n : ℕ} (h : n < 65536) (hplain : n < 55296 ∨ 56320 ≤ n)
    (u : List Char) : readJsonChar (unicodeEscape n ++ u) = some (Char.ofNat n, u) := by
  simp only [unicodeEscape, List.cons_append, List.nil_append, readJsonChar, codeUnit_digits h]
  rw [if_neg (by omega)]

/-- A surrogate pair is read as a character. -/
theorem readJsonChar_pair {m : ℕ} (h : m < 1048576) (u : List Char) :
    readJsonChar (unicodeEscape (55296 + m / 1024) ++ (unicodeEscape (56320 + m % 1024) ++ u)) =
      some (Char.ofNat (65536 + m), u) := by
  have hhigh : codeUnit _ _ _ _ = 55296 + m / 1024 := codeUnit_digits (by omega)
  have hlow : codeUnit _ _ _ _ = 56320 + m % 1024 := codeUnit_digits (by omega)
  simp only [unicodeEscape, List.cons_append, List.nil_append, readJsonChar, hhigh, hlow]
  rw [if_pos (by omega)]
  have hm : 65536 + (55296 + m / 1024 - 55296) * 1024 + (56320 + m % 1024 - 56320) =
      65536 + m := by omega
  rw [hm]

/-- A character is read back from its escape. -/
theorem readJsonChar_jsonChar (c : Char) (u : List Char) :
    readJsonChar (jsonChar c ++ u) = some (c, u) := by
  unfold jsonChar
  split_ifs with h₁ h₂ h₃ h₄ h₅ h₆ h₇ h₈ h₉
  · subst h₁; rfl
  · subst h₂; rfl
  · subst h₃; rfl
  · subst h₄; rfl
  · subst h₅; rfl
  · obtain rfl : c = Char.ofNat 12 := by rw [← h₆, Char.ofNat_toNat]
    rfl
  · obtain rfl : c = Char.ofNat 8 := by rw [← h₇, Char.ofNat_toNat]
    rfl
  · -- a backslash would have been escaped
    unfold readJsonChar
    split
    · rename_i heq
      simp only [List.cons_append, List.nil_append, List.cons.injEq] at heq
      exact absurd heq.1 h₂
    · rename_i heq
      simp only [List.cons_append, List.nil_append, List.cons.injEq] at heq
      exact absurd heq.1 h₂
    · rename_i heq
      simp only [List.cons_append, List.nil_append, List.cons.injEq] at heq
      rw [heq.1, heq.2]
    · rename_i heq
      cases heq
  · -- no character is a surrogate
    have hvalid : c.toNat < 55296 ∨ 57343 < c.toNat ∧ c.toNat < 1114112 := c.valid
    rw [readJsonChar_unicodeEscape h₉ (by omega), Char.ofNat_toNat]
  · have hvalid : c.toNat < 55296 ∨ 57343 < c.toNat ∧ c.toNat < 1114112 := c.valid
    rw [List.append_assoc, readJsonChar_pair (by omega)]
    have hc : 65536 + (c.toNat - 65536) = c.toNat := by omega
    rw [hc, Char.ofNat_toNat]

/-- The escapes of characters are self-delimiting. -/
theorem selfDelimiting_jsonChar : SelfDelimiting jsonChar :=
  .of_read readJsonChar readJsonChar_jsonChar

/-- No escape begins with a quote. -/
theorem jsonChar_eq_cons (c : Char) : ∃ a w, jsonChar c = a :: w ∧ a ≠ '"' := by
  unfold jsonChar
  split_ifs with h₁ h₂ h₃ h₄ h₅ h₆ h₇ h₈ h₉
  all_goals first
    | exact ⟨_, _, rfl, by decide⟩
    | exact ⟨c, [], rfl, h₁⟩

/-- A text in quotes is self-delimiting. -/
theorem selfDelimiting_jsonString : SelfDelimiting fun s => (jsonString s).toList := by
  intro s t u v heq
  simp only [jsonString, String.toList_ofList, List.cons_append, List.cons.injEq, true_and] at heq
  obtain ⟨hlist, huv⟩ := selfDelimiting_jsonChar.closed jsonChar_eq_cons _ _ u v heq
  exact ⟨String.toList_inj.mp hlist, huv⟩

/-! ## Amounts -/

/-- A decimal numeral consists of digits. -/
theorem isDigit_of_mem_toString {n : ℕ} {c : Char} (h : c ∈ (toString n).toList) :
    c.isDigit = true := by
  rw [Nat.toString_eq_ofList_toDigits, String.toList_ofList] at h
  exact Nat.isDigit_of_mem_toDigits (by decide) (by decide) h

/-- A decimal numeral determines the number. -/
theorem toString_nat_inj {m n : ℕ} (h : (toString m).toList = (toString n).toList) : m = n := by
  simp only [Nat.toString_eq_ofList_toDigits, String.toList_ofList] at h
  rw [← Nat.ofDigitChars_ten_toDigits (n := m), h, Nat.ofDigitChars_ten_toDigits]

/-- One digit is one character. -/
theorem length_toString_digit (n : ℕ) : (toString (n % 10)).toList.length = 1 := by
  have hall : ∀ m < 10, (toString m).toList.length = 1 := by decide
  exact hall _ (Nat.mod_lt n (by decide))

/-- The digits of an amount with two places. -/
def amountDigits (n : ℕ) : List Char :=
  (toString (n / 100)).toList ++ ('.' :: (toString (n / 10 % 10)).toList ++
    (toString (n % 10)).toList)

/-- Amounts with the same digits are the same. -/
theorem amountDigits_inj {m n : ℕ} (h : amountDigits m = amountDigits n) : m = n := by
  have hlength : ∀ k : ℕ, ('.' :: (toString (k / 10 % 10)).toList ++
      (toString (k % 10)).toList).length = 3 := by
    intro k
    rw [List.cons_append, List.length_cons, List.length_append, length_toString_digit,
      length_toString_digit]
  obtain ⟨hwhole, hplaces⟩ := List.append_inj' h ((hlength m).trans (hlength n).symm)
  simp only [List.cons_append, List.cons.injEq, true_and] at hplaces
  obtain ⟨htenths, hhundredths⟩ := List.append_inj hplaces
    ((length_toString_digit _).trans (length_toString_digit _).symm)
  have h₁ := toString_nat_inj hwhole
  have h₂ := toString_nat_inj htenths
  have h₃ := toString_nat_inj hhundredths
  omega

/-- The digits of an amount do not begin with a sign. -/
theorem amountDigits_ne (n : ℕ) (l : List Char) : amountDigits n ≠ '-' :: l := by
  intro h
  unfold amountDigits at h
  cases hwhole : (toString (n / 100)).toList with
  | nil =>
    rw [hwhole] at h
    cases h
  | cons c w =>
    rw [hwhole] at h
    have hdigit : c.isDigit = true :=
      isDigit_of_mem_toString (n := n / 100) (by rw [hwhole]; exact List.mem_cons_self)
    obtain rfl : c = '-' := (List.cons.inj h).1
    cases hdigit

namespace Decimal

/-- The text of an amount gives its sign and its hundredths. -/
theorem quantizedText_inj {d e : Decimal} {text : String} (hd : d.quantizedText = some text)
    (he : e.quantizedText = some text) : d.negative = e.negative ∧ d.hundredths = e.hundredths := by
  unfold quantizedText at hd he
  obtain ⟨m, hm, htext⟩ := Option.map_eq_some_iff.mp hd
  obtain ⟨n, hn, rfl⟩ := Option.map_eq_some_iff.mp he
  have hdigits : (if d.negative then ['-'] else []) ++ amountDigits m =
      (if e.negative then ['-'] else []) ++ amountDigits n := by
    have hlist := congrArg String.toList htext
    simp only [String.toList_append, apply_ite String.toList] at hlist
    simpa [amountDigits] using hlist
  have hparts : d.negative = e.negative ∧ amountDigits m = amountDigits n := by
    cases hneg : d.negative <;> cases hneg' : e.negative
    · exact ⟨rfl, by simpa [hneg, hneg'] using hdigits⟩
    · exact absurd (by simpa [hneg, hneg'] using hdigits) (amountDigits_ne m (amountDigits n))
    · exact absurd (by simpa [hneg, hneg'] using hdigits.symm) (amountDigits_ne n (amountDigits m))
    · exact ⟨rfl, by simpa [hneg, hneg'] using hdigits⟩
  exact ⟨hparts.1, by rw [hm, hn, amountDigits_inj hparts.2]⟩

end Decimal

end Foundation
