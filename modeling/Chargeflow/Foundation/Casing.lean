import Mathlib.Data.List.Basic

/-!
# Lower case

`str.lower` and `str.strip` on sequences of characters, as Unicode defines them: the character
database is a parameter.  Each character has its lower-case text, but a capital sigma becomes a
final or a plain one, depending on the cased letters around it.  Lower-casing a lower-cased text
changes nothing, since the database has no capital in a lower-case text.
-/

namespace Foundation

/-- What the character database says about letters and blanks. -/
structure CaseTable where
  /-- The lower-case text of a character. -/
  lowerFull : Char → List Char
  /-- `Cased`. -/
  cased : Char → Bool
  /-- `Case_Ignorable`. -/
  caseIgnorable : Char → Bool
  /-- The blanks that `str.strip` removes. -/
  isspace : Char → Bool
  /-- A lower-case text consists of characters that are their own lower case. -/
  lowerFull_fixed : ∀ c, c ≠ 'Σ' → ∀ d ∈ lowerFull c, d ≠ 'Σ' ∧ lowerFull d = [d]
  /-- The final sigma is in lower case. -/
  lowerFull_finalSigma : lowerFull 'ς' = ['ς']
  /-- The plain sigma is in lower case. -/
  lowerFull_sigma : lowerFull 'σ' = ['σ']

namespace CaseTable

variable (t : CaseTable)

/-- Whether the first character that is not ignorable is cased. -/
def meetsCased (l : List Char) : Bool :=
  match l.dropWhile t.caseIgnorable with
  | [] => false
  | c :: _ => t.cased c

/-- The lower case of a capital sigma, with the characters before it (the nearest first) and after
it. -/
def lowerSigma (before after : List Char) : Char :=
  if t.meetsCased before && !t.meetsCased after then 'ς' else 'σ'

/-- Lower case, given the characters before the text (the nearest first). -/
def lowerAfter (before : List Char) : List Char → List Char
  | [] => []
  | c :: rest =>
    (if c = 'Σ' then [t.lowerSigma before rest] else t.lowerFull c) ++ lowerAfter (c :: before) rest

/-- `str.lower`. -/
def lower (s : String) : String := String.ofList (t.lowerAfter [] s.toList)

/-- `str.strip`. -/
def strip (s : String) : String :=
  String.ofList ((s.toList.dropWhile t.isspace).reverse.dropWhile t.isspace).reverse

/-- The character is its own lower case. -/
def Small (c : Char) : Prop := c ≠ 'Σ' ∧ t.lowerFull c = [c]

variable {t}

/-- A capital sigma lowers to a small letter, wherever it stands. -/
theorem small_lowerSigma (before after : List Char) : t.Small (t.lowerSigma before after) := by
  unfold lowerSigma
  split_ifs
  · exact ⟨by decide, t.lowerFull_finalSigma⟩
  · exact ⟨by decide, t.lowerFull_sigma⟩

/-- Lower-casing leaves small characters. -/
theorem small_of_mem_lowerAfter {before l : List Char} :
    ∀ d ∈ t.lowerAfter before l, t.Small d := by
  induction l generalizing before with
  | nil =>
    intro d hd
    cases hd
  | cons c rest ih =>
    intro d hd
    rcases List.mem_append.mp hd with hd | hd
    · split_ifs at hd with hc
      · rw [List.mem_singleton.mp hd]
        exact small_lowerSigma before rest
      · exact t.lowerFull_fixed c hc d hd
    · exact ih d hd

/-- Small characters stay. -/
theorem lowerAfter_of_small {before l : List Char} (h : ∀ d ∈ l, t.Small d) :
    t.lowerAfter before l = l := by
  induction l generalizing before with
  | nil => rfl
  | cons c rest ih =>
    obtain ⟨hsigma, hfixed⟩ := h c List.mem_cons_self
    rw [lowerAfter, if_neg hsigma, hfixed, ih fun d hd => h d (List.mem_cons_of_mem c hd)]
    rfl

/-- A text of small characters is its own lower case. -/
theorem lower_of_small {s : String} (h : ∀ d ∈ s.toList, t.Small d) : t.lower s = s := by
  rw [lower, lowerAfter_of_small h, String.ofList_toList]

/-- What `lower` returns consists of small letters. -/
theorem small_of_mem_lower {s : String} : ∀ d ∈ (t.lower s).toList, t.Small d := by
  rw [lower, String.toList_ofList]
  exact small_of_mem_lowerAfter

/-- Lower-casing again changes nothing. -/
@[simp] theorem lower_lower (s : String) : t.lower (t.lower s) = t.lower s :=
  lower_of_small small_of_mem_lower

/-- Stripping only removes characters. -/
theorem mem_of_mem_strip {s : String} {c : Char} (h : c ∈ (t.strip s).toList) : c ∈ s.toList := by
  rw [strip, String.toList_ofList, List.mem_reverse] at h
  have hback := (List.dropWhile_sublist _).mem h
  exact (List.dropWhile_sublist _).mem (List.mem_reverse.mp hback)

end CaseTable

/-- Other letters than the capital sigma lower once and for all. -/
theorem toLower_ascii {c : Char} (hc : c ≠ 'Σ') :
    c.toLower ≠ 'Σ' ∧ c.toLower.toLower = c.toLower := by
  by_cases h : c.val ≥ 'A'.val ∧ c.val ≤ 'Z'.val
  · have hall : ∀ n < 91, 65 ≤ n → (Char.ofNat n).toLower ≠ 'Σ' ∧
        (Char.ofNat n).toLower.toLower = (Char.ofNat n).toLower := by decide +kernel
    have hlow : 65 ≤ c.toNat := h.1
    have hhigh : c.toNat ≤ 90 := h.2
    have hletter := hall c.toNat (by omega) hlow
    rwa [Char.ofNat_toNat] at hletter
  · have hlower : c.toLower = c := by
      unfold Char.toLower
      rw [dif_neg h]
    rw [hlower, hlower]
    exact ⟨hc, rfl⟩

/-- The letters and blanks of ASCII. -/
def asciiTable : CaseTable where
  lowerFull c := [c.toLower]
  cased := Char.isAlpha
  caseIgnorable c := c ∈ ['\'', '.', ':', '^', Char.ofNat 96]
  isspace := Char.isWhitespace
  lowerFull_fixed c hc d hd := by
    obtain ⟨hsigma, htwice⟩ := toLower_ascii hc
    rw [List.mem_singleton.mp hd]
    exact ⟨hsigma, by rw [htwice]⟩
  lowerFull_finalSigma := by rfl
  lowerFull_sigma := by rfl

end Foundation
