import Mathlib.Order.Lattice
import Mathlib.Algebra.Order.Ring.Nat
import Mathlib.Algebra.Ring.Divisibility.Basic
import Mathlib.Tactic.IntervalCases

/-!
# The civil calendar

Dates of the proleptic Gregorian calendar between the years 1 and 9999, and points in time on them
with microsecond resolution, all in one time zone.  A `Date` carries the proof that it exists in the
calendar, so there is no 30 February.  Dates are numbered by `Date.ordinal` and points in time by
`DateTime.instant`; the order on both is the order of these numbers, and the arithmetic of days and
months is stated through them.
-/

namespace Foundation

/-- Leap years: every fourth year, except the centuries that 400 does not divide. -/
def isLeap (y : ℕ) : Bool := y % 4 == 0 && (y % 100 != 0 || y % 400 == 0)

/-- The number of days of the month `m` in the year `y`. -/
def daysInMonth (y m : ℕ) : ℕ :=
  match m with
  | 2 => if isLeap y then 29 else 28
  | 4 | 6 | 9 | 11 => 30
  | _ => 31

/-- The days of a year before its month `m`. -/
def daysBeforeMonth (y : ℕ) : ℕ → ℕ
  | 0 => 0
  | 1 => 0
  | m + 2 => daysBeforeMonth y (m + 1) + daysInMonth y (m + 1)

/-- The days of the calendar before the year `y`. -/
def daysBeforeYear (y : ℕ) : ℕ := (y - 1) * 365 + (y - 1) / 4 - (y - 1) / 100 + (y - 1) / 400

/-- The day `d` of the month `m` exists in the year `y`, and the year is between 1 and 9999. -/
def ValidYmd (y m d : ℕ) : Prop :=
  (1 ≤ y ∧ y ≤ 9999) ∧ (1 ≤ m ∧ m ≤ 12) ∧ 1 ≤ d ∧ d ≤ daysInMonth y m

/-- Whether a date is valid can be computed. -/
instance (y m d : ℕ) : Decidable (ValidYmd y m d) := by
  unfold ValidYmd; infer_instance

/-- A date of the calendar. -/
structure Date where
  /-- The year. -/
  year : ℕ
  /-- The month, from 1. -/
  month : ℕ
  /-- The day of the month, from 1. -/
  day : ℕ
  /-- The date exists. -/
  valid : ValidYmd year month day
  deriving DecidableEq

/-- The number of microseconds in a day. -/
def microsPerDay : ℕ := 86400000000

/-- A point in time: a date and the microseconds since its midnight. -/
structure DateTime where
  /-- The date. -/
  date : Date
  /-- The microseconds since midnight. -/
  micros : ℕ
  /-- The time of day is within the day. -/
  micros_lt : micros < microsPerDay
  deriving DecidableEq

/-! ## Numbering days -/

/-- The days before the month after `m`. -/
theorem daysBeforeMonth_succ (y : ℕ) {m : ℕ} (hm : 1 ≤ m) :
    daysBeforeMonth y (m + 1) = daysBeforeMonth y m + daysInMonth y m := by
  obtain ⟨k, rfl⟩ := Nat.exists_eq_add_of_le' hm
  rfl

/-- A year is a leap year when 4 divides it, unless 100 does and 400 does not. -/
theorem isLeap_iff {y : ℕ} : isLeap y = true ↔ 4 ∣ y ∧ (¬ 100 ∣ y ∨ 400 ∣ y) := by
  simp [isLeap, Nat.dvd_iff_mod_eq_zero]

/-- The days before the year after `y`. -/
theorem daysBeforeYear_succ {y : ℕ} (hy : 1 ≤ y) :
    daysBeforeYear (y + 1) = daysBeforeYear y + (if isLeap y then 366 else 365) := by
  obtain ⟨k, rfl⟩ := Nat.exists_eq_add_of_le' hy
  have h100 : 400 ∣ k + 1 → 100 ∣ k + 1 := Dvd.dvd.trans (by decide)
  have h4 : 100 ∣ k + 1 → 4 ∣ k + 1 := Dvd.dvd.trans (by decide)
  have hle : k / 100 ≤ k / 4 := Nat.div_le_div_left (by decide) (by decide)
  simp only [daysBeforeYear, Nat.add_sub_cancel, isLeap_iff, Nat.succ_div]
  split_ifs <;> omega

/-- The days before a month grow with the month. -/
theorem daysBeforeMonth_mono (y : ℕ) : Monotone (daysBeforeMonth y) := by
  refine monotone_nat_of_le_succ ?_
  intro m
  cases m with
  | zero => exact le_rfl
  | succ m => rw [daysBeforeMonth_succ y (Nat.succ_pos m)]; exact Nat.le_add_right _ _

/-- The days before a year grow with the year. -/
theorem daysBeforeYear_mono : Monotone daysBeforeYear := by
  refine monotone_nat_of_le_succ ?_
  intro y
  cases y with
  | zero => exact le_rfl
  | succ y => rw [daysBeforeYear_succ (Nat.succ_pos y)]; exact Nat.le_add_right _ _

/-- The twelve months make up the year. -/
theorem daysBeforeMonth_thirteen (y : ℕ) :
    daysBeforeMonth y 13 = if isLeap y then 366 else 365 := by
  simp only [daysBeforeMonth, daysInMonth]
  split <;> rfl

/-- A month has 28 to 31 days. -/
theorem daysInMonth_bounds (y m : ℕ) : 28 ≤ daysInMonth y m ∧ daysInMonth y m ≤ 31 := by
  unfold daysInMonth
  split
  case h_1 => split <;> decide
  all_goals decide

/-- Only February is longer in another year, by the leap day. -/
theorem daysInMonth_lt {y z m : ℕ} (h : daysInMonth z m < daysInMonth y m) :
    m = 2 ∧ isLeap y = true ∧ daysInMonth y m = daysInMonth z m + 1 := by
  by_cases hm : m = 2
  · subst hm
    cases hy : isLeap y <;> cases hz : isLeap z <;> simp_all [daysInMonth]
  · have hsame : daysInMonth y m = daysInMonth z m := by
      unfold daysInMonth
      split <;> first | rfl | contradiction
    omega

/-- The days before a month depend on the year after February only. -/
theorem daysBeforeMonth_eq (y : ℕ) {m : ℕ} (hm : m ≤ 12) :
    daysBeforeMonth y m = daysBeforeMonth 1 m + if 2 < m ∧ isLeap y then 1 else 0 := by
  have hfirst : isLeap 1 = false := rfl
  interval_cases m <;> cases h : isLeap y <;> simp [daysBeforeMonth, daysInMonth, h, hfirst]

namespace Date

/-- The number of the date, counting 1 January of the year 1 as day one. -/
def ordinal (d : Date) : ℕ := daysBeforeYear d.year + daysBeforeMonth d.year d.month + d.day

/-- A date lies before the end of its month. -/
theorem ordinal_le_monthEnd (d : Date) :
    d.ordinal ≤ daysBeforeYear d.year + daysBeforeMonth d.year (d.month + 1) := by
  have hday := d.valid.2.2.2
  rw [daysBeforeMonth_succ _ d.valid.2.1.1, ordinal]
  omega

/-- A date lies before the end of its year. -/
theorem ordinal_le_yearEnd (d : Date) : d.ordinal ≤ daysBeforeYear (d.year + 1) := by
  have hmonth : daysBeforeMonth d.year (d.month + 1) ≤ daysBeforeMonth d.year 13 :=
    daysBeforeMonth_mono d.year (Nat.succ_le_succ d.valid.2.1.2)
  have hend := d.ordinal_le_monthEnd
  rw [daysBeforeMonth_thirteen] at hmonth
  rw [daysBeforeYear_succ d.valid.1.1]
  omega

/-- A date in a later year has a larger number. -/
theorem ordinal_lt_of_year_lt {d e : Date} (h : d.year < e.year) : d.ordinal < e.ordinal := by
  have h1 := d.ordinal_le_yearEnd
  have h2 : daysBeforeYear (d.year + 1) ≤ daysBeforeYear e.year := daysBeforeYear_mono h
  have h3 := e.valid.2.2.1
  rw [ordinal] at *
  rw [ordinal]
  omega

/-- A date in a later month of the same year has a larger number. -/
theorem ordinal_lt_of_month_lt {d e : Date} (hy : d.year = e.year) (h : d.month < e.month) :
    d.ordinal < e.ordinal := by
  have h1 := d.ordinal_le_monthEnd
  have h2 : daysBeforeMonth e.year (d.month + 1) ≤ daysBeforeMonth e.year e.month :=
    daysBeforeMonth_mono e.year h
  have h3 := e.valid.2.2.1
  rw [hy] at h1
  have h4 : e.ordinal = daysBeforeYear e.year + daysBeforeMonth e.year e.month + e.day := rfl
  omega

/-- Different dates have different numbers. -/
theorem ordinal_injective : Function.Injective ordinal := by
  intro d e h
  rcases lt_trichotomy d.year e.year with hy | hy | hy
  · exact absurd h (ordinal_lt_of_year_lt hy).ne
  · rcases lt_trichotomy d.month e.month with hm | hm | hm
    · exact absurd h (ordinal_lt_of_month_lt hy hm).ne
    · have hd : d.day = e.day := by
        simp only [ordinal, hy, hm] at h
        omega
      cases d; cases e
      simp_all
    · exact absurd h (ordinal_lt_of_month_lt hy.symm hm).ne'
  · exact absurd h (ordinal_lt_of_year_lt hy).ne'

/-- The date with the given year, month and day, if there is one. -/
def ofYmd? (y m d : ℕ) : Option Date :=
  if h : ValidYmd y m d then some ⟨y, m, d, h⟩ else none

/-- The date found for a year, a month and a day has that year, month and day. -/
theorem ofYmd?_eq_some {y m d : ℕ} {e : Date} (h : ofYmd? y m d = some e) :
    e.year = y ∧ e.month = m ∧ e.day = d := by
  unfold ofYmd? at h
  split_ifs at h
  cases h
  exact ⟨rfl, rfl, rfl⟩

/-- A date that exists. -/
theorem ofYmd?_of_valid {y m d : ℕ} (h : ValidYmd y m d) : ofYmd? y m d = some ⟨y, m, d, h⟩ :=
  dif_pos h

/-- A number with leading zeros, at least `width` digits wide. -/
def zeroPadded (width n : ℕ) : String :=
  let digits := toString n
  String.ofList (List.replicate (width - digits.length) '0') ++ digits

/-- The date in the format `YYYY-MM-DD`. -/
def isoFormat (d : Date) : String :=
  zeroPadded 4 d.year ++ "-" ++ zeroPadded 2 d.month ++ "-" ++ zeroPadded 2 d.day

/-- The day after, unless the calendar ends. -/
def tomorrow (d : Date) : Option Date :=
  if d.day + 1 ≤ daysInMonth d.year d.month then ofYmd? d.year d.month (d.day + 1)
  else if d.month + 1 ≤ 12 then ofYmd? d.year (d.month + 1) 1
  else ofYmd? (d.year + 1) 1 1

/-- The day after has the next number. -/
theorem ordinal_tomorrow {d e : Date} (h : d.tomorrow = some e) : e.ordinal = d.ordinal + 1 := by
  have hm1 := d.valid.2.1.1
  have hm2 := d.valid.2.1.2
  have hd := d.valid.2.2.2
  unfold tomorrow at h
  split_ifs at h with hday hmonth
  · obtain ⟨h1, h2, h3⟩ := ofYmd?_eq_some h
    simp only [ordinal, h1, h2, h3]
    omega
  · obtain ⟨h1, h2, h3⟩ := ofYmd?_eq_some h
    simp only [ordinal, h1, h2, h3, daysBeforeMonth_succ _ hm1]
    omega
  · obtain ⟨h1, h2, h3⟩ := ofYmd?_eq_some h
    have hm : d.month = 12 := by omega
    have h13 := daysBeforeMonth_thirteen d.year
    rw [daysBeforeMonth_succ _ (by omega : 1 ≤ 12), ← hm] at h13
    simp only [ordinal, h1, h2, h3, daysBeforeYear_succ d.valid.1.1]
    simp only [daysBeforeMonth]
    omega

/-- The date `n` days later, unless the calendar ends before. -/
def addDays : ℕ → Date → Option Date
  | 0, d => some d
  | n + 1, d => d.tomorrow.bind (addDays n)

/-- Adding days adds to the number of the date. -/
theorem ordinal_addDays {n : ℕ} {d e : Date} (h : addDays n d = some e) :
    e.ordinal = d.ordinal + n := by
  induction n generalizing d with
  | zero =>
    cases h
    rfl
  | succ n ih =>
    obtain ⟨f, hf, he⟩ := Option.bind_eq_some_iff.mp h
    rw [ih he, ordinal_tomorrow hf]
    omega

/-- Every day but the last has a next one. -/
theorem exists_tomorrow {d : Date} (h : d.ordinal < daysBeforeYear 10000) :
    ∃ e, d.tomorrow = some e := by
  have hvalid := d.valid
  obtain ⟨⟨hy1, hy2⟩, ⟨hm1, hm2⟩, hd1, hd2⟩ := hvalid
  unfold tomorrow
  split_ifs with hday hmonth
  · exact ⟨_, ofYmd?_of_valid ⟨⟨hy1, hy2⟩, ⟨hm1, hm2⟩, Nat.le_add_left _ _, hday⟩⟩
  · have hlast := (daysInMonth_bounds d.year (d.month + 1)).1
    exact ⟨_, ofYmd?_of_valid ⟨⟨hy1, hy2⟩, ⟨Nat.le_add_left _ _, hmonth⟩, le_rfl, by omega⟩⟩
  · have hlast := (daysInMonth_bounds (d.year + 1) 1).1
    have hyear : d.year ≠ 9999 := by
      intro hyear
      have hm : d.month = 12 := by omega
      have hmonth : daysBeforeMonth 9999 (12 + 1) = _ := daysBeforeMonth_thirteen 9999
      have hnext : daysBeforeYear 10000 = _ := daysBeforeYear_succ (by decide : 1 ≤ 9999)
      rw [daysBeforeMonth_succ _ (by decide)] at hmonth
      rw [ordinal, hyear, hm] at h
      rw [hyear, hm] at hday
      omega
    exact ⟨_, ofYmd?_of_valid ⟨⟨Nat.le_add_left _ _, by omega⟩, ⟨le_rfl, by decide⟩, le_rfl,
      by omega⟩⟩

/-- Days can be added up to the end of the calendar. -/
theorem exists_addDays {n : ℕ} {d : Date} (h : d.ordinal + n ≤ daysBeforeYear 10000) :
    ∃ e, addDays n d = some e := by
  induction n generalizing d with
  | zero => exact ⟨d, rfl⟩
  | succ n ih =>
    obtain ⟨e, he⟩ := exists_tomorrow (d := d) (by omega)
    obtain ⟨f, hf⟩ := ih (d := e) (by rw [ordinal_tomorrow he]; omega)
    exact ⟨f, Option.bind_eq_some_iff.mpr ⟨e, he, hf⟩⟩

/-- From a day of a month to a day of the next one. -/
theorem ordinal_nextMonth {d e : Date} (h : 12 * e.year + e.month = 12 * d.year + d.month + 1) :
    e.ordinal + d.day = d.ordinal + daysInMonth d.year d.month + e.day := by
  have hd := d.valid.2.1
  have he := e.valid.2.1
  have hsucc := daysBeforeMonth_succ d.year hd.1
  by_cases hmonth : d.month = 12
  · have hyear : e.year = d.year + 1 := by omega
    have hjanuary : e.month = 1 := by omega
    have hend : daysBeforeMonth d.year (12 + 1) = _ := daysBeforeMonth_thirteen d.year
    rw [hmonth] at hsucc
    simp only [ordinal, hyear, hjanuary, hmonth, daysBeforeYear_succ d.valid.1.1]
    have hfirst : daysBeforeMonth (d.year + 1) 1 = 0 := rfl
    omega
  · have hyear : e.year = d.year := by omega
    have hnext : e.month = d.month + 1 := by omega
    simp only [ordinal, hyear, hnext, hsucc]
    omega

/-- From a day of a month to a day of the same month one year later: the years differ by the leap
day between them. -/
theorem ordinal_nextYear {d e : Date} (hyear : e.year = d.year + 1) (hmonth : e.month = d.month) :
    e.ordinal + d.day = d.ordinal + e.day + 365 +
      if (if 2 < d.month then isLeap e.year else isLeap d.year) then 1 else 0 := by
  have hm := d.valid.2.1.2
  simp only [ordinal, hmonth, hyear, daysBeforeYear_succ d.valid.1.1]
  rw [daysBeforeMonth_eq d.year hm, daysBeforeMonth_eq (d.year + 1) hm]
  split_ifs <;> simp_all <;> omega

end Date

namespace DateTime

/-- The number of microseconds of the calendar up to a point in time. -/
def instant (t : DateTime) : ℕ := t.date.ordinal * microsPerDay + t.micros

/-- Different points in time have different numbers. -/
theorem instant_injective : Function.Injective instant := by
  intro s t h
  have hs := s.micros_lt
  have ht := t.micros_lt
  have hdate : s.date.ordinal = t.date.ordinal := by
    unfold instant microsPerDay at *
    omega
  have hmicros : s.micros = t.micros := by
    unfold instant at h
    rw [hdate] at h
    omega
  have := Date.ordinal_injective hdate
  cases s; cases t
  simp_all

/-- Moments are ordered by their instants. -/
instance : LinearOrder DateTime := LinearOrder.lift' instant instant_injective

/-- Points in time are strictly ordered by their numbers. -/
theorem lt_iff {s t : DateTime} : s < t ↔ s.instant < t.instant := Iff.rfl

/-- The same time of day on another date. -/
def onDate (t : DateTime) (d : Date) : DateTime := ⟨d, t.micros, t.micros_lt⟩

/-- A later date with the same time of day is a later point in time. -/
theorem lt_onDate {t : DateTime} {d : Date} (h : t.date.ordinal < d.ordinal) : t < t.onDate d := by
  rw [lt_iff]
  simp only [instant, onDate]
  have : t.date.ordinal * microsPerDay < d.ordinal * microsPerDay :=
    Nat.mul_lt_mul_of_pos_right h (by decide)
  omega

/-- The point in time `n` days later, unless the calendar ends before. -/
def addDays (n : ℕ) (t : DateTime) : Option DateTime := (t.date.addDays n).map t.onDate

/-- Adding a positive number of days leads to a later point in time. -/
theorem lt_addDays {n : ℕ} {s t : DateTime} (hn : 0 < n) (h : addDays n s = some t) : s < t := by
  obtain ⟨d, hd, rfl⟩ := Option.map_eq_some_iff.mp h
  exact lt_onDate (by rw [Date.ordinal_addDays hd]; omega)

end DateTime

end Foundation
