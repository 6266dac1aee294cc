import Chargeflow.Effects.Billing

/-!
# The arithmetic of billing periods

The end of a billing period exists below the last year of the calendar, and comes after its start.
Months are counted across the ends of years, and the day of the month is clamped to the length of
the month it falls into.
-/

namespace Chargeflow

open Foundation SubscriptionService

namespace SubscriptionService

/-- A month later or a year later, with the same time of day. -/
theorem addMonths_spec {d e : DateTime} {n : ℕ} (h : addMonths d n = .ok e) :
    e.micros = d.micros ∧ 12 * e.date.year + e.date.month = 12 * d.date.year + d.date.month + n ∧
      e.date.day = min d.date.day (daysInMonth e.date.year e.date.month) := by
  have hmonth := d.date.valid.2.1
  simp only [addMonths] at h
  split at h
  · rename_i date hdate
    simp only [Except.ok.injEq] at h
    obtain ⟨hy, hm, hd⟩ := Date.ofYmd?_eq_some hdate
    subst h
    refine ⟨rfl, ?_, ?_⟩
    · simp only [DateTime.onDate, hy, hm]
      omega
    · simp only [DateTime.onDate, hy, hm, hd]
  · cases h

/-- The months can be added when the calendar has the year they lead to. -/
theorem exists_addMonths {d : DateTime} {n : ℕ}
    (h : (12 * d.date.year + d.date.month - 1 + n) / 12 ≤ 9999) : ∃ e, addMonths d n = .ok e := by
  obtain ⟨⟨hy, -⟩, ⟨hm1, hm2⟩, hd, -⟩ := d.date.valid
  let year := d.date.year + (d.date.month - 1 + n) / 12
  let month := (d.date.month - 1 + n) % 12 + 1
  have hyear : year ≤ 9999 := by
    dsimp only [year]
    omega
  have hmonth : month ≤ 12 := by
    dsimp only [month]
    omega
  have hlast := (daysInMonth_bounds year month).1
  have hvalid : ValidYmd year month (min d.date.day (daysInMonth year month)) :=
    ⟨⟨Nat.le_add_right_of_le hy, hyear⟩, ⟨Nat.le_add_left _ _, hmonth⟩, by omega, min_le_right _ _⟩
  refine ⟨d.onDate ⟨year, month, _, hvalid⟩, ?_⟩
  have hofYmd := Date.ofYmd?_of_valid hvalid
  dsimp only [year, month] at hofYmd
  simp only [addMonths, hofYmd]
  rfl

/-- Days can be added before the last year. -/
theorem exists_addDays {d : DateTime} {n : ℕ} (hyear : d.date.year < 9999) (hn : n ≤ 365) :
    ∃ e, addDays d n = .ok e := by
  have hroom : d.date.ordinal + n ≤ daysBeforeYear 10000 := by
    have hend := d.date.ordinal_le_yearEnd
    have hmono : daysBeforeYear (d.date.year + 1) ≤ daysBeforeYear 9999 := daysBeforeYear_mono hyear
    have hlast : daysBeforeYear 10000 = daysBeforeYear 9999 + 365 := by decide
    omega
  obtain ⟨date, hdate⟩ := Date.exists_addDays hroom
  refine ⟨d.onDate date, ?_⟩
  unfold addDays DateTime.addDays
  rw [if_neg (by omega), hdate]
  rfl

end SubscriptionService

/-! ## Lengths -/

/-- A number of whole days lies between two points in time. -/
def Lasts (d e : DateTime) (days : ℕ) : Prop := e.instant = d.instant + days * microsPerDay

/-- Moments at the same time of day, so many days apart, last so many days. -/
theorem lasts_of_ordinal {d e : DateTime} {days : ℕ} (hmicros : e.micros = d.micros)
    (hdays : e.date.ordinal = d.date.ordinal + days) : Lasts d e days := by
  unfold Lasts DateTime.instant
  rw [hdays, hmicros, Nat.add_mul]
  omega

/-- A month is as long as the month of its first day, less the days that clamping takes off. -/
theorem addMonths_one_lasts {d e : DateTime} (h : addMonths d 1 = .ok e) :
    ∃ days, 28 ≤ days ∧ days ≤ 31 ∧ Lasts d e days := by
  obtain ⟨hmicros, hcount, hday⟩ := addMonths_spec h
  have hordinal := Date.ordinal_nextMonth hcount
  have hfirst := daysInMonth_bounds d.date.year d.date.month
  have hnext := daysInMonth_bounds e.date.year e.date.month
  have hvalid := d.date.valid.2.2.2
  refine ⟨daysInMonth d.date.year d.date.month + e.date.day - d.date.day, ?_, ?_,
    lasts_of_ordinal hmicros ?_⟩ <;> omega

/-- A year is longer by the leap day that lies in it. -/
theorem addMonths_twelve_lasts {d e : DateTime} (h : addMonths d 12 = .ok e) :
    ∃ days, (days = 365 ∨ days = 366) ∧ Lasts d e days := by
  obtain ⟨hmicros, hcount, hday⟩ := addMonths_spec h
  have hmonths := d.date.valid.2.1
  have hmonths' := e.date.valid.2.1
  have hyear : e.date.year = d.date.year + 1 := by omega
  have hmonth : e.date.month = d.date.month := by omega
  have hordinal := Date.ordinal_nextYear hyear hmonth
  have hvalid := d.date.valid.2.2.2
  have hleap : ∃ leapDay ≤ 1, e.date.ordinal + d.date.day =
      d.date.ordinal + e.date.day + 365 + leapDay := by
    refine ⟨_, ?_, hordinal⟩
    split_ifs <;> decide
  by_cases hkept : d.date.day ≤ daysInMonth e.date.year e.date.month
  · obtain ⟨leapDay, hle, hordinal⟩ := hleap
    rw [min_eq_left hkept] at hday
    exact ⟨365 + leapDay, by omega, lasts_of_ordinal hmicros (by omega)⟩
  · -- 29 February is clamped to 28 February
    rw [hmonth] at hkept hday
    obtain ⟨hfebruary, hleapYear, hlonger⟩ :=
      daysInMonth_lt (lt_of_lt_of_le (not_le.mp hkept) hvalid)
    rw [hfebruary, if_neg (lt_irrefl 2), if_pos hleapYear] at hordinal
    exact ⟨365, Or.inl rfl, lasts_of_ordinal hmicros (by omega)⟩

/-! ## Periods and months -/

/-- The end of a period below the last year, the months counted exactly, and the lengths of month
and year periods. -/
theorem period_arithmetic :
    (∀ (d : DateTime) (plan : Plan), d.date.year < 9999 →
      ∃ e, computePeriodEnd d plan = .ok e ∧ d < e) ∧
    (∀ (d : DateTime) (n : ℕ), (12 * d.date.year + d.date.month - 1 + n) / 12 ≤ 9999 →
      ∃ e, addMonths d n = .ok e ∧ e.micros = d.micros ∧
        12 * e.date.year + e.date.month = 12 * d.date.year + d.date.month + n ∧
        e.date.day = min d.date.day (daysInMonth e.date.year e.date.month)) ∧
    ∀ (d e : DateTime) (plan : Plan), computePeriodEnd d plan = .ok e →
      (plan.interval = .month → ∃ days, 28 ≤ days ∧ days ≤ 31 ∧ Lasts d e days) ∧
      (plan.interval = .year → ∃ days, (days = 365 ∨ days = 366) ∧ Lasts d e days) := by
  refine ⟨?_, ?_, ?_⟩
  · intro d plan hyear
    obtain ⟨e, he⟩ : ∃ e, computePeriodEnd d plan = .ok e := by
      have hm := d.date.valid.2.1
      unfold computePeriodEnd
      cases plan.interval with
      | day => exact exists_addDays hyear (by decide)
      | week => exact exists_addDays hyear (by decide)
      | month => exact exists_addMonths (by omega)
      | year => exact exists_addMonths (by omega)
      | other text => exact exists_addDays hyear (by decide)
    exact ⟨e, he, computePeriodEnd_lt he⟩
  · intro d n h
    obtain ⟨e, he⟩ := exists_addMonths h
    exact ⟨e, he, addMonths_spec he⟩
  · intro d e plan h
    unfold computePeriodEnd at h
    constructor <;> intro hinterval <;> rw [hinterval] at h
    · exact addMonths_one_lasts h
    · exact addMonths_twelve_lasts h

/-- A year from 29 February 2024 ends on 28 February 2025. -/
theorem period_arithmetic_leapDay :
    ∃ e, addMonths ⟨⟨2024, 2, 29, by decide⟩, 0, by decide⟩ 12 = .ok e ∧ e.date.day = 28 := by
  obtain ⟨-, hmonths, -⟩ := period_arithmetic
  obtain ⟨e, he, -, hcount, hday⟩ := hmonths ⟨⟨2024, 2, 29, by decide⟩, 0, by decide⟩ 12 (by decide)
  have hvalid := e.date.valid.2.1
  have hyear : e.date.year = 2025 := by
    dsimp only at hcount
    omega
  have hmonth : e.date.month = 2 := by
    dsimp only at hcount
    omega
  rw [hyear, hmonth] at hday
  exact ⟨e, he, hday⟩

end Chargeflow
