import Logline.Calendar.Civil
import Mathlib.Order.Basic
import Mathlib.Tactic.SplitIfs

/-! # The order of civil times

A later day has a later date, and a later millisecond a later civil time: the numbers of a civil
time, from the year down to the milliseconds, go up in the order of dictionaries.

* `Date.marchYear`, `Date.dayOfMarchYear` — years that begin in March, by day numbers
* `Date.marchYear_lt_or_eq` — they go up with the days
* `Date.numbers`, `Civil.numbers` — dates and civil times as lists of numbers
* `Civil.numbers_ofMillis_lt` — the numbers of a later millisecond come later -/

namespace Logline.Calendar

namespace Date

/-! ## Years that begin in March -/

/-- The year of an era by the day of the era. -/
def yearOfEra (day : Nat) : Nat := (day - day / 1460 + day / 36524 - day / 146096) / 365

/-- The first day of a year of an era. -/
def firstDay (year : Nat) : Nat := 365 * year + year / 4 - year / 100

/-- A later day of an era is in no earlier year. -/
theorem yearOfEra_le_yearOfEra {d e : Nat} (le : d ≤ e) : yearOfEra d ≤ yearOfEra e := by
  refine Nat.div_le_div_right ?_
  omega

/-- A year of an era has begun on its first day and not on the day before, each of the 400 years. -/
theorem yearOfEra_firstDay : ∀ year < 400, yearOfEra (firstDay year) = year ∧
    (year = 0 ∨ 0 < firstDay year ∧ yearOfEra (firstDay year - 1) < year) := by
  decide +kernel

/-- An era has 400 years. -/
theorem yearOfEra_lt {day : Nat} (lt : day < 146097) : yearOfEra day < 400 := by
  rw [yearOfEra]
  omega

/-- A day of an era is one of the first 366 days of its year. -/
theorem firstDay_yearOfEra {day : Nat} (lt : day < 146097) :
    firstDay (yearOfEra day) ≤ day ∧ day ≤ firstDay (yearOfEra day) + 365 := by
  have year_lt := yearOfEra_lt lt
  obtain ⟨-, first⟩ := yearOfEra_firstDay _ year_lt
  constructor
  · -- a day before the first one would be one of an earlier year
    by_contra early
    rcases first with zero | ⟨pos, before⟩
    · rw [zero] at early
      exact early (Nat.zero_le _)
    · have le : day ≤ firstDay (yearOfEra day) - 1 := by omega
      exact absurd (yearOfEra_le_yearOfEra le) (Nat.not_le.2 before)
  · -- a day on which the next year has begun would be one of a later year
    by_contra late
    rcases Nat.lt_or_ge (yearOfEra day + 1) 400 with next_lt | last
    · obtain ⟨next, -⟩ := yearOfEra_firstDay _ next_lt
      have le : firstDay (yearOfEra day + 1) ≤ day := by
        simp only [firstDay] at late ⊢
        omega
      have years := yearOfEra_le_yearOfEra le
      omega
    · have year : yearOfEra day = 399 := by omega
      rw [year, firstDay] at late
      omega

/-- The day of its era that a day number stands for. -/
def dayOfEra (n : Int) : Nat := ((n + 719468) % 146097).toNat

/-- The year that began on the last first of March. -/
def marchYear (n : Int) : Int := yearOfEra (dayOfEra n) + 400 * ((n + 719468) / 146097)

/-- How many days have passed since the last first of March. -/
def dayOfMarchYear (n : Int) : Nat := dayOfEra n - firstDay (yearOfEra (dayOfEra n))

/-- The date of a day of a year that begins in March. -/
def ofMarch (year : Int) (day : Nat) : Date :=
  let shifted := (5 * day + 2) / 153
  let month := if shifted < 10 then shifted + 3 else shifted - 9
  ⟨year + if month ≤ 2 then 1 else 0, month, day - (153 * shifted + 2) / 5 + 1⟩

/-- The date of a day number is found by the year that begins in March. -/
theorem ofDays_eq_ofMarch (n : Int) : ofDays n = ofMarch (marchYear n) (dayOfMarchYear n) := rfl

/-- An era has 146097 days. -/
theorem dayOfEra_lt (n : Int) : dayOfEra n < 146097 := by
  rw [dayOfEra]
  omega

/-- No more than 365 days have passed since the last first of March. -/
theorem dayOfMarchYear_le (n : Int) : dayOfMarchYear n ≤ 365 := by
  obtain ⟨-, last⟩ := firstDay_yearOfEra (dayOfEra_lt n)
  rw [dayOfMarchYear]
  omega

/-- A later day is one of a later year, or a later day of the same year. -/
theorem marchYear_lt_or_eq {m n : Int} (lt : m < n) :
    marchYear m < marchYear n ∨
      marchYear m = marchYear n ∧ dayOfMarchYear m < dayOfMarchYear n := by
  have bound := yearOfEra_lt (dayOfEra_lt m)
  obtain ⟨first, -⟩ := firstDay_yearOfEra (dayOfEra_lt m)
  -- by eras first, and within one era by its years
  rcases Int.lt_or_eq_of_le (show (m + 719468) / 146097 ≤ (n + 719468) / 146097 by omega)
    with earlier | same
  · refine Or.inl ?_
    simp only [marchYear]
    omega
  · have day : dayOfEra m < dayOfEra n := by
      simp only [dayOfEra]
      omega
    have year := yearOfEra_le_yearOfEra (Nat.le_of_lt day)
    rcases Nat.lt_or_eq_of_le year with earlier | same_year
    · refine Or.inl ?_
      simp only [marchYear, same]
      omega
    · refine Or.inr ⟨by simp only [marchYear, same, same_year], ?_⟩
      simp only [dayOfMarchYear, ← same_year]
      omega

/-! ## Dates -/

/-- The numbers of a date, the greatest unit first. -/
def numbers (d : Date) : List Nat := [d.year.toNat, d.month, d.day]

/-- Later days of years that begin in March have later dates: the first ten months of such a year
are those of a year that begins in January, and the last two are in the next one. -/
theorem numbers_ofMarch_lt {year year' : Int} {day day' : Nat}
    (lt : year < year' ∨ year = year' ∧ day < day') (bound : day ≤ 365) (bound' : day' ≤ 365)
    (positive : 0 ≤ (ofMarch year day).year) :
    (ofMarch year day).numbers < (ofMarch year' day').numbers := by
  simp only [numbers, ofMarch, List.cons_lt_cons_iff, List.not_lt_nil, and_false, or_false]
    at positive ⊢
  split_ifs at positive ⊢ <;> omega

/-- Later days have later dates. -/
theorem numbers_ofDays_lt {m n : Int} (lt : m < n) (positive : 0 ≤ (ofDays m).year) :
    (ofDays m).numbers < (ofDays n).numbers := by
  rw [ofDays_eq_ofMarch] at positive ⊢
  exact numbers_ofMarch_lt (marchYear_lt_or_eq lt) (dayOfMarchYear_le m) (dayOfMarchYear_le n)
    positive

/-- Months and days have two digits. -/
theorem ofDays_bounds (n : Int) : (ofDays n).month ≤ 12 ∧ (ofDays n).day ≤ 31 := by
  have bound := dayOfMarchYear_le n
  rw [ofDays_eq_ofMarch]
  simp only [ofMarch]
  split_ifs <;> omega

end Date

/-! ## Times of day -/

namespace Civil

/-- The numbers of a civil time, the greatest unit first. -/
def numbers (c : Civil) : List Nat := c.date.numbers ++ [c.hour, c.minute, c.second, c.milli]

/-- Later milliseconds have later civil times. -/
theorem numbers_ofMillis_lt {s t : Int} (lt : s < t) (positive : 0 ≤ (ofMillis s).date.year) :
    (ofMillis s).numbers < (ofMillis t).numbers := by
  simp only [numbers, ofMillis] at positive ⊢
  rcases Int.lt_or_eq_of_le (show s / millisPerDay ≤ t / millisPerDay by
    simp only [millisPerDay]; omega) with earlier | same
  · have dates := Date.numbers_ofDays_lt earlier positive
    -- dates have three numbers each, so that the earlier one is no beginning of the later one
    simp only [Date.numbers, List.cons_append, List.nil_append, List.cons_lt_cons_iff,
      List.not_lt_nil, and_false, or_false] at dates ⊢
    omega
  · rw [same]
    refine List.append_left_lt ?_
    simp only [List.cons_lt_cons_iff, List.not_lt_nil, and_false, or_false, millisPerDay]
      at same ⊢
    omega

/-- The numbers of a time of day, with their bounds. -/
theorem ofMillis_bounds (t : Int) : (ofMillis t).hour < 24 ∧ (ofMillis t).minute < 60 ∧
    (ofMillis t).second < 60 ∧ (ofMillis t).milli < 1000 := by
  simp only [ofMillis, millisPerDay]
  omega

end Civil

end Logline.Calendar
