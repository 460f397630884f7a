import Logline.Text.Digits

/-! # Civil time

Dates of the proleptic Gregorian calendar and times of day. Days are counted from 1970-01-01 and
milliseconds from its midnight; both counts go on below zero.

* `Date.ofDays`, `Date.toDays` — dates and their day numbers
* `Civil.ofMillis` — the date and time of day of a count of milliseconds
* `Date.weekday` — the place of a date in the week
-/

namespace Logline.Calendar

/-- A date of the proleptic Gregorian calendar. -/
structure Date where
  year : Int
  month : Nat
  day : Nat
  deriving DecidableEq, Repr

/-- The date of a day number. Years are taken to begin in March, so that the leap day is the last
of its year, and are counted in eras of 400 years, which are 146097 days long. -/
def Date.ofDays (n : Int) : Date :=
  -- days from 0000-03-01, the first day of an era
  let z := n + 719468
  let dayOfEra := (z % 146097).toNat
  let yearOfEra :=
    (dayOfEra - dayOfEra / 1460 + dayOfEra / 36524 - dayOfEra / 146096) / 365
  let dayOfYear := dayOfEra - (365 * yearOfEra + yearOfEra / 4 - yearOfEra / 100)
  -- five months from March on have 153 days, and so have the next five
  let shifted := (5 * dayOfYear + 2) / 153
  let month := if shifted < 10 then shifted + 3 else shifted - 9
  { year := yearOfEra + 400 * (z / 146097) + if month ≤ 2 then 1 else 0
    month
    day := dayOfYear - (153 * shifted + 2) / 5 + 1 }

/-- The day number of a date. -/
def Date.toDays (d : Date) : Int :=
  let y := if d.month ≤ 2 then d.year - 1 else d.year
  let yearOfEra := (y % 400).toNat
  let shifted := if d.month ≤ 2 then d.month + 9 else d.month - 3
  let dayOfYear := (153 * shifted + 2) / 5 + d.day - 1
  let dayOfEra := 365 * yearOfEra + yearOfEra / 4 - yearOfEra / 100 + dayOfYear
  146097 * (y / 400) + dayOfEra - 719468

/-- The day of the week, Sunday first. -/
def Date.weekday (d : Date) : Nat := ((d.toDays + 4) % 7).toNat

/-- A date and a time of day. -/
structure Civil where
  date : Date
  hour : Nat
  minute : Nat
  second : Nat
  milli : Nat
  deriving DecidableEq, Repr

/-- Milliseconds in a day. -/
def millisPerDay : Int := 86400000

/-- The date and time of day of a count of milliseconds. -/
def Civil.ofMillis (t : Int) : Civil :=
  let rest := (t % millisPerDay).toNat
  { date := Date.ofDays (t / millisPerDay)
    hour := rest / 3600000
    minute := rest / 60000 % 60
    second := rest / 1000 % 60
    milli := rest % 1000 }

/-- The text `HH:MM:SS.mmm`. -/
def Civil.timeText (c : Civil) : String :=
  Text.padded 2 c.hour ++ ":" ++ Text.padded 2 c.minute ++ ":" ++ Text.padded 2 c.second ++ "."
    ++ Text.padded 3 c.milli

/-- The text `YYYY-MM-DDTHH:MM:SS.mmm`. -/
def Civil.text (c : Civil) : String :=
  Text.paddedInt 4 c.date.year ++ "-" ++ Text.padded 2 c.date.month ++ "-"
    ++ Text.padded 2 c.date.day ++ "T" ++ c.timeText

end Logline.Calendar
