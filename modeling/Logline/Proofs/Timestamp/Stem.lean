import Logline.Timestamp
import Mathlib.Tactic.IntervalCases

/-! # Stems of timestamps

The text of a civil time in the standard form is a **stem**, which the ten seconds of the time
decide, and a tail of five characters: the last digit of the seconds, a point and the milliseconds.

* `Civil.timeText_ofMillis`, `Civil.text_ofMillis` — a text is its stem, completed
* `Timestamps.stem?_complete` — cutting five characters off a completed stem gives the stem back
* `Timestamps.uncached_eq_complete` — the same for the texts of timestamps -/

namespace Logline

namespace Text

/-- A number below ten is written with one digit. -/
theorem toString_of_lt_ten {n : Nat} (lt : n < 10) : toString n = String.ofList [digit n] := by
  interval_cases n <;> rfl

/-- A number below a hundred is written with two digits. -/
theorem padded_two {n : Nat} (lt : n < 100) :
    padded 2 n = String.ofList [digit (n / 10), digit n] := by
  simp [padded, lt, fixed]

/-- A number below a thousand is written with three digits. -/
theorem length_padded_three {n : Nat} (lt : n < 1000) : (padded 3 n).toList.length = 3 := by
  simp [padded, lt]

/-- Only the last decimal place of a number decides its last digit. -/
theorem digit_mod_ten (n : Nat) : digit (n % 10) = digit n := by
  simp [digit]

end Text

namespace Calendar

/-- How many spans of ten seconds a day has. -/
def spansPerDay : Int := 8640

/-- The time of day up to the tens of the seconds, by the span of ten seconds. -/
def timeStem (span : Int) : String :=
  let rest := (span % spansPerDay).toNat
  Text.padded 2 (rest / 360) ++ ":" ++ Text.padded 2 (rest / 6 % 60) ++ ":"
    ++ String.ofList [Text.digit (rest % 6)]

/-- The date, as it stands in front of a time of day, by the span of ten seconds. -/
def dateStem (span : Int) : String :=
  let date := Date.ofDays (span / spansPerDay)
  Text.paddedInt 4 date.year ++ "-" ++ Text.padded 2 date.month ++ "-" ++ Text.padded 2 date.day
    ++ "T"

end Calendar

open Calendar

namespace Timestamps

/-- A text in front of a stem stays in front when the stem is completed. -/
theorem complete_append (s stem : String) (time : Int) :
    s ++ complete stem time = complete (s ++ stem) time := by
  simp [complete, String.append_assoc]

/-- What `complete` adds to a stem has five characters. -/
theorem toList_complete (stem : String) (time : Int) :
    ∃ tail : List Char, tail.length = tailLength ∧
      (complete stem time).toList = stem.toList ++ tail := by
  have rest_lt : (time % spanMillis).toNat < 10000 := by
    simp only [spanMillis]
    omega
  set rest := (time % spanMillis).toNat with rest_def
  refine ⟨Text.digit (rest / 1000) :: '.' :: (Text.padded 3 (rest % 1000)).toList, ?_, ?_⟩
  · simp only [List.length_cons, Text.length_padded_three (Nat.mod_lt _ (by decide : 0 < 1000)),
      tailLength]
  · simp [complete, ← rest_def, Text.toString_of_lt_ten (show rest / 1000 < 10 by omega)]

/-- The stem of a completed stem is the stem. -/
theorem stem?_complete {t : Timestamps} (standard : t.pattern = none) (span : Int) (stem : String)
    (time : Int) : t.stem? span (complete stem time) = some (span, stem) := by
  obtain ⟨tail, length_tail, toList_eq⟩ := toList_complete stem time
  have cut : (stem.toList ++ tail).length - tailLength = stem.toList.length := by
    rw [List.length_append, length_tail, Nat.add_sub_cancel]
  have long : tailLength ≤ (stem.toList ++ tail).length := by
    rw [List.length_append, length_tail]
    exact Nat.le_add_left _ _
  simp only [stem?, toList_eq, standard, Option.isNone_none, true_and, if_pos long, cut]
  simp

end Timestamps

/-- The time of day of a count of milliseconds is its stem, completed. -/
theorem Calendar.Civil.timeText_ofMillis (time : Int) :
    (Civil.ofMillis time).timeText
      = Timestamps.complete (timeStem (time / Timestamps.spanMillis)) time := by
  simp only [Timestamps.spanMillis, Timestamps.complete, Civil.timeText, Civil.ofMillis, timeStem,
    millisPerDay, spansPerDay]
  -- both sides are arithmetic on the milliseconds of the day
  set rest := (time % 86400000).toNat with rest_def
  set span := (time / 10000 % 8640).toNat with span_def
  have span_eq : span = rest / 10000 := by omega
  have tail_eq : (time % 10000).toNat = rest % 10000 := by omega
  have hours : span / 360 = rest / 3600000 := by omega
  have minutes : span / 6 % 60 = rest / 60000 % 60 := by omega
  have tens : span % 6 = rest / 1000 % 60 / 10 := by omega
  have ones : rest % 10000 / 1000 = rest / 1000 % 60 % 10 := by omega
  have millis : rest % 10000 % 1000 = rest % 1000 := by omega
  rw [tail_eq, hours, minutes, tens, ones, millis,
    Text.toString_of_lt_ten (Nat.mod_lt _ (by decide : 0 < 10)), Text.digit_mod_ten,
    Text.padded_two (n := rest / 1000 % 60) (by omega), ← String.toList_inj]
  simp only [String.toList_append, String.toList_ofList, List.append_assoc, List.cons_append,
    List.nil_append]

/-- The date and time of day of a count of milliseconds are their stem, completed. -/
theorem Calendar.Civil.text_ofMillis (time : Int) :
    (Civil.ofMillis time).text
      = Timestamps.complete (dateStem (time / Timestamps.spanMillis)
          ++ timeStem (time / Timestamps.spanMillis)) time := by
  have days : time / Timestamps.spanMillis / spansPerDay = time / millisPerDay := by
    simp only [Timestamps.spanMillis, spansPerDay, millisPerDay]
    omega
  rw [← Timestamps.complete_append, ← Civil.timeText_ofMillis, dateStem, days]
  simp [Civil.text, Civil.ofMillis, String.append_assoc]

namespace Timestamps

/-- The stem of the standard texts of a span of ten seconds. -/
def stemOf (t : Timestamps) (span : Int) : String :=
  match t.output with
  | .dateTime => dateStem span ++ timeStem span
  | _ => timeStem span

/-- A standard text is the stem of its local time, completed. The offset matters through the local
time only, so times of one local span share their stem under whatever offsets they have. -/
theorem uncached_eq_complete {t : Timestamps} {millis : Int} (civil : t.output.isCivil = true)
    (standard : t.pattern = none) (date : hasDate millis = true) :
    t.uncached millis
      = complete (t.stemOf (t.localMillis millis / spanMillis)) (t.localMillis millis) := by
  -- the civil time is that of the local time, whatever the offset
  have moment : (t.moment millis).civil = Civil.ofMillis (t.localMillis millis) := rfl
  cases output : t.output with
  | dateTime =>
    simp only [uncached, output, date, if_true, civilText, standard, Option.bind_none,
      Option.getD_none, standardText, moment, stemOf]
    exact Civil.text_ofMillis _
  | time =>
    simp only [uncached, output, date, if_true, civilText, standard, Option.bind_none,
      Option.getD_none, standardText, moment, stemOf]
    exact Civil.timeText_ofMillis _
  | unixTime => simp [output, DateTimeOutput.isCivil] at civil
  | millisFromStart => simp [output, DateTimeOutput.isCivil] at civil

end Timestamps

end Logline
