import Logline.Calendar.Formatter
import Logline.Config

/-! # Timestamps

How the time of a record is shown: as a date and time of day, as a time of day, or as a number of
milliseconds. Civil times are remembered: the last text is kept in a **cell**, with what its time
had in common with the other times of the same ten seconds, so that most times need no calendar.

* `Timestamps.uncached` — the text of a time, by the calendar
* `Timestamps.respond` — the text of a time from what a cell holds, and what to store in the cell
* `Timestamps.format` — the text of a time and the cell after it
-/

namespace Logline

/-- How times are shown. -/
structure Timestamps where
  output : DateTimeOutput
  /-- A custom pattern: the text of a moment, where the pattern has one for it. -/
  pattern : Option (Calendar.Moment → Option String)
  zone : Calendar.Zone
  startMillis : Int

/-- What a cell remembers of the last time that was shown. -/
structure Stamp where
  millis : Int
  text : String
  /-- The ten seconds of the time, counted in local time, and the text up to the last digit of the
  seconds. -/
  stem : Option (Int × String)
  deriving DecidableEq, Repr

/-- The first and the last millisecond whose date can be shown in every zone. -/
def Calendar.firstMillis : Int := -377705023201000

@[inherit_doc Calendar.firstMillis]
def Calendar.lastMillis : Int := 253402207200000

namespace Timestamps

/-- The timestamps of a configuration, with the report that is due where its pattern cannot be used.
A pattern counts only where dates or times of day are shown; it is tried on the first instant of
1970. -/
def ofConfig [Calendar.Formatter] (c : Config) : Timestamps × Option Error :=
  let plain : Timestamps := ⟨c.dateTimeOutput, none, c.zone, c.startMillis⟩
  match c.dateTimePattern with
  | none => (plain, none)
  | some pattern =>
    if c.dateTimeOutput.isCivil then
      match Calendar.Formatter.format pattern ⟨0, c.zone⟩ with
      | .ok _ =>
        ({ plain with pattern := some fun m => (Calendar.Formatter.format pattern m).toOption },
          none)
      | .error words =>
        (plain, some ((Error.badSetting "date_time_pattern" pattern "default pattern").withCause
          (.text words)))
    else (plain, none)

/-- Whether a time has a date. -/
def hasDate (millis : Int) : Bool :=
  Calendar.firstMillis ≤ millis && millis ≤ Calendar.lastMillis

/-- A time as the zone shows it. -/
def moment (t : Timestamps) (millis : Int) : Calendar.Moment := ⟨millis, t.zone⟩

/-- The text of a moment in the standard form. -/
def standardText (t : Timestamps) (m : Calendar.Moment) : String :=
  match t.output with
  | .dateTime => m.civil.text
  | _ => m.civil.timeText

/-- The text of a moment: by the custom pattern, and in the standard form where that has no text. -/
def civilText (t : Timestamps) (m : Calendar.Moment) : String :=
  (t.pattern.bind (· m)).getD (t.standardText m)

/-- The text of a time. A time without a date is shown as its number. -/
def uncached (t : Timestamps) (millis : Int) : String :=
  match t.output with
  | .unixTime => toString millis
  | .millisFromStart => toString (millis - t.startMillis)
  | .dateTime | .time =>
    if hasDate millis then t.civilText (t.moment millis) else toString millis

/-- The length in milliseconds of the spans of time whose texts have a stem in common. -/
def spanMillis : Int := 10000

/-- How many characters of a text come after its stem: a digit of the seconds, a point and three
digits of the milliseconds. -/
def tailLength : Nat := 5

/-- Local time in milliseconds. -/
def localMillis (t : Timestamps) (millis : Int) : Int :=
  millis + 1000 * t.zone.offsetAt millis

/-- The text of a time whose stem is known. -/
def complete (stem : String) (localMillis : Int) : String :=
  let rest := (localMillis % spanMillis).toNat
  stem ++ toString (rest / 1000) ++ "." ++ Text.padded 3 (rest % 1000)

/-- The stem of a text. Only texts in the standard form have one. -/
def stem? (t : Timestamps) (span : Int) (text : String) : Option (Int × String) :=
  let cs := text.toList
  if t.pattern.isNone ∧ tailLength ≤ cs.length then
    some (span, String.ofList (cs.take (cs.length - tailLength)))
  else none

/-- The text of a time by the calendar, and a stamp to store with it. -/
def computed (t : Timestamps) (millis span : Int) : String × Option Stamp :=
  let text := t.uncached millis
  (text, some ⟨millis, text, t.stem? span text⟩)

/-- The text of a time other than the remembered one when the stem of a span is `known`, and what is
to be stored. A time without a date leaves the cell alone. -/
def fresh (t : Timestamps) (known : Option (Int × String)) (millis : Int) :
    String × Option Stamp :=
  if hasDate millis then
    let time := t.localMillis millis
    let span := time / spanMillis
    match known with
    | some (s, stem) =>
      if s = span then
        -- the same ten seconds: only the tail of the text is new
        let text := complete stem time
        (text, some ⟨millis, text, some (span, stem)⟩)
      else t.computed millis span
    | none => t.computed millis span
  else (t.uncached millis, none)

/-- The text of a civil time when a cell holds `cell`, and what is to be stored in it. -/
def answer (t : Timestamps) (cell : Option Stamp) (millis : Int) : String × Option Stamp :=
  match cell with
  | some s => if s.millis = millis then (s.text, none) else t.fresh s.stem millis
  | none => t.fresh none millis

/-- The text of a time when a cell holds `cell`, and what is to be stored in it. Only civil times
use the cell. -/
def respond (t : Timestamps) (cell : Option Stamp) (millis : Int) : String × Option Stamp :=
  if t.output.isCivil then t.answer cell millis else (t.uncached millis, none)

/-- The text of a time and the cell after it. -/
def format (t : Timestamps) (cell : Option Stamp) (millis : Int) : String × Option Stamp :=
  let (text, stored) := t.respond cell millis
  (text, stored.or cell)

end Timestamps

end Logline
