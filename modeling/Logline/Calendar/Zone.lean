import Logline.Calendar.Civil

/-! # Time zones

A zone gives every instant an offset from universal time in whole seconds, east positive. It is a
fixed offset, a standard and a daylight saving offset with two yearly days on which they change, or
a table that may give any instant any offset.

* `YearlyDay` — such a day: the n-th (or last) weekday of a month, and a time on it
* `Zone.offsetAt` — the offset at an instant
* `Zone.parse?` — a zone from its rule in one line, such as `CET-1CEST,M3.5.0,M10.5.0/3`
-/

namespace Logline.Calendar

/-- The `week`-th given weekday of a month, the last one for week 5, at `seconds` after midnight. -/
structure YearlyDay where
  month : Nat
  week : Nat
  weekday : Nat
  seconds : Int
  deriving DecidableEq, Repr

/-- Standard and daylight saving offsets, and when daylight saving begins and ends. -/
structure Daylight where
  standard : Int
  saving : Int
  start : YearlyDay
  finish : YearlyDay
  /-- What standard time is called. -/
  standardName : String
  /-- What daylight saving time is called. -/
  savingName : String
  deriving DecidableEq, Repr

/-- A time zone. -/
inductive Zone where
  | fixed (offset : Int)
  | daylight (rule : Daylight)
  /-- Offsets by instants in milliseconds, as the changes of a region's time were decided. -/
  | table (name : String) (offsets : Int → Int)

/-- The day number of a yearly day in a year. -/
def YearlyDay.days (d : YearlyDay) (year : Int) : Int :=
  if d.week ≤ 4 then
    let first : Date := ⟨year, d.month, 1⟩
    first.toDays + ((d.weekday : Int) - first.weekday) % 7 + 7 * ((d.week : Int) - 1)
  else
    let next : Date := if d.month = 12 then ⟨year + 1, 1, 1⟩ else ⟨year, d.month + 1, 1⟩
    let last := next.toDays - 1
    last - (((Date.ofDays last).weekday : Int) - d.weekday) % 7

/-- The first second of a year in universal time. -/
def yearStart (year : Int) : Int := 86400 * Date.toDays ⟨year, 1, 1⟩

/-- The instant, in seconds, of a yearly day in a year under an offset. What falls outside the year
in universal time is moved to its start or its end. -/
def YearlyDay.instant (d : YearlyDay) (year offset : Int) : Int :=
  max (yearStart year) (min (yearStart (year + 1)) (86400 * d.days year + d.seconds - offset))

/-- When daylight saving ends in a year. Where it begins with the year and standard time would come
only outside the year in local time, it lasts to the end of the year. Dates have years from -9999
to 9999, and an end beyond them shows the first or the last of these dates. -/
def Daylight.finishInstant (r : Daylight) (year : Int) : Int :=
  let finish := r.finish.instant year r.saving
  let shown := max (yearStart (-9999)) (min (yearStart 10000 - 1) (finish + r.standard))
  if r.start.instant year r.standard = yearStart year
      ∧ (shown < yearStart year ∨ yearStart (year + 1) ≤ shown) then yearStart (year + 1)
  else finish

/-- Whether daylight saving is on at an instant in seconds. Which year's changes count is decided
in universal time; where the year begins with daylight saving on, the end comes before the start. -/
def Daylight.isOn (r : Daylight) (t : Int) : Bool :=
  let year := (Date.ofDays (t / 86400)).year
  let start := r.start.instant year r.standard
  let finish := r.finishInstant year
  if start ≤ finish then start ≤ t && t < finish else !(finish ≤ t && t < start)

/-- The offset of a zone, in seconds, at an instant in milliseconds. -/
def Zone.offsetAt (millis : Int) : Zone → Int
  | .fixed offset => offset
  | .daylight r => if r.isOn (millis / 1000) then r.saving else r.standard
  | .table _ offsets => offsets millis

/-- A fixed offset is the same at every instant. -/
@[simp] theorem Zone.offsetAt_fixed (millis offset : Int) :
    (Zone.fixed offset).offsetAt millis = offset := rfl

/-! ## Rules in one line -/

/-- A natural number at the front of a text, and the rest. -/
def natural? (cs : List Char) : Option (Nat × List Char) :=
  let ds := cs.takeWhile Char.isDigit
  if ds.isEmpty then none
  else some (ds.foldl (fun n c => 10 * n + (c.toNat - 0x30)) 0, cs.dropWhile Char.isDigit)

/-- A natural number after a colon, zero where there is no colon. -/
def colonPart? : List Char → Option (Nat × List Char)
  | ':' :: cs => natural? cs
  | cs => some (0, cs)

/-- A signed `h[:mm[:ss]]` in seconds, and the rest. -/
def duration? (cs : List Char) : Option (Int × List Char) := do
  let (negative, cs) := match cs with
    | '-' :: r => (true, r)
    | '+' :: r => (false, r)
    | r => (false, r)
  let (h, cs) ← natural? cs
  let (m, cs) ← colonPart? cs
  let (s, cs) ← colonPart? cs
  let total : Int := 3600 * h + 60 * m + s
  some (if negative then -total else total, cs)

/-- A zone's abbreviation, which is made of letters, or of anything in angle brackets, and the
rest. -/
def abbreviation? : List Char → Option (String × List Char)
  | '<' :: cs =>
    match cs.dropWhile (· != '>') with
    | '>' :: rest => some (String.ofList (cs.takeWhile (· != '>')), rest)
    | _ => none
  | cs =>
    match cs.takeWhile Char.isAlpha with
    | [] => none
    | letters => some (String.ofList letters, cs.dropWhile Char.isAlpha)

/-- A given character at the front of a text. -/
def expect? (c : Char) : List Char → Option (List Char)
  | d :: cs => if c = d then some cs else none
  | [] => none

/-- A yearly day `Mm.w.d[/time]`, at two o'clock where no time is given. -/
def YearlyDay.parse? (cs : List Char) : Option (YearlyDay × List Char) := do
  let cs ← expect? 'M' cs
  let (month, cs) ← natural? cs
  let (week, cs) ← natural? (← expect? '.' cs)
  let (weekday, cs) ← natural? (← expect? '.' cs)
  match cs with
  | '/' :: rest => do
    let (seconds, rest) ← duration? rest
    some (⟨month, week, weekday, seconds⟩, rest)
  | rest => some (⟨month, week, weekday, 7200⟩, rest)

/-- A zone from its rule: an abbreviation and an offset counted westward, and for daylight saving
a second abbreviation, its offset (one hour more where it is missing) and two yearly days. -/
def Zone.parse? (s : String) : Option Zone := do
  let (standardName, cs) ← abbreviation? s.toList
  let (west, cs) ← duration? cs
  if cs.isEmpty then some (.table standardName fun _ => -west)
  else do
    let (savingName, cs) ← abbreviation? cs
    let (saving, cs) ← match cs with
      | ',' :: _ => some (3600 - west, cs)
      | _ => (duration? cs).map fun (w, r) => (-w, r)
    let (start, cs) ← YearlyDay.parse? (← expect? ',' cs)
    let (finish, cs) ← YearlyDay.parse? (← expect? ',' cs)
    if cs.isEmpty then some (.daylight ⟨-west, saving, start, finish, standardName, savingName⟩)
    else none

end Logline.Calendar
