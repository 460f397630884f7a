import Logline.Calendar.Zone
import Logline.Level

/-! # Configurations

How records are laid out and encoded. Settings with a choice of values are read from keywords.

* `OutputFormat`, `DateTimeOutput`, `LoggerNameStyle` — such settings, each with `parse`
* `LoggerNameStyle.apply` — a logger's name in a style
* `Config` — all settings, with their defaults
-/

namespace Logline

/-- The shape of a record. -/
inductive OutputFormat where
  /-- A line of text, and a stack trace below it. -/
  | text
  /-- One JSON object on a line. -/
  | json
  deriving DecidableEq, Repr

/-- What the time of a record is shown as. -/
inductive DateTimeOutput where
  /-- Date and time of day. -/
  | dateTime
  /-- Time of day. -/
  | time
  /-- Milliseconds since 1970. -/
  | unixTime
  /-- Milliseconds since the start of the program. -/
  | millisFromStart
  deriving DecidableEq, Repr

/-- How much of a logger's name is shown. -/
inductive LoggerNameStyle where
  | full
  /-- The part after the last dot or double colon. -/
  | short
  | hidden
  deriving DecidableEq, Repr

/-- An output format from its keyword. -/
def OutputFormat.parse (s : String) : Except Error OutputFormat :=
  match Text.keyword s with
  | "TEXT" => .ok .text
  | "JSON" => .ok .json
  | _ => .error (Error.malformed "output format" s)

/-- The name of an output format. -/
def OutputFormat.name : OutputFormat → String
  | .text => "Text"
  | .json => "Json"

/-- A way to show the time from its keyword. -/
def DateTimeOutput.parse (s : String) : Except Error DateTimeOutput :=
  match Text.keyword s with
  | "DATETIME" => .ok .dateTime
  | "TIME" => .ok .time
  | "UNIXTIME" => .ok .unixTime
  | "MILLISFROMSTART" => .ok .millisFromStart
  | _ => .error (Error.malformed "date time output" s)

/-- The name of a way to show the time. -/
def DateTimeOutput.name : DateTimeOutput → String
  | .dateTime => "DateTime"
  | .time => "Time"
  | .unixTime => "UnixTime"
  | .millisFromStart => "MillisFromStart"

/-- Whether a time is shown in civil time, and not as a number. -/
def DateTimeOutput.isCivil : DateTimeOutput → Bool
  | .dateTime | .time => true
  | .unixTime | .millisFromStart => false

/-- The style of logger names from its keyword. -/
def LoggerNameStyle.parse (s : String) : Except Error LoggerNameStyle :=
  match Text.keyword s with
  | "FULL" => .ok .full
  | "SHORT" => .ok .short
  | "HIDDEN" => .ok .hidden
  | "NONE" => .ok .hidden
  | _ => .error (Error.malformed "logger name style" s)

/-- The name of a style. -/
def LoggerNameStyle.name : LoggerNameStyle → String
  | .full => "Full"
  | .short => "Short"
  | .hidden => "Hidden"

/-! ## Short names -/

/-- The part of a text before the first double colon. -/
def beforeDoubleColon : List Char → List Char
  | ':' :: ':' :: _ => []
  | c :: rest => c :: beforeDoubleColon rest
  | [] => []

/-- The part of a text after the last double colon; of three colons the last two count. -/
def afterLastDoubleColon (s : List Char) : List Char := (beforeDoubleColon s.reverse).reverse

/-- The part of a text after the last dot. -/
def afterLastDot (s : List Char) : List Char := (s.reverse.takeWhile (· != '.')).reverse

/-- A logger's name in a style. -/
def LoggerNameStyle.apply (style : LoggerNameStyle) (name : String) : String :=
  match style with
  | .full | .hidden => name
  | .short => String.ofList (afterLastDot (afterLastDoubleColon name.toList))

/-! ## All settings -/

/-- The settings of a logger. -/
structure Config where
  /-- The shape of records. -/
  format : OutputFormat := .text
  /-- The name of the charset of records. -/
  charset : Option String := none
  /-- Whether the time is shown. -/
  showDateTime : Bool := false
  /-- What the time is shown as. -/
  dateTimeOutput : DateTimeOutput := .dateTime
  /-- A pattern for dates and times of day. -/
  dateTimePattern : Option String := none
  /-- The zone of dates and times of day. -/
  zone : Calendar.Zone := .fixed 0
  /-- Whether the version of the program is shown. -/
  showImplementationVersion : Bool := false
  /-- The version of the program. -/
  implementationVersion : String := "plainlog-0.1.0"
  /-- What the levels are called. -/
  levelLabels : Level.Map String := Level.name
  /-- Whether levels stand in brackets. -/
  levelInBrackets : Bool := false
  /-- The environment variables that are shown. -/
  environments : List String := []
  /-- Whether environment variables are shown with their names. -/
  environmentShowName : Bool := false
  /-- Whether environment variables that are not set are shown. -/
  environmentShowNullable : Bool := false
  /-- Whether environment variables are read once, when the configuration takes effect. -/
  environmentRememberOnStart : Bool := false
  /-- Whether the name of the thread is shown. -/
  showThreadName : Bool := true
  /-- Whether the diagnostic context of the thread is shown. -/
  showContext : Bool := false
  /-- How much of a logger's name is shown. -/
  loggerName : LoggerNameStyle := .full
  /-- The start of the program in milliseconds since 1970. -/
  startMillis : Int := 0

end Logline
