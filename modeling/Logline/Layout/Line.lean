import Logline.Layout.Scene
import Logline.Throwable.Trace

/-! # Records as lines of text

A record is one line of segments, each with the blank or mark that sets it off from the next, and
below it the stack trace of its throwable, an entry a line.

* `Line` — a segment
* `Line.text` — what a segment adds
* `Line.ofConfig` — the segments of a configuration
* `Trace.Entry.line` — an entry of a stack trace as a line
-/

namespace Logline

namespace Trace

/-- The words in front of a caption. -/
def Label.text : Label → String
  | .root => ""
  | .suppressed => "Suppressed: "
  | .cause => "Caused by: "

/-- Indentation by tabs. -/
def tabs (depth : Nat) : String := String.ofList (List.replicate depth '\t')

/-- The mark of a throwable that is met again. -/
def circularMark (caption : String) : String := "[CIRCULAR REFERENCE: " ++ caption ++ "]"

/-- An entry of a stack trace as a line. -/
def Entry.line (h : Heap) : Entry → String
  | .caption depth label id => tabs depth ++ label.text ++ h.caption id ++ "\n"
  | .frame depth _ _ f => tabs depth ++ "\tat " ++ f.text ++ "\n"
  | .elided depth count => tabs depth ++ "\t... " ++ toString count ++ " more\n"
  | .circular depth label id => tabs depth ++ label.text ++ circularMark (h.caption id) ++ "\n"

end Trace

namespace Layout

/-- A segment of a line. -/
inductive Line where
  /-- The time of the event. -/
  | dateTime
  /-- The version of the program. -/
  | implementation (version : String)
  /-- The level under its label. -/
  | level (labels : Level.Map String) (inBrackets : Bool)
  /-- Environment variables. -/
  | environment (part : EnvironmentPart)
  /-- The thread. -/
  | thread
  /-- The diagnostic context. -/
  | context
  /-- The name of the logger. -/
  | loggerName (style : LoggerNameStyle)
  /-- The message. -/
  | message
  /-- The end of the line. -/
  | lineEnd
  /-- The stack trace. -/
  | throwable

namespace Line

/-- The place of a segment. -/
def order : Line → Order
  | .dateTime => .dateTime
  | .implementation _ => .implementation
  | .level _ _ => .level
  | .environment _ => .environment
  | .thread => .thread
  | .context => .context
  | .loggerName _ => .loggerName
  | .message => .message
  | .lineEnd => .eventSeparator
  | .throwable => .throwable

/-- A diagnostic context in a line; nothing where it is empty. -/
def contextText (c : Context) : String :=
  match c with
  | [] => ""
  | entries =>
    "\x7b" ++ ", ".intercalate (entries.map fun e => e.1 ++ "=" ++ e.2) ++ "\x7d "

/-- The stack trace of a throwable, an entry a line. -/
def traceText (h : Heap) (id : ThrowableId) : String :=
  String.join ((h.trace id).map (Trace.Entry.line h))

/-- What a segment adds to an event. -/
def text (s : Scene) (e : Event) : Line → String
  | .dateTime => s.time ++ " "
  | .implementation version => "[" ++ version ++ "] "
  | .level labels inBrackets =>
    if inBrackets then "[" ++ labels e.level ++ "] " else labels e.level ++ " "
  | .environment part => part.text Selection.text s.environment
  | .thread => "[" ++ s.thread.label ++ "] "
  | .context => contextText s.context
  | .loggerName style => style.apply e.logger ++ " - "
  | .message => e.message.getD "null"
  | .lineEnd => "\n"
  | .throwable => (e.throwable.map (traceText s.heap)).getD ""

/-- A segment that is shown under a condition. -/
def shown (condition : Bool) (segment : Line) : List Line := if condition then [segment] else []

/-- The segments of a configuration. -/
def ofConfig (c : Config) (e : Environment) : List Line :=
  shown c.showDateTime .dateTime
    ++ shown c.showImplementationVersion (.implementation c.implementationVersion)
    ++ [.level c.levelLabels c.levelInBrackets]
    ++ (EnvironmentPart.ofConfig? c Selection.text e).toList.map .environment
    ++ shown c.showThreadName .thread
    ++ shown c.showContext .context
    ++ shown (c.loggerName != .hidden) (.loggerName c.loggerName)
    ++ [.message, .lineEnd, .throwable]

end Line

end Layout

end Logline
