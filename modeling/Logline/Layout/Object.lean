import Logline.Layout.Line

/-! # Records as JSON objects

A record is one JSON object on a line. Its members, its braces and the commas between its members
are segments of their own, so that a record is what its segments add, one after the other.

* `Object` — a segment
* `Object.text` — what a segment adds
* `Object.ofConfig` — the segments of a configuration
* `Trace.Entry.json?` — what an entry of a stack trace is in the list of entries
-/

namespace Logline

namespace Trace

/-- A called method, with its line where it is known. -/
def methodText (f : Frame) : String :=
  (if f.native then "native " else "") ++ f.method
    ++ match f.line with
       | some line => ":" ++ toString line
       | none => ""

/-- An entry of a stack trace as a JSON value: a frame is an object, the first frame of a throwable
with the throwable's message, and a throwable that is met again is a string. Captions and counts of
frames are left out. -/
def Entry.json? (h : Heap) : Entry → Option Json
  | .frame _ id index f =>
    let message := if index = 0 then (h.throwable id).message else none
    some (.object ([("clazz", .string f.className)]
      ++ message.toList.map (fun m => ("message", .string m))
      ++ [("method", .string (methodText f))]))
  | .circular _ _ id => some (.string (circularMark (h.caption id)))
  | .caption _ _ _ | .elided _ _ => none

end Trace

namespace Layout

/-- A segment of a JSON object. -/
inductive Object where
  /-- The opening brace. -/
  | opening
  /-- The comma in front of a member with an order. -/
  | comma (order : Order)
  /-- The time of the event. -/
  | dateTime
  /-- The version of the program. -/
  | implementation (version : String)
  /-- The level under its label. -/
  | level (labels : Level.Map String)
  /-- Environment variables. -/
  | environment (part : EnvironmentPart)
  /-- The thread. -/
  | thread
  /-- The diagnostic context. -/
  | context
  /-- The name of the logger. -/
  | loggerName (style : LoggerNameStyle)
  /-- The message. -/
  | message
  /-- The throwable's message and stack trace. -/
  | throwable
  /-- The closing brace and the end of the line. -/
  | closing

namespace Object

/-- The place of a segment. -/
def order : Object → Order
  | .opening => .dateTime
  | .comma order => order
  | .dateTime => .dateTime
  | .implementation _ => .implementation
  | .level _ => .level
  | .environment _ => .environment
  | .thread => .thread
  | .context => .context
  | .loggerName _ => .loggerName
  | .message => .message
  | .throwable => .throwable
  | .closing => .eventEnd

/-- A diagnostic context as a JSON object. -/
def contextJson (c : Context) : Json := .object (c.map fun e => (e.1, .string e.2))

/-- The entries of a throwable's stack trace. -/
def traceJson (h : Heap) (id : ThrowableId) : Json :=
  .array ((h.trace id).filterMap (Trace.Entry.json? h))

/-- The two members of a throwable, each behind a comma. -/
def throwableText (h : Heap) (id : ThrowableId) : String :=
  "," ++ Json.member "exception" (Json.ofOption (h.throwable id).message)
    ++ "," ++ Json.member "stacktrace" (traceJson h id)

/-- What a segment adds to an event. -/
def text (s : Scene) (e : Event) : Object → String
  | .opening => "\x7b"
  | .comma _ => ","
  | .dateTime => Json.member "timestamp" (.string s.time)
  | .implementation version => Json.member "implementation" (.string version)
  | .level labels => Json.member "level" (.string (labels e.level))
  | .environment part => part.text Selection.json s.environment
  | .thread => Json.member "thread" (.string s.thread.label)
  | .context => Json.member "context" (contextJson s.context)
  | .loggerName style => Json.member "logger" (.string (style.apply e.logger))
  | .message => Json.member "message" (Json.ofOption e.message)
  | .throwable => (e.throwable.map (throwableText s.heap)).getD ""
  | .closing => "\x7d\n"

/-- A segment that is shown under a condition. -/
def shown (condition : Bool) (segment : Object) : List Object :=
  if condition then [segment] else []

/-- The members that a configuration shows. -/
def shownMembers (c : Config) (e : Environment) : List Object :=
  shown c.showDateTime .dateTime
    ++ shown c.showImplementationVersion (.implementation c.implementationVersion)
    ++ [.level c.levelLabels]
    ++ (EnvironmentPart.ofConfig? c Selection.json e).toList.map .environment
    ++ shown c.showThreadName .thread
    ++ shown c.showContext .context
    ++ shown (c.loggerName != .hidden) (.loggerName c.loggerName)
    ++ [.message]

/-- The members of a configuration, in order. -/
def members (c : Config) (e : Environment) : List Object :=
  (shownMembers c e).mergeSort fun m m' => m.order.le m'.order

/-- Members with a comma in front of each but the first. -/
def separated : List Object → List Object
  | [] => []
  | m :: ms => m :: ms.flatMap fun m => [.comma m.order, m]

/-- The segments of a configuration. -/
def ofConfig (c : Config) (e : Environment) : List Object :=
  .opening :: separated (members c e) ++ [.throwable, .closing]

end Object

end Layout

end Logline
