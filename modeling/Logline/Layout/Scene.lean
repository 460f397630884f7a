import Logline.Environment
import Logline.Event
import Logline.Thread

/-! # What layouts see

A **layout** adds a text to an event. Besides the event it sees a **scene**: the surroundings in
which the event is laid out, and the text of the event's time. Layouts run in increasing **order**.
-/

namespace Logline.Layout

/-- The places of layouts in a record. -/
inductive Order where
  | dateTime
  | implementation
  | level
  | environment
  | thread
  | context
  | loggerName
  | message
  | eventSeparator
  | throwable
  | eventEnd
  deriving DecidableEq, Repr

namespace Order

/-- The orders, the first place first. -/
def all : List Order :=
  [.dateTime, .implementation, .level, .environment, .thread, .context, .loggerName, .message,
    .eventSeparator, .throwable, .eventEnd]

/-- The place of an order in `all`. -/
def index : Order → Nat
  | .dateTime => 0
  | .implementation => 1
  | .level => 2
  | .environment => 3
  | .thread => 4
  | .context => 5
  | .loggerName => 6
  | .message => 7
  | .eventSeparator => 8
  | .throwable => 9
  | .eventEnd => 10

/-- The name of an order. -/
def name : Order → String
  | .dateTime => "DateTime"
  | .implementation => "Implementation"
  | .level => "Level"
  | .environment => "Environment"
  | .thread => "Thread"
  | .context => "Context"
  | .loggerName => "LoggerName"
  | .message => "Message"
  | .eventSeparator => "EventSeparator"
  | .throwable => "Throwable"
  | .eventEnd => "EventEnd"

/-- An order is found at its place. -/
theorem all_getElem?_index (o : Order) : all[o.index]? = some o := by cases o <;> rfl

/-- Whether a place comes before another one, or is the same. -/
def le (o o' : Order) : Bool := o.index ≤ o'.index

/-- Places are compared by their numbers. -/
theorem le_iff {o o' : Order} : o.le o' = true ↔ o.index ≤ o'.index := decide_eq_true_iff

/-- Places are in a chain. -/
theorem le_trans (o₁ o₂ o₃ : Order) (h : o₁.le o₂ = true) (h' : o₂.le o₃ = true) :
    o₁.le o₃ = true :=
  le_iff.2 (Nat.le_trans (le_iff.1 h) (le_iff.1 h'))

/-- Of two places one comes before the other, or they are the same. -/
theorem le_total (o o' : Order) : (o.le o' || o'.le o) = true := by
  rw [Bool.or_eq_true, le_iff, le_iff]
  exact Nat.le_total _ _

end Order

/-- Where an event is laid out. -/
structure Surroundings where
  environment : Environment
  thread : Thread
  /-- The diagnostic context of the thread. -/
  context : Context
  heap : Heap

/-- The surroundings of an event and the text of its time. -/
structure Scene extends Surroundings where
  time : String

/-- An environment segment: what is selected, and its text where it was fixed in advance. -/
structure EnvironmentPart where
  selection : Selection
  remembered : Option String
  deriving DecidableEq, Repr

/-- The text of an environment segment that is read by `read`. -/
def EnvironmentPart.text (p : EnvironmentPart) (read : Selection → Environment → String)
    (e : Environment) : String :=
  p.remembered.getD (read p.selection e)

/-- The environment segment of a configuration; its text is fixed when the configuration takes
effect, where it is to be remembered. -/
def EnvironmentPart.ofConfig? (c : Config) (read : Selection → Environment → String)
    (e : Environment) : Option EnvironmentPart :=
  (Selection.ofConfig? c).map fun s =>
    ⟨s, if c.environmentRememberOnStart then some (read s e) else none⟩

end Logline.Layout
