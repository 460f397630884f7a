import Logline.Level
import Logline.Message

/-! # Events

An **event** is what is logged: a logger's name, a level, a message, a throwable and a time; and the
text into which it has been laid out so far.
-/

namespace Logline

/-- What is logged. -/
structure Event where
  /-- The name of the logger. -/
  logger : String
  level : Level
  /-- The text of the message, where there is one. -/
  message : Option String
  throwable : Option ThrowableId
  /-- The time in milliseconds since 1970. -/
  millis : Int
  /-- The layout so far. -/
  buffer : String
  deriving DecidableEq, Repr

namespace Event

/-- An event from a finished message. -/
def ofText (logger : String) (level : Level) (message : Option String)
    (throwable : Option ThrowableId) (millis : Int) : Event :=
  ⟨logger, level, message, throwable, millis, ""⟩

/-- An event from a template and its arguments, and the attempts after rendering them. -/
def ofTemplate (h : Heap) (attempts : List Attempt) (logger : String) (level : Level)
    (template : Option String) (args : List Value) (throwable : Option ThrowableId)
    (millis : Int) : Event × List Attempt :=
  let (m, attempts) := Message.forRecord h attempts template args throwable
  (ofText logger level m.text m.throwable millis, attempts)

/-- An event with more text in its layout. -/
def append (e : Event) (s : String) : Event := { e with buffer := e.buffer ++ s }

/-- The empty text adds nothing to a record. -/
@[simp] theorem append_empty (e : Event) : e.append "" = e := by simp [append]

/-- Texts are added one behind the other. -/
@[simp] theorem append_append (e : Event) (s t : String) :
    (e.append s).append t = e.append (s ++ t) := by simp [append, String.append_assoc]

end Event

end Logline
