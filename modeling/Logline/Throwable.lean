import Logline.Text.Quoted

/-! # Throwables

A **throwable** is a failure as a record shows it: a class, a message, stack frames, a cause and
suppressed throwables. Throwables are shared and may refer to each other in circles, so a throwable
names others by their identities; what an identity stands for is kept in the heap.

* `Frame.sameAs` — when two frames count as the same
* `Throwable.caption` — class and message
-/

namespace Logline

/-- One call of a stack trace. -/
structure Frame where
  /-- The class of the called method. -/
  className : String
  /-- The called method. -/
  method : String
  /-- The file of the call, where it is known. -/
  file : Option String
  /-- The line of the call, where it is known. -/
  line : Option Nat
  /-- Whether the method is native code. -/
  native : Bool
  deriving DecidableEq, Repr

namespace Frame

/-- Two frames count as the same when class, method and line agree; the file and whether the method
is native do not matter. -/
def sameAs (f g : Frame) : Bool :=
  f.className == g.className && f.method == g.method && f.line == g.line

/-- The comparison of frames in logical form. -/
theorem sameAs_iff {f g : Frame} :
    f.sameAs g = true ↔ f.className = g.className ∧ f.method = g.method ∧ f.line = g.line := by
  simp [sameAs, and_assoc]

/-- A frame in words: the method, then where the call stands. -/
def text (f : Frame) : String :=
  f.className ++ "." ++ f.method
    ++ if f.native then "(Native Method)"
       else match f.file, f.line with
         | some file, some line => "(" ++ file ++ ":" ++ toString line ++ ")"
         | some file, none => "(" ++ file ++ ")"
         | none, _ => "(Unknown Source)"

end Frame

/-- The identity of a throwable. -/
abbrev ThrowableId := Nat

/-- A failure with what it refers to. -/
structure Throwable where
  /-- The class of the failure. -/
  className : String
  /-- The message, where there is one. -/
  message : Option String
  /-- The calls that led to the failure, the innermost first. -/
  frames : List Frame
  /-- The throwable behind this one. -/
  cause : Option ThrowableId
  /-- The throwables set aside for this one, in the order of their addition. -/
  suppressed : List ThrowableId
  deriving DecidableEq, Repr

namespace Throwable

/-- A throwable without references. -/
def alone (className : String) (message : Option String) (frames : List Frame) : Throwable :=
  ⟨className, message, frames, none, []⟩

/-- The throwables that a throwable refers to: the suppressed ones, then the cause. -/
def references (t : Throwable) : List ThrowableId := t.suppressed ++ t.cause.toList

/-- The class, and the message after a colon where there is one. -/
def caption (t : Throwable) : String :=
  match t.message with
  | some m => t.className ++ ": " ++ m
  | none => t.className

end Throwable

end Logline
