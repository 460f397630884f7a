import Logline.Environment
import Logline.Rendering
import Logline.Sink
import Logline.Thread

/-! # The world of a program

What a program shares: the heap, the environment, the diagnostic contexts, what arguments have been
asked, and a **journal** of everything that can be seen from outside, in order.

* `Trap` — where reports of failures go
* `Effect` — one entry of the journal
* `World.report`, `World.write`, `World.flush` — the operations that add to the journal
* `World.asking` — renders something and sends the reports that are due
-/

namespace Logline

/-- Where reports of failures go. -/
inductive Trap where
  /-- They are printed on the standard error output, a line each. -/
  | standardError
  /-- They are kept. -/
  | recorder
  deriving DecidableEq, Repr

/-- A report as it is printed. -/
def Trap.line (e : Error) : String := "plainlog: " ++ e.display ++ "\n"

/-- Something that can be seen from outside. -/
inductive Effect where
  /-- A call that writes bytes to a sink, and its error where it failed. -/
  | write (sink : Nat) (id : SinkId) (bytes : List UInt8) (error : Option Error)
  /-- A call that flushes a sink, and its error where it failed. -/
  | flush (sink : Nat) (id : SinkId) (error : Option Error)
  /-- A report to a trap. -/
  | report (trap : Trap) (error : Error)
  deriving Repr

namespace Effect

/-- Whether an effect is a write to a sink object. -/
def writesTo (sink : Nat) : Effect → Bool
  | .write s _ _ _ => s == sink
  | _ => false

/-- Whether an effect is a flush of a sink object. -/
def flushes (sink : Nat) : Effect → Bool
  | .flush s _ _ => s == sink
  | _ => false

/-- The bytes that an effect adds to the place of an identity. -/
def bytesAt (place : SinkId) : Effect → List UInt8
  | .write _ id bytes none => if id.same place then bytes else []
  | _ => []

end Effect

/-- What a program shares. -/
structure World where
  heap : Heap := {}
  environment : Environment := []
  diagnostics : Diagnostics := Diagnostics.empty
  /-- What arguments have been asked, in order. -/
  attempts : List Attempt := []
  /-- Where the reports of failed arguments go. -/
  processTrap : Trap := .standardError
  /-- What can be seen from outside, in order. -/
  journal : List Effect := []

namespace World

/-- Adds an effect to the journal. -/
def add (w : World) (e : Effect) : World := { w with journal := w.journal ++ [e] }

/-- Sends a report to a trap. -/
def report (w : World) (trap : Trap) (e : Error) : World := w.add (.report trap e)

/-- Sends reports to a trap. -/
def reportAll (w : World) (trap : Trap) (es : List Error) : World :=
  es.foldl (fun w e => w.report trap e) w

/-- Adds effects to the journal. -/
def addAll (w : World) (es : List Effect) : World := { w with journal := w.journal ++ es }

/-- New effects come behind the earlier ones. -/
@[simp] theorem journal_addAll (w : World) (es : List Effect) :
    (w.addAll es).journal = w.journal ++ es := rfl

/-- No new effects leave a world as it is. -/
@[simp] theorem addAll_nil (w : World) : w.addAll [] = w := by simp [addAll]

/-- Effects are added one after the other. -/
@[simp] theorem addAll_addAll (w : World) (es fs : List Effect) :
    (w.addAll es).addAll fs = w.addAll (es ++ fs) := by simp [addAll]

/-- A report is an effect. -/
theorem report_eq (w : World) (trap : Trap) (e : Error) :
    w.report trap e = w.addAll [.report trap e] := rfl

/-- Reports are effects, one after the other. -/
theorem reportAll_eq (w : World) (trap : Trap) (es : List Error) :
    w.reportAll trap es = w.addAll (es.map (.report trap)) := by
  rw [reportAll]
  induction es generalizing w with
  | nil => exact (addAll_nil w).symm
  | cons e es ih => rw [List.foldl_cons, ih, report_eq, addAll_addAll]; rfl

/-- Reports go to the end of the journal. -/
theorem journal_reportAll (w : World) (trap : Trap) (es : List Error) :
    (w.reportAll trap es).journal = w.journal ++ es.map (Effect.report trap) := by
  rw [reportAll_eq, journal_addAll]

/-- Calls a sink to write bytes. -/
def write (w : World) (s : Sink) (bytes : List UInt8) : World × Option Error :=
  let error := s.writeFault (w.journal.countP (Effect.writesTo s.handle))
  (w.add (.write s.handle s.id bytes error), error)

/-- Calls a sink to flush. -/
def flush (w : World) (s : Sink) : World × Option Error :=
  let error := s.flushFault (w.journal.countP (Effect.flushes s.handle))
  (w.add (.flush s.handle s.id error), error)

/-- What has been written to the place of an identity. -/
def bytesAt (w : World) (place : SinkId) : List UInt8 := w.journal.flatMap (Effect.bytesAt place)

/-- Does something that asks arguments, and sends the reports that are due. -/
def asking {α : Type} (w : World) (f : Heap → List Attempt → α × List Attempt) : α × World :=
  let (a, attempts) := f w.heap w.attempts
  let due := (attempts.drop w.attempts.length).filterMap Attempt.report?
  (a, { w with attempts }.reportAll w.processTrap due)

end World

end Logline
