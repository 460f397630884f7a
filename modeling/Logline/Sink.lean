import Logline.Error
import Logline.Text.Digits

/-! # Sinks

A **sink** takes bytes. Its **identity** says which stream it stands for: sinks of one identity are
the same place, whatever objects stand for it. Calls of a sink may fail; which ones do is part of
the sink, so that the outcome of a call depends on nothing but its number.

* `SinkId` — identities, and when two are the same
* `Sink` — a sink with the outcomes of its calls
-/

namespace Logline

/-- The identity of a sink. -/
inductive SinkId where
  /-- The standard output. -/
  | stdout
  /-- The standard error output. -/
  | stderr
  /-- A file. -/
  | path (text : String)
  /-- Something in memory. -/
  | address (n : Nat)
  deriving DecidableEq, Repr

/-- The names of a path: empty ones do not count, and a single dot counts at the front of a relative
path only. -/
def pathNames (text : String) : List String :=
  match text.toList.splitOnP (· == '/') |>.map String.ofList with
  | [] => []
  | first :: rest =>
    (if first = "" then (if rest.isEmpty then [] else ["/"]) else [first])
      ++ rest.filter fun name => name != "" && name != "."

namespace SinkId

/-- An identity in words. -/
def text : SinkId → String
  | .stdout => "stdout"
  | .stderr => "stderr"
  | .path text => text
  | .address n => "0x" ++ Text.hex n

/-- Whether two identities stand for the same place; paths are compared name by name. -/
def same : SinkId → SinkId → Bool
  | .path s, .path t => pathNames s == pathNames t
  | a, b => a == b

/-- A place is the same as itself. -/
@[simp] theorem same_refl (a : SinkId) : a.same a = true := by cases a <;> simp [same]

/-- Being the same place goes both ways. -/
theorem same_symm {a b : SinkId} (h : a.same b = true) : b.same a = true := by
  cases a <;> cases b <;> simp_all [same]

/-- Places that are the same as a third one are the same. -/
theorem same_trans {a b c : SinkId} (h : a.same b = true) (k : b.same c = true) :
    a.same c = true := by
  cases a <;> cases b <;> cases c <;> simp_all [same]

end SinkId

/-- A sink. -/
structure Sink where
  /-- Which object this is. -/
  handle : Nat
  /-- Which place it stands for. -/
  id : SinkId
  /-- The error of the call that writes for the n-th time, counted from zero, where it fails. -/
  writeFault : Nat → Option Error
  /-- The error of the call that flushes for the n-th time, counted from zero, where it fails. -/
  flushFault : Nat → Option Error

/-- A sink whose calls never fail. -/
def Sink.reliable (handle : Nat) (id : SinkId) : Sink :=
  ⟨handle, id, fun _ => none, fun _ => none⟩

end Logline
