import Logline.Value

/-! # The heap

The **heap** says what the identities of object arrays and throwables stand for. Identities are
handed out in order and never taken back. An identity that was never handed out reads as an empty
array and as a throwable without anything.

* `Heap.elements`, `Heap.throwable` — what an identity stands for
* `Heap.newArray`, `Heap.push`, `Heap.set` — object arrays
* `Heap.newThrowable`, `Heap.initCause`, `Heap.suppress` — throwables
* `Heap.addChain`, `Heap.addError` — errors as throwables
-/

namespace Logline

/-- The object arrays and throwables that exist. -/
structure Heap where
  /-- The elements of each object array, by identity. -/
  arrays : List (List Value) := []
  /-- Each throwable, by identity. -/
  throwables : List Throwable := []

/-- A place outside an array of `length` elements. -/
structure OutOfBounds where
  length : Nat
  index : Nat
  deriving DecidableEq, Repr

/-- What is wrong, in words. -/
def OutOfBounds.message (e : OutOfBounds) : String :=
  "index out of bounds: the len is " ++ toString e.length ++ " but the index is "
    ++ toString e.index

namespace Heap

/-- The heap in which nothing exists. -/
def empty : Heap := {}

/-! ## Object arrays -/

/-- The elements of an array. -/
def elements (h : Heap) (id : ArrayId) : List Value := (h.arrays[id]?).getD []

/-- A new array. -/
def newArray (h : Heap) (vs : List Value) : Heap × ArrayId :=
  ({ h with arrays := h.arrays ++ [vs] }, h.arrays.length)

/-- An array with one more element at its end. -/
def push (h : Heap) (id : ArrayId) (v : Value) : Heap :=
  { h with arrays := h.arrays.modify id (· ++ [v]) }

/-- An array with another element in one place. -/
def set (h : Heap) (id : ArrayId) (index : Nat) (v : Value) : Except OutOfBounds Heap :=
  let length := (h.elements id).length
  if index < length then .ok { h with arrays := h.arrays.modify id (·.set index v) }
  else .error ⟨length, index⟩

/-! ## Throwables -/

/-- What stands for an identity that was never handed out. -/
def nothing : Throwable := .alone "" none []

/-- The throwable of an identity. -/
def throwable (h : Heap) (id : ThrowableId) : Throwable := (h.throwables[id]?).getD nothing

/-- The caption of a throwable. -/
def caption (h : Heap) (id : ThrowableId) : String := (h.throwable id).caption

/-- A new throwable. -/
def newThrowable (h : Heap) (t : Throwable) : Heap × ThrowableId :=
  ({ h with throwables := h.throwables ++ [t] }, h.throwables.length)

/-- Gives a throwable its cause and says whether it had none before; a cause is never replaced. -/
def initCause (h : Heap) (id cause : ThrowableId) : Heap × Bool :=
  if (h.throwable id).cause.isSome then (h, false)
  else ({ h with throwables := h.throwables.modify id ({ · with cause := some cause }) }, true)

/-- Adds a suppressed throwable after those that a throwable has. -/
def suppress (h : Heap) (id suppressed : ThrowableId) : Heap :=
  { h with
    throwables :=
      h.throwables.modify id fun t => { t with suppressed := t.suppressed ++ [suppressed] } }

/-! ## Errors as throwables -/

/-- The class of the throwable of an error. -/
def errorClass : String := "plainlog::error::Error"

/-- The class of the throwable of a failed conversion. -/
def formatClass : String := "core::fmt::Error"

/-- The class of the throwable of a cause. -/
def causeClass : String := "anyhow::Error"

/-- The class of the throwables behind that of an error or cause. -/
def sourceClass : String := "dyn std::error::Error"

/-- New throwables for some texts, each the cause of the one before it. They are made from the last
to the first, so that every throwable finds its cause made. -/
def addSources (h : Heap) : List String → Heap × Option ThrowableId
  | [] => (h, none)
  | text :: rest =>
    let (h, cause) := h.addSources rest
    let (h, id) := h.newThrowable { Throwable.alone sourceClass (some text) [] with cause }
    (h, some id)

/-- A new throwable with a class and a text, and behind it one for each text of a chain. -/
def addChain (h : Heap) (className text : String) (sources : List String) : Heap × ThrowableId :=
  let (h, cause) := h.addSources sources
  h.newThrowable { Throwable.alone className (some text) [] with cause }

/-- The throwable of an error. -/
def addError (h : Heap) (e : Error) : Heap × ThrowableId :=
  h.addChain errorClass e.display e.sourceChain

/-- The throwable of a failed conversion. -/
def addFormatFailure (h : Heap) : Heap × ThrowableId := h.addChain formatClass formatFailure []

/-- The throwable of a cause. -/
def addCause (h : Heap) (c : Cause) : Heap × ThrowableId :=
  h.addChain causeClass c.display c.chain.tail

end Heap

end Logline
