import Logline.Value.Outline

/-! # Rendering of values

A value is rendered by appending its text to what was written before. On the way the conversions and
suppliers of arguments are asked; what they do is noted as **attempts**, in order, and a failed one
leaves `failedText` in place of its text. Object arrays are entered once on every path: an array met
again inside itself shows as `[...]`.

* `Attempt`, `Attempt.report?` — what was asked of an argument, and the report of its failure
* `Rendering` — text, open arrays and attempts so far
* `Rendering.append` — the rendering of a value
* `Value.render` — the text and the attempts of one value
-/

namespace Logline

/-- What stands in the place of an argument whose conversion or supplier failed. -/
def failedText : String := "[FAILED toString()]"

/-- Something that was asked of an argument. -/
inductive Attempt where
  /-- A conversion to text. -/
  | conversion (c : Conversion)
  /-- A supplier that answered a value. -/
  | supplied
  /-- A supplier that answered none. -/
  | refused (r : Refusal)
  /-- The counter of a name. -/
  | counted (name : String)
  deriving Repr

/-- A panic as an error. -/
def Panic.error (what : String) (p : Panic) : Error :=
  (Error.ofMessage what).withDetail "panic" p.text

/-- The report of a conversion that failed. -/
def Ending.report? : Ending → Option Error
  | .done => none
  | .failure => some Error.format
  | .panic p => some (p.error "argument conversion panicked")

/-- The report of a supplier that answered no value. -/
def Refusal.report : Refusal → Error
  | .error e => (Error.ofMessage "failed to supply argument").withCause e.toCause
  | .panic p => p.error "argument supplier panicked"

/-- The report that is due for an attempt, where it failed. -/
def Attempt.report? : Attempt → Option Error
  | .conversion c => c.ending.report?
  | .refused r => some r.report
  | .supplied | .counted _ => none

/-- The text that a conversion contributes: all of it or none. -/
def Conversion.text (c : Conversion) : String :=
  match c.ending with
  | .done => c.written
  | .failure | .panic _ => failedText

/-- Whether an attempt asked the counter of a name. -/
def Attempt.asks (name : String) : Attempt → Bool
  | .counted n => n == name
  | _ => false

/-- The state of a rendering. -/
structure Rendering where
  /-- The text so far. -/
  out : String
  /-- The object arrays that are open. -/
  opened : List ArrayId
  /-- The attempts so far, in order. -/
  attempts : List Attempt

namespace Rendering

/-- Appends a text. -/
def put (r : Rendering) (s : String) : Rendering := { r with out := r.out ++ s }

/-- Texts are appended one behind the other. -/
theorem put_put (r : Rendering) (s t : String) : (r.put s).put t = r.put (s ++ t) := by
  simp [put, String.append_assoc]

/-- Notes an attempt. -/
def note (r : Rendering) (a : Attempt) : Rendering := { r with attempts := r.attempts ++ [a] }

/-- How often the counter of a name has been asked. -/
def asked (r : Rendering) (name : String) : Nat := r.attempts.countP (Attempt.asks name)

/-- Appends the elements of a list, separated by commas. -/
def joined {α : Type} (append : Rendering → α → Rendering) (r : Rendering) : List α → Rendering
  | [] => r
  | x :: xs => xs.foldl (fun r x => append (r.put ", ") x) (append r x)

end Rendering

/-- The text of a scalar array. -/
def Scalars.text : Scalars → String
  | .bools xs => bracketed (xs.map toString)
  | .bytes xs => bracketed (xs.map toString)
  | .chars xs => bracketed (xs.map Char.toString)
  | .shorts xs => bracketed (xs.map toString)
  | .ints xs => bracketed (xs.map toString)
  | .longs xs => bracketed (xs.map toString)
  | .floats xs => bracketed (xs.map (numberText .single))
  | .doubles xs => bracketed (xs.map (numberText .double))

/-- Renders a value, given how an object array is rendered. -/
def Value.appendTo (h : Heap) (array : Rendering → ArrayId → Rendering) (r : Rendering) :
    Value → Rendering
  | .null => r.put "null"
  | .bool b => r.put (toString b)
  | .int n => r.put (toString n)
  | .nat n => r.put (toString n)
  | .float x => r.put (numberText .double x)
  | .char c => r.put c.toString
  | .text s => r.put s
  | .display c => (r.note (.conversion c)).put c.text
  | .deferred v => v.appendTo h array (r.note .supplied)
  | .refused f => (r.note (.refused f)).put failedText
  | .counter name => (r.note (.counted name)).put (toString (r.asked name + 1))
  | .scalars xs => r.put xs.text
  | .array id => array r id
  | .throwable id => r.put (h.caption id)

/-- Renders an object array of which at most `room` others can be opened inside: three dots where it
is open already, and otherwise its elements while it is open. Since an array is opened at most once
on a path, the number of arrays is room enough. -/
def Rendering.array (h : Heap) : (room : Nat) → Rendering → ArrayId → Rendering
  | room, r, id =>
    let r := r.put "["
    if id ∈ r.opened then r.put "...]"
    else
      match room with
      -- out of reach: all arrays are open
      | 0 => r.put "]"
      | room + 1 =>
        let inner := Rendering.joined (fun r v => v.appendTo h (Rendering.array h room) r)
          { r with opened := id :: r.opened } (h.elements id)
        { inner with opened := inner.opened.erase id }.put "]"

/-- Renders a value. -/
def Rendering.append (h : Heap) (r : Rendering) (v : Value) : Rendering :=
  v.appendTo h (Rendering.array h h.arrays.length) r

/-- The text of a value after earlier attempts, and the attempts after it. -/
def Value.render (h : Heap) (attempts : List Attempt) (v : Value) : String × List Attempt :=
  let r := Rendering.append h ⟨"", [], attempts⟩ v
  (r.out, r.attempts)

end Logline
