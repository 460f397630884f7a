import Logline.Decimal.Binary
import Logline.Error
import Logline.Throwable

/-! # Argument values

The arguments of a message. Numbers, characters and texts print themselves; an argument with a
conversion of its own is known by what that conversion does, and a deferred argument by what its
supplier answers. Object arrays and throwables are shared and are named by identity.

* `Conversion` — what happens when an argument is converted to text
* `Refusal` — how a supplier answers no value
* `Scalars` — arrays of one scalar type
* `Value` — an argument
-/

namespace Logline

/-- The identity of an object array. -/
abbrev ArrayId := Nat

/-- What an argument's code says when it panics. -/
inductive Panic where
  /-- A message. -/
  | message (text : String)
  /-- Something that is no text. -/
  | other
  deriving DecidableEq, Repr

/-- A panic in words. -/
def Panic.text : Panic → String
  | .message text => text
  | .other => "<non-string panic payload>"

/-- How a conversion ends. -/
inductive Ending where
  /-- The text is complete. -/
  | done
  /-- The conversion gives up. -/
  | failure
  /-- The conversion panics. -/
  | panic (p : Panic)
  deriving DecidableEq, Repr

/-- What a conversion to text does: it writes a text and comes to an end. -/
structure Conversion where
  /-- The text that is written. -/
  written : String
  /-- How the conversion ends after it. -/
  ending : Ending
  deriving DecidableEq, Repr

/-- How a supplier answers no value. -/
inductive Refusal where
  /-- It answers an error. -/
  | error (e : Error)
  /-- It panics. -/
  | panic (p : Panic)
  deriving Repr

/-- An array of one scalar type. -/
inductive Scalars where
  | bools (xs : List Bool)
  | bytes (xs : List Nat)
  | chars (xs : List Char)
  | shorts (xs : List Int)
  | ints (xs : List Int)
  | longs (xs : List Int)
  | floats (xs : List Decimal.Binary)
  | doubles (xs : List Decimal.Binary)
  deriving Repr

/-- How many elements a scalar array has. -/
def Scalars.length : Scalars → Nat
  | .bools xs => xs.length
  | .bytes xs => xs.length
  | .chars xs => xs.length
  | .shorts xs => xs.length
  | .ints xs => xs.length
  | .longs xs => xs.length
  | .floats xs => xs.length
  | .doubles xs => xs.length

/-- Whether two lists of binary numbers are equal, number by number. -/
def sameNumbers : List Decimal.Binary → List Decimal.Binary → Bool
  | [], [] => true
  | x :: xs, y :: ys => x.same y && sameNumbers xs ys
  | _, _ => false

/-- Whether two scalar arrays have one type and equal elements; floating point elements are compared
as numbers. -/
def Scalars.same : Scalars → Scalars → Bool
  | .bools xs, .bools ys => xs == ys
  | .bytes xs, .bytes ys => xs == ys
  | .chars xs, .chars ys => xs == ys
  | .shorts xs, .shorts ys => xs == ys
  | .ints xs, .ints ys => xs == ys
  | .longs xs, .longs ys => xs == ys
  | .floats xs, .floats ys => sameNumbers xs ys
  | .doubles xs, .doubles ys => sameNumbers xs ys
  | _, _ => false

/-- An argument of a message. -/
inductive Value where
  /-- No value. -/
  | null
  | bool (b : Bool)
  /-- A signed number. -/
  | int (n : Int)
  /-- An unsigned number. -/
  | nat (n : Nat)
  /-- A floating point number of 64 bits. -/
  | float (x : Decimal.Binary)
  | char (c : Char)
  | text (s : String)
  /-- An argument with a conversion of its own. -/
  | display (c : Conversion)
  /-- A supplier that answers a value. -/
  | deferred (v : Value)
  /-- A supplier that answers none. -/
  | refused (r : Refusal)
  /-- A supplier that answers how often the counter of a name has been asked. -/
  | counter (name : String)
  /-- An array of scalars. -/
  | scalars (xs : Scalars)
  /-- An object array. -/
  | array (id : ArrayId)
  /-- A throwable. -/
  | throwable (id : ThrowableId)
  deriving Repr

/-- Whether an argument is no value. -/
def Value.isNull : Value → Bool
  | .null => true
  | _ => false

end Logline
