import Logline.Decimal.Notation
import Logline.Heap

/-! # Outlines of values

The **outline** of a value shows its kind and what it holds, without asking conversions or suppliers
and without entering object arrays.
-/

namespace Logline

/-- A floating point number of a format as text. -/
def numberText (f : Decimal.Format) (x : Decimal.Binary) : String :=
  Decimal.Layout.general.text f x

/-- Texts between square brackets. -/
def bracketed (parts : List String) : String := "[" ++ ", ".intercalate parts ++ "]"

/-- A kind with what it holds. -/
def outlineOf (kind content : String) : String := kind ++ "(" ++ content ++ ")"

/-- The outline of a scalar array. -/
def Scalars.outline : Scalars → String
  | .bools xs => outlineOf "Bool" (bracketed (xs.map toString))
  | .bytes xs => outlineOf "Byte" (bracketed (xs.map toString))
  | .chars xs => outlineOf "Char" (bracketed (xs.map Text.quoteChar))
  | .shorts xs => outlineOf "Short" (bracketed (xs.map toString))
  | .ints xs => outlineOf "Int" (bracketed (xs.map toString))
  | .longs xs => outlineOf "Long" (bracketed (xs.map toString))
  | .floats xs => outlineOf "Float" (bracketed (xs.map (numberText .single)))
  | .doubles xs => outlineOf "Double" (bracketed (xs.map (numberText .double)))

/-- The outline of a value. -/
def Value.outline (h : Heap) : Value → String
  | .null => "Null"
  | .bool b => outlineOf "Bool" (toString b)
  | .int n => outlineOf "I64" (toString n)
  | .nat n => outlineOf "U64" (toString n)
  | .float x => outlineOf "F64" (numberText .double x)
  | .char c => outlineOf "Char" (Text.quoteChar c)
  | .text s => outlineOf "Str" (Text.quote s)
  | .display _ => "Display(..)"
  | .deferred _ | .refused _ | .counter _ => "Deferred(..)"
  | .scalars xs => outlineOf "Primitives" xs.outline
  | .array id => outlineOf "Array" (toString (h.elements id).length)
  | .throwable id => outlineOf "Throwable" (Text.quote (h.caption id))

/-- The outline of an optional text. -/
def outlineOption : Option String → String
  | none => "None"
  | some s => outlineOf "Some" (Text.quote s)

/-- The outline of a throwable: class, message, number of frames and the caption of the cause. -/
def Heap.outline (h : Heap) (id : ThrowableId) : String :=
  let t := h.throwable id
  "Throwable \x7b class_name: " ++ Text.quote t.className ++ ", message: "
    ++ outlineOption t.message ++ ", frames: " ++ toString t.frames.length ++ ", cause: "
    ++ outlineOption (t.cause.map h.caption) ++ ", .. \x7d"

end Logline
