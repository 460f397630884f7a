import Logline.Json

/-! # Reading JSON

A text is read one character after the other, by the grammar of JSON: blanks between tokens, numbers
without superfluous zeros, strings without raw control characters and with every escape, surrogates
in pairs only. The **reader** keeps the arrays and objects that are open, and its **place** in the
grammar.

* `NumberPart` — the places inside a number
* `Escape` — the places inside an escape
* `Reader.step` — what one character does
* `Json.read` — a whole text -/

namespace Logline.Json

/-! ## Numbers -/

/-- A place inside a number. -/
inductive NumberPart where
  /-- Behind the minus sign. -/
  | minus
  /-- Behind a zero that is the whole part. -/
  | zero
  /-- Behind a digit of the whole part, which does not begin with a zero. -/
  | whole
  /-- Behind the decimal point. -/
  | point
  /-- Behind a digit of the fraction. -/
  | fraction
  /-- Behind the letter of the exponent. -/
  | letter
  /-- Behind the sign of the exponent. -/
  | sign
  /-- Behind a digit of the exponent. -/
  | exponent
  deriving DecidableEq, Repr

namespace NumberPart

/-- The place behind the first character of a number. -/
def first (c : Char) : Option NumberPart :=
  if c = '-' then some .minus else if c = '0' then some .zero
  else if c.isDigit then some .whole else none

/-- The place behind a character that may follow the whole part or the fraction. -/
def behind (c : Char) : Option NumberPart := if c = 'e' ∨ c = 'E' then some .letter else none

/-- The place behind one more character. -/
def next (c : Char) : NumberPart → Option NumberPart
  | .minus => if c = '0' then some .zero else if c.isDigit then some .whole else none
  | .zero => if c = '.' then some .point else behind c
  | .whole => if c.isDigit then some .whole else if c = '.' then some .point else behind c
  | .point => if c.isDigit then some .fraction else none
  | .fraction => if c.isDigit then some .fraction else behind c
  | .letter =>
    if c = '+' ∨ c = '-' then some .sign else if c.isDigit then some .exponent else none
  | .sign => if c.isDigit then some .exponent else none
  | .exponent => if c.isDigit then some .exponent else none

/-- Whether a number may end. -/
def ends : NumberPart → Bool
  | .zero | .whole | .fraction | .exponent => true
  | _ => false

/-- The place behind a whole literal. -/
def ofLiteral : List Char → Option NumberPart
  | [] => none
  | c :: cs => (first c).bind fun part => cs.foldlM (fun part c => next c part) part

end NumberPart

/-! ## Escapes -/

/-- A place inside an escape. -/
inductive Escape where
  /-- Not inside one. -/
  | none
  /-- Behind a backslash. -/
  | backslash
  /-- Behind so many of four digits that have a value; `high` is the surrogate in front, where there
  is one. -/
  | code (high : Option Nat) (digits value : Nat)
  /-- Behind a high surrogate. -/
  | surrogate (high : Nat)
  /-- Behind a high surrogate and a backslash. -/
  | surrogateBackslash (high : Nat)
  deriving DecidableEq, Repr

/-- The value of a digit of base sixteen. -/
def hexDigit? (c : Char) : Option Nat :=
  if '0' ≤ c ∧ c ≤ '9' then some (c.toNat - 0x30)
  else if 'a' ≤ c ∧ c ≤ 'f' then some (c.toNat - 0x61 + 10)
  else if 'A' ≤ c ∧ c ≤ 'F' then some (c.toNat - 0x41 + 10)
  else none

/-- The character that a letter behind a backslash stands for. -/
def unescape? (c : Char) : Option Char :=
  if c = '"' ∨ c = '\\' ∨ c = '/' then some c
  else if c = 'b' then some '\x08'
  else if c = 'f' then some '\x0c'
  else if c = 'n' then some '\n'
  else if c = 'r' then some '\r'
  else if c = 't' then some '\t'
  else none

/-- What four digits add to a string: a character, or the place behind a high surrogate. -/
def decode (high : Option Nat) (value : Nat) : Option (Char ⊕ Nat) :=
  match high with
  | some h =>
    if 0xDC00 ≤ value ∧ value < 0xE000 then
      some (.inl (Char.ofNat (0x10000 + (h - 0xD800) * 0x400 + (value - 0xDC00))))
    else none
  | none =>
    if 0xD800 ≤ value ∧ value < 0xDC00 then some (.inr value)
    else if 0xDC00 ≤ value ∧ value < 0xE000 then none
    else some (.inl (Char.ofNat value))

/-! ## The reader -/

/-- An array or an object that is open. -/
inductive Frame where
  /-- An array and its items so far. -/
  | items (done : List Json)
  /-- An object and its members so far. -/
  | members (done : List (String × Json))
  /-- An object, its members so far, and the key of the one that is being read. -/
  | member (done : List (String × Json)) (key : String)

/-- A place in the grammar. -/
inductive Place where
  /-- In front of a value; `first` where an array may end instead. -/
  | value (first : Bool)
  /-- In front of a key; `first` where an object may end instead. -/
  | key (first : Bool)
  /-- Behind a key. -/
  | colon (key : String)
  /-- Inside a string, which may be a key. -/
  | string (isKey : Bool) (chars : List Char) (escape : Escape)
  /-- Inside a word, with so much of it to come. -/
  | word (rest : List Char) (value : Json)
  /-- Inside a number. -/
  | number (literal : List Char) (part : NumberPart)
  /-- Behind a value. -/
  | done (value : Json)

/-- A reader of JSON. -/
structure Reader where
  /-- The arrays and objects that are open, the innermost first. -/
  frames : List Frame
  place : Place

/-- The characters that may stand between tokens. -/
def isBlank (c : Char) : Bool := c == ' ' || c == '\t' || c == '\n' || c == '\r'

namespace Reader

/-- A character that begins a value. -/
def begin (frames : List Frame) (c : Char) : Option Reader :=
  if c = '"' then some ⟨frames, .string false [] .none⟩
  else if c = '[' then some ⟨.items [] :: frames, .value true⟩
  else if c = '{' then some ⟨.members [] :: frames, .key true⟩
  else if c = 'n' then some ⟨frames, .word ['u', 'l', 'l'] .null⟩
  else if c = 't' then some ⟨frames, .word ['r', 'u', 'e'] (.bool true)⟩
  else if c = 'f' then some ⟨frames, .word ['a', 'l', 's', 'e'] (.bool false)⟩
  else (NumberPart.first c).map fun part => ⟨frames, .number [c] part⟩

/-- A character behind a value. -/
def goOn (frames : List Frame) (j : Json) (c : Char) : Option Reader :=
  if isBlank c then some ⟨frames, .done j⟩
  else
    match frames with
    | .items done :: frames =>
      if c = ',' then some ⟨.items (done ++ [j]) :: frames, .value false⟩
      else if c = ']' then some ⟨frames, .done (.array (done ++ [j]))⟩
      else none
    | .member done key :: frames =>
      if c = ',' then some ⟨.members (done ++ [(key, j)]) :: frames, .key false⟩
      else if c = '}' then some ⟨frames, .done (.object (done ++ [(key, j)]))⟩
      else none
    | _ => none

/-- A character inside a string. -/
def inString (frames : List Frame) (isKey : Bool) (chars : List Char) (c : Char) :
    Escape → Option Reader
  | .none =>
    if c = '"' then
      some ⟨frames, if isKey then .colon (String.ofList chars)
        else .done (.string (String.ofList chars))⟩
    else if c = '\\' then some ⟨frames, .string isKey chars .backslash⟩
    else if c.toNat < 0x20 then none
    else some ⟨frames, .string isKey (chars ++ [c]) .none⟩
  | .backslash =>
    if c = 'u' then some ⟨frames, .string isKey chars (.code none 0 0)⟩
    else (unescape? c).map fun d => ⟨frames, .string isKey (chars ++ [d]) .none⟩
  | .code high digits value => do
    let d ← hexDigit? c
    if digits < 3 then
      return ⟨frames, .string isKey chars (.code high (digits + 1) (16 * value + d))⟩
    match ← decode high (16 * value + d) with
    | .inl c => return ⟨frames, .string isKey (chars ++ [c]) .none⟩
    | .inr h => return ⟨frames, .string isKey chars (.surrogate h)⟩
  | .surrogate h =>
    if c = '\\' then some ⟨frames, .string isKey chars (.surrogateBackslash h)⟩ else none
  | .surrogateBackslash h =>
    if c = 'u' then some ⟨frames, .string isKey chars (.code (some h) 0 0)⟩ else none

/-- What one character does. -/
def step (r : Reader) (c : Char) : Option Reader :=
  match r with
  | ⟨frames, .value first⟩ =>
    if isBlank c then some r
    else if first && c == ']' then
      match frames with
      | .items [] :: frames => some ⟨frames, .done (.array [])⟩
      | _ => none
    else begin frames c
  | ⟨frames, .key first⟩ =>
    if isBlank c then some r
    else if first && c == '}' then
      match frames with
      | .members [] :: frames => some ⟨frames, .done (.object [])⟩
      | _ => none
    else if c = '"' then some ⟨frames, .string true [] .none⟩
    else none
  | ⟨frames, .colon key⟩ =>
    if isBlank c then some r
    else if c = ':' then
      match frames with
      | .members done :: frames => some ⟨.member done key :: frames, .value false⟩
      | _ => none
    else none
  | ⟨frames, .string isKey chars escape⟩ => inString frames isKey chars c escape
  | ⟨frames, .word rest j⟩ =>
    if rest = [c] then some ⟨frames, .done j⟩
    else if rest.head? = some c then some ⟨frames, .word rest.tail j⟩
    else none
  | ⟨frames, .number literal part⟩ =>
    match part.next c with
    | some part => some ⟨frames, .number (literal ++ [c]) part⟩
    | none => if part.ends then goOn frames (.number (String.ofList literal)) c else none
  | ⟨frames, .done j⟩ => goOn frames j c

/-- What characters do, one after the other. -/
def run (r : Reader) (cs : List Char) : Option Reader := cs.foldlM step r

/-- The value that was read, if the text may end. -/
def finish? (r : Reader) : Option Json :=
  match r with
  | ⟨[], .done j⟩ => some j
  | ⟨[], .number literal part⟩ =>
    if part.ends then some (.number (String.ofList literal)) else none
  | _ => none

end Reader

/-- Reads a text. -/
def read (text : String) : Option Json :=
  (Reader.run ⟨[], .value false⟩ text.toList).bind Reader.finish?

end Logline.Json
