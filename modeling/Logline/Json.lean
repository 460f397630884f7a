import Logline.Text.Digits

/-! # JSON values

* `Json` — a value; the members of an object keep their order
* `Json.escape` — a character inside a string
* `Json.text` — a value on one line without blanks
-/

namespace Logline

/-- A JSON value. -/
inductive Json where
  | null
  | bool (b : Bool)
  /-- A number as it is spelled. -/
  | number (literal : String)
  | string (s : String)
  | array (items : List Json)
  | object (members : List (String × Json))
  deriving Repr

namespace Json

/-- A text, or null where there is none. -/
def ofOption : Option String → Json
  | some s => .string s
  | none => .null

/-- A character inside a string: quotation marks and backslashes behind a backslash, control
characters by letter or by code, and every other character as itself. -/
def escape (c : Char) : List Char :=
  if c = '"' then ['\\', '"']
  else if c = '\\' then ['\\', '\\']
  else if c = '\x08' then ['\\', 'b']
  else if c = '\x0c' then ['\\', 'f']
  else if c = '\n' then ['\\', 'n']
  else if c = '\r' then ['\\', 'r']
  else if c = '\t' then ['\\', 't']
  else if c.toNat < 0x20 then
    ['\\', 'u', '0', '0', Nat.digitChar (c.toNat / 16), Nat.digitChar (c.toNat % 16)]
  else [c]

/-- A string in quotation marks. -/
def quote (s : String) : String := "\"" ++ String.ofList (s.toList.flatMap escape) ++ "\""

mutual

/-- A value on one line. -/
def text : Json → String
  | .null => "null"
  | .bool b => if b then "true" else "false"
  | .number literal => literal
  | .string s => quote s
  | .array items => "[" ++ textOfItems items ++ "]"
  | .object members => "\x7b" ++ textOfMembers members ++ "\x7d"

/-- Items with commas between them. -/
def textOfItems : List Json → String
  | [] => ""
  | [j] => j.text
  | j :: rest => j.text ++ "," ++ textOfItems rest

/-- Members with commas between them. -/
def textOfMembers : List (String × Json) → String
  | [] => ""
  | [(key, j)] => quote key ++ ":" ++ j.text
  | (key, j) :: rest => quote key ++ ":" ++ j.text ++ "," ++ textOfMembers rest

end

/-- A member of an object. -/
def member (key : String) (j : Json) : String := quote key ++ ":" ++ j.text

end Json

end Logline
