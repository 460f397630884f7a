import Logline.Text.Digits
import Logline.Text.Unprintable

/-! # Quoted text

A text or a character in quotation marks, with everything that could be mistaken or overlooked
written as an escape: the quotation mark itself, the backslash, the control characters with a letter
of their own, and in base sixteen all that has no visible form or joins its neighbour.

* `escape` — one character inside quotation marks
* `quote`, `quoteChar` — a text in double and a character in single quotation marks
* `quoteJoined` — a text whose marks stay joined to the characters that they belong to
-/

namespace Logline.Text

/-- A character as it stands between quotation marks. The characters of `marks` get a backslash, and
`split` says whether a character that joins its neighbour is taken apart from it. -/
def escape (marks : List Char) (split : Bool) (c : Char) : String :=
  if c = '\x00' then "\\0"
  else if c = '\t' then "\\t"
  else if c = '\r' then "\\r"
  else if c = '\n' then "\\n"
  else if c = '\\' then "\\\\"
  else if c ∈ marks then "\\" ++ c.toString
  else if split && isExtending c || !isPrintable c then "\\u\x7b" ++ hex c.toNat ++ "\x7d"
  else c.toString

/-- A text in double quotation marks. -/
def quote (s : String) : String :=
  "\"" ++ String.join (s.toList.map (escape ['"'] true)) ++ "\""

/-- A character in single quotation marks. -/
def quoteChar (c : Char) : String := "'" ++ escape ['\''] true c ++ "'"

/-- The characters of `quoteJoined`: only the first one has no neighbour in the text to join. -/
def escapeJoined : List Char → String
  | [] => ""
  | c :: cs =>
    escape ['"', '\''] true c ++ String.join (cs.map (escape ['"', '\''] false))

/-- A text in double quotation marks, with both kinds of quotation mark escaped, and characters left
joined to their neighbours. -/
def quoteJoined (s : String) : String := "\"" ++ escapeJoined s.toList ++ "\""

end Logline.Text
