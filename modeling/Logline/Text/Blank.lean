/-! # Blank characters and keywords

A character is **blank** when it has the Unicode property White_Space. Names of settings are read
as **keywords**: blanks around them, hyphens, underscores and ASCII case do not matter.

* `isBlank` — the property as a test on characters
* `trim` — a text without the blanks at its two ends
* `keyword` — the canonical spelling of a setting's name
-/

namespace Logline.Text

/-- The characters with the Unicode property White_Space. -/
def isBlank (c : Char) : Bool :=
  let n := c.toNat
  (0x09 ≤ n && n ≤ 0x0D) || n == 0x20 || n == 0x85 || n == 0xA0 || n == 0x1680
    || (0x2000 ≤ n && n ≤ 0x200A) || n == 0x2028 || n == 0x2029 || n == 0x202F
    || n == 0x205F || n == 0x3000

/-- A text without the blanks at its two ends. -/
def trim (s : List Char) : List Char :=
  ((s.dropWhile isBlank).reverse.dropWhile isBlank).reverse

/-- The canonical spelling of a keyword: trimmed, without hyphens and underscores, and with ASCII
letters in upper case. -/
def keyword (s : String) : String :=
  String.ofList (((trim s.toList).filter fun c => c != '-' && c != '_').map Char.toUpper)

end Logline.Text
