/-! # Bytes as text

Bytes are read as UTF-8. Where they are no UTF-8, the longest beginning of a character is shown as
one replacement character, or a single byte where no character begins.

* `decode` — bytes as text
* `lines` — the lines of a text
-/

namespace Logline.Text

/-- The replacement character. -/
def replacement : Char := '\uFFFD'

/-- Whether a byte continues a character. -/
def isTail (b : UInt8) : Bool := 0x80 ≤ b && b ≤ 0xBF

/-- How many bytes continue a character that begins with a byte, and the bounds of the first of
them. -/
def tailOf (b : UInt8) : Option (Nat × UInt8 × UInt8) :=
  if 0xC2 ≤ b ∧ b ≤ 0xDF then some (1, 0x80, 0xBF)
  else if b = 0xE0 then some (2, 0xA0, 0xBF)
  else if b = 0xED then some (2, 0x80, 0x9F)
  else if 0xE1 ≤ b ∧ b ≤ 0xEF then some (2, 0x80, 0xBF)
  else if b = 0xF0 then some (3, 0x90, 0xBF)
  else if 0xF1 ≤ b ∧ b ≤ 0xF3 then some (3, 0x80, 0xBF)
  else if b = 0xF4 then some (3, 0x80, 0x8F)
  else none

/-- Text from bytes, in the middle of a character: `owed` bytes still belong to it, the first of
them between `low` and `high`, and `code` is made from those before. -/
def decodeFrom (owed : Nat) (low high : UInt8) (code : Nat) : List UInt8 → List Char
  | [] => if owed = 0 then [] else [replacement]
  | b :: rest =>
    if owed ≠ 0 ∧ low ≤ b ∧ b ≤ high then
      let code := 64 * code + (b.toNat - 0x80)
      if owed = 1 then Char.ofNat code :: decodeFrom 0 0 0 0 rest
      else decodeFrom (owed - 1) 0x80 0xBF code rest
    else
      (if owed = 0 then [] else [replacement]) ++
        if b < 0x80 then Char.ofNat b.toNat :: decodeFrom 0 0 0 0 rest
        else match tailOf b with
          | some (n, low, high) =>
            let kept := if n = 1 then 0x20 else if n = 2 then 0x10 else 0x08
            decodeFrom n low high (b.toNat % kept) rest
          | none => replacement :: decodeFrom 0 0 0 0 rest

/-- Bytes as text. -/
def decode (bytes : List UInt8) : String := String.ofList (decodeFrom 0 0 0 0 bytes)

/-- The lines of a text, without their ends; `line` is the line so far, reversed. -/
def linesFrom (line : List Char) : List Char → List String
  | [] => if line.isEmpty then [] else [String.ofList line.reverse]
  | '\n' :: rest =>
    let ended := match line with
      | '\r' :: before => before
      | all => all
    String.ofList ended.reverse :: linesFrom [] rest
  | c :: rest => linesFrom (c :: line) rest

/-- The lines of a text. A line ends with a line feed, which a carriage return may precede, or with
the text; there is no line after a line feed that ends the text. -/
def lines (s : String) : List String := linesFrom [] s.toList

end Logline.Text
