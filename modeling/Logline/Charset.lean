import Logline.Error
import Logline.Text.Blank

/-! # Charsets

The encodings in which records are written. A character that a charset lacks is written as a
question mark; there is no byte order mark and no state between texts.

* `Charset.encode` — the bytes of a text
* `Charset.parse` — a charset from its name, read as a keyword
* `Charset.resolve` — the charset of a setting, UTF-8 where there is none or it is unknown
-/

namespace Logline

/-- An encoding of text in bytes. -/
inductive Charset where
  | utf8
  | utf16be
  | utf16le
  | ascii
  | latin1
  deriving DecidableEq, Repr

namespace Charset

/-- The name of a charset. -/
def name : Charset → String
  | .utf8 => "UTF-8"
  | .utf16be => "UTF-16BE"
  | .utf16le => "UTF-16LE"
  | .ascii => "US-ASCII"
  | .latin1 => "ISO-8859-1"

/-- The short name of a charset. -/
def label : Charset → String
  | .utf8 => "Utf8"
  | .utf16be => "Utf16Be"
  | .utf16le => "Utf16Le"
  | .ascii => "Ascii"
  | .latin1 => "Latin1"

/-- A charset from its name, read as a keyword. -/
def parse (s : String) : Except Error Charset :=
  match Text.keyword s with
  | "UTF8" => .ok .utf8
  | "UTF16" => .ok .utf16be
  | "UTF16BE" => .ok .utf16be
  | "UTF16LE" => .ok .utf16le
  | "ASCII" => .ok .ascii
  | "USASCII" => .ok .ascii
  | "LATIN1" => .ok .latin1
  | "ISO88591" => .ok .latin1
  | _ => .error (Error.ofMessage ("unsupported charset: " ++ Text.quote s))

/-- The charset of a setting, with the report that is due where the setting is unknown. -/
def resolve : Option String → Charset × Option Error
  | none => (.utf8, none)
  | some s =>
    match parse s with
    | .ok c => (c, none)
    | .error e => (.utf8, some ((Error.badSetting "charset" s (name .utf8)).withCause e.toCause))

/-! ## Encoding -/

/-- The UTF-16 code units of a character: one, or a surrogate pair above U+FFFF. -/
def units16 (c : Char) : List UInt16 :=
  if c.toNat < 0x10000 then [UInt16.ofNat c.toNat]
  else
    let n := c.toNat - 0x10000
    [UInt16.ofNat (0xD800 + n / 0x400), UInt16.ofNat (0xDC00 + n % 0x400)]

/-- The two bytes of a code unit, the high one first. -/
def bigEndian (u : UInt16) : List UInt8 :=
  [UInt8.ofNat (u.toNat / 256), UInt8.ofNat (u.toNat % 256)]

/-- The two bytes of a code unit, the low one first. -/
def littleEndian (u : UInt16) : List UInt8 := (bigEndian u).reverse

/-- A character as one byte, a question mark where its code point is not below `limit`. -/
def singleByte (limit : Nat) (c : Char) : UInt8 :=
  if c.toNat < limit then UInt8.ofNat c.toNat else 0x3F

/-- The bytes of one character. -/
def encodeChar : Charset → Char → List UInt8
  | .utf8, c => String.utf8EncodeChar c
  | .utf16be, c => (units16 c).flatMap bigEndian
  | .utf16le, c => (units16 c).flatMap littleEndian
  | .ascii, c => [singleByte 0x80 c]
  | .latin1, c => [singleByte 0x100 c]

/-- Whether a text holds ASCII characters only. -/
def isAscii (s : String) : Bool := s.toList.all fun c => c.toNat < 0x80

/-- The bytes of a text. ASCII text has its UTF-8 bytes in the two single-byte charsets, which saves
looking at each character. -/
def encode (cs : Charset) (s : String) : List UInt8 :=
  match cs with
  | .ascii | .latin1 =>
    if isAscii s then s.toUTF8.data.toList else s.toList.flatMap cs.encodeChar
  | _ => s.toList.flatMap cs.encodeChar

end Charset

end Logline
