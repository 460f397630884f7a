import Logline.Proofs.Charset.Decoding
import Logline.Text.Lossy
import Mathlib.Tactic.IntervalCases

/-! # Records as they are read

What was written in UTF-8 is read as it was written, whatever stands behind it; and a text that was
put together from lines is read as these lines.

* `Text.decodeFrom_utf8EncodeChar` — one character, read from its bytes
* `Text.decode_append` — a text in front of any bytes
* `Text.decode_of_fromUTF8?` — bytes that are UTF-8 have no replacement characters but their own
* `Text.lines_join`, `Text.lines_intercalate` — the lines of a text that was put together from lines
* `Text.lines_decode_records` — the lines of records -/

namespace Logline.Text

open Charset

variable {owed code : Nat} {low high b : UInt8}

/-! ## Bytes of a character -/

/-- A byte of ASCII is a character of its own. -/
theorem decodeFrom_ascii (ascii : b < 0x80) (rest : List UInt8) :
    decodeFrom 0 0 0 0 (b :: rest) = Char.ofNat b.toNat :: decodeFrom 0 0 0 0 rest := by
  rw [decodeFrom, if_neg (by simp), if_pos rfl, if_pos ascii, List.nil_append]

/-- A first byte says how many are owed, and has the first digits of the code point. -/
theorem decodeFrom_first {n : Nat} (first : tailOf b = some (n, low, high)) (large : ¬ b < 0x80)
    (rest : List UInt8) :
    decodeFrom 0 0 0 0 (b :: rest)
      = decodeFrom n low high
        (b.toNat % if n = 1 then 0x20 else if n = 2 then 0x10 else 0x08) rest := by
  rw [decodeFrom, if_neg (by simp), if_pos rfl, if_neg large, first, List.nil_append]

/-- A byte in the middle has the next six binary digits. -/
theorem decodeFrom_middle (inside : low ≤ b ∧ b ≤ high) (rest : List UInt8) :
    decodeFrom (owed + 2) low high code (b :: rest)
      = decodeFrom (owed + 1) 0x80 0xBF (64 * code + (b.toNat - 0x80)) rest := by
  rw [decodeFrom, if_pos ⟨by omega, inside⟩, if_neg (by omega)]
  rfl

/-- The last byte has the last six binary digits. -/
theorem decodeFrom_last {v : Nat} (inside : low ≤ b ∧ b ≤ high) (rest : List UInt8)
    (value : 64 * code + (b.toNat - 0x80) = v) :
    decodeFrom 1 low high code (b :: rest) = Char.ofNat v :: decodeFrom 0 0 0 0 rest := by
  rw [decodeFrom, if_pos ⟨by omega, inside⟩, if_pos rfl, value]

/-- What a first byte of two says. -/
theorem tailOf_two {n : Nat} (inside : 0xC2 ≤ n ∧ n ≤ 0xDF) :
    tailOf (UInt8.ofNat n) = some (1, 0x80, 0xBF) := by
  obtain ⟨above, below⟩ := inside
  interval_cases n <;> rfl

/-- What a first byte of three says: the second byte must not leave the code point below those of
two bytes or among the surrogates. -/
theorem tailOf_three {n : Nat} (inside : 0xE0 ≤ n ∧ n ≤ 0xEF) :
    tailOf (UInt8.ofNat n)
      = some (2, if n = 0xE0 then 0xA0 else 0x80, if n = 0xED then 0x9F else 0xBF) := by
  obtain ⟨above, below⟩ := inside
  interval_cases n <;> rfl

/-- What a first byte of four says: the second byte must not leave the code point below those of
three bytes or above them all. -/
theorem tailOf_four {n : Nat} (inside : 0xF0 ≤ n ∧ n ≤ 0xF4) :
    tailOf (UInt8.ofNat n)
      = some (3, if n = 0xF0 then 0x90 else 0x80, if n = 0xF4 then 0x8F else 0xBF) := by
  obtain ⟨above, below⟩ := inside
  interval_cases n <;> rfl

/-- A number between two bytes. -/
theorem ofNat_between {n : Nat} (inside : low.toNat ≤ n ∧ n ≤ high.toNat) :
    low ≤ UInt8.ofNat n ∧ UInt8.ofNat n ≤ high := by
  have bound := high.toNat_lt
  rw [UInt8.le_iff_toNat_le, UInt8.le_iff_toNat_le, UInt8.toNat_ofNat']
  omega

/-- The bytes behind the first one are between the same two. -/
theorem tail_between (n : Nat) :
    (0x80 : UInt8) ≤ UInt8.ofNat (n % 64 + 128) ∧ UInt8.ofNat (n % 64 + 128) ≤ 0xBF := by
  refine ofNat_between ?_
  simp only [UInt8.reduceToNat]
  omega

/-- A first byte of several is no ASCII. -/
theorem not_ofNat_lt {n : Nat} (inside : 0x80 ≤ n ∧ n < 0x100) : ¬ UInt8.ofNat n < 0x80 := by
  rw [UInt8.lt_iff_toNat_lt, UInt8.toNat_ofNat']
  simp only [UInt8.reduceToNat]
  omega

/-! ## Characters by their length -/

section Lengths
variable {v : Nat} (rest : List UInt8)

/-- A code point of one byte. -/
theorem decodeFrom_one_byte (bound : v < 0x80) :
    decodeFrom 0 0 0 0 (UInt8.ofNat v :: rest) = Char.ofNat v :: decodeFrom 0 0 0 0 rest := by
  have ascii : UInt8.ofNat v < 0x80 := by
    rw [UInt8.lt_iff_toNat_lt, UInt8.toNat_ofNat']
    simp only [UInt8.reduceToNat]
    omega
  have code : v % 2 ^ 8 = v := by omega
  rw [decodeFrom_ascii ascii, UInt8.toNat_ofNat', code]

/-- A code point of two bytes. -/
theorem decodeFrom_two_bytes (bounds : 0x80 ≤ v ∧ v < 0x800) :
    decodeFrom 0 0 0 0 (UInt8.ofNat (v / 64 % 32 + 192) :: UInt8.ofNat (v % 64 + 128) :: rest)
      = Char.ofNat v :: decodeFrom 0 0 0 0 rest := by
  rw [decodeFrom_first (tailOf_two (by omega)) (not_ofNat_lt (by omega)),
    decodeFrom_last (v := v) (tail_between v)]
  simp only [UInt8.toNat_ofNat', if_true]
  omega

/-- A code point of three bytes: the second one must be among those that the first one lets
through, since there are no surrogates. -/
theorem decodeFrom_three_bytes (bounds : 0x800 ≤ v ∧ v < 0x10000)
    (no_surrogate : v < 0xD800 ∨ 0xE000 ≤ v) :
    decodeFrom 0 0 0 0 (UInt8.ofNat (v / 4096 % 16 + 224) :: UInt8.ofNat (v / 64 % 64 + 128)
        :: UInt8.ofNat (v % 64 + 128) :: rest)
      = Char.ofNat v :: decodeFrom 0 0 0 0 rest := by
  have second : (if v / 4096 % 16 + 224 = 0xE0 then 0xA0 else 0x80)
        ≤ UInt8.ofNat (v / 64 % 64 + 128) ∧
      UInt8.ofNat (v / 64 % 64 + 128) ≤ if v / 4096 % 16 + 224 = 0xED then 0x9F else 0xBF :=
    ofNat_between (by split_ifs <;> simp only [UInt8.reduceToNat] <;> omega)
  rw [decodeFrom_first (tailOf_three (by omega)) (not_ofNat_lt (by omega)),
    decodeFrom_middle second, decodeFrom_last (v := v) (tail_between v)]
  simp only [UInt8.toNat_ofNat', if_true, OfNat.ofNat_ne_one, if_false]
  omega

/-- A code point of four bytes: the second one must be among those that the first one lets through,
since there are none above the last code point. -/
theorem decodeFrom_four_bytes (bounds : 0x10000 ≤ v ∧ v < 0x110000) :
    decodeFrom 0 0 0 0 (UInt8.ofNat (v / 262144 % 8 + 240) :: UInt8.ofNat (v / 4096 % 64 + 128)
        :: UInt8.ofNat (v / 64 % 64 + 128) :: UInt8.ofNat (v % 64 + 128) :: rest)
      = Char.ofNat v :: decodeFrom 0 0 0 0 rest := by
  have second : (if v / 262144 % 8 + 240 = 0xF0 then 0x90 else 0x80)
        ≤ UInt8.ofNat (v / 4096 % 64 + 128) ∧
      UInt8.ofNat (v / 4096 % 64 + 128) ≤ if v / 262144 % 8 + 240 = 0xF4 then 0x8F else 0xBF :=
    ofNat_between (by split_ifs <;> simp only [UInt8.reduceToNat] <;> omega)
  rw [decodeFrom_first (tailOf_four (by omega)) (not_ofNat_lt (by omega)),
    decodeFrom_middle second, decodeFrom_middle (tail_between (v / 64)),
    decodeFrom_last (v := v) (tail_between v)]
  simp only [UInt8.toNat_ofNat', Nat.reduceEqDiff, if_false]
  omega

end Lengths

/-- **One character.** The bytes of a character are read as the character, whatever stands behind
them. -/
theorem decodeFrom_utf8EncodeChar (c : Char) (rest : List UInt8) :
    decodeFrom 0 0 0 0 (String.utf8EncodeChar c ++ rest) = c :: decodeFrom 0 0 0 0 rest := by
  have bounds := toNat_bounds c
  have code : c.val.toNat = c.toNat := rfl
  have same : Char.ofNat c.toNat = c := Char.ofNat_toNat c
  simp only [String.utf8EncodeChar, code]
  -- one case for each length; the code point is a plain number then
  generalize c.toNat = v at bounds same
  subst same
  split_ifs with one two three
  · exact decodeFrom_one_byte rest (by omega)
  · exact decodeFrom_two_bytes rest (by omega)
  · exact decodeFrom_three_bytes rest (by omega) (by omega)
  · exact decodeFrom_four_bytes rest (by omega)

/-! ## Texts -/

/-- **Texts in front of bytes.** What was written in UTF-8 is read as it was written, whatever
stands behind it. -/
theorem decode_append (s : String) (bytes : List UInt8) :
    decode (Charset.utf8.encode s ++ bytes) = s ++ decode bytes := by
  rw [encode_eq_flatMap, ← String.toList_inj, String.toList_append, decode, decode,
    String.toList_ofList, String.toList_ofList]
  induction s.toList with
  | nil => rfl
  | cons c cs ih =>
    rw [List.flatMap_cons, List.append_assoc, encodeChar, decodeFrom_utf8EncodeChar, ih,
      List.cons_append]

/-- A text that was written in UTF-8 is read as it was written. -/
theorem decode_encode (s : String) : decode (Charset.utf8.encode s) = s := by
  have front := decode_append s []
  rwa [List.append_nil, show decode [] = "" from rfl, String.append_empty] at front

/-- Where bytes are UTF-8, nothing is replaced. -/
theorem decode_of_fromUTF8? {bytes : List UInt8} {s : String}
    (valid : String.fromUTF8? bytes.toByteArray = some s) : decode bytes = s := by
  rw [← decode?_utf8] at valid
  rw [(decode?_eq_some_iff.1 valid).2, decode_encode]

/-- Texts that were written one after the other are read so. -/
theorem decode_flatMap_encode (texts : List String) :
    decode (texts.flatMap Charset.utf8.encode) = String.join texts := by
  rw [flatMap_encode, decode_encode]

/-! ## Lines -/

/-- A text that is a line: it has no line feed, and no carriage return at its end. -/
def IsLine (s : String) : Prop := '\n' ∉ s.toList ∧ s.toList.getLast? ≠ some '\r'

/-- The line so far goes on up to the line feed. -/
theorem linesFrom_append (line : List Char) {cs : List Char} (no_feed : '\n' ∉ cs)
    (rest : List Char) : linesFrom line (cs ++ rest) = linesFrom (cs.reverse ++ line) rest := by
  induction cs generalizing line with
  | nil => rfl
  | cons c cs ih =>
    rw [List.mem_cons, not_or] at no_feed
    obtain ⟨other, no_feed⟩ := no_feed
    rw [List.cons_append, linesFrom, ih _ no_feed, List.reverse_cons, List.append_assoc,
      List.singleton_append]
    exact fun eq => other eq.symm

/-- A line and its line feed. -/
theorem linesFrom_line {s : String} (line : IsLine s) (rest : List Char) :
    linesFrom [] (s.toList ++ '\n' :: rest) = s :: linesFrom [] rest := by
  rw [linesFrom_append [] line.1, List.append_nil, linesFrom, List.reverse_reverse,
    String.ofList_toList]
  -- no carriage return is left out
  intro before ends
  refine line.2 ?_
  rw [← List.head?_reverse, ends, List.head?_cons]

/-- **Lines of a text.** A text that was put together from lines has these lines. -/
theorem lines_join {ls : List String} (each : ∀ s ∈ ls, IsLine s) :
    lines (String.join (ls.map (· ++ "\n"))) = ls := by
  rw [lines, String.toList_join, List.flatMap_map]
  induction ls with
  | nil => rfl
  | cons s ls ih =>
    rw [List.flatMap_cons, String.toList_append, show "\n".toList = ['\n'] from rfl,
      List.append_assoc, List.singleton_append, linesFrom_line (each s List.mem_cons_self),
      ih fun s mem => each s (List.mem_cons_of_mem _ mem)]

/-- A text of lines with line feeds between them has these lines, unless the last one is empty. -/
theorem lines_intercalate {ls : List String} (each : ∀ s ∈ ls, IsLine s)
    (last : ls.getLast? ≠ some "") : lines ("\n".intercalate ls) = ls := by
  rw [lines]
  induction ls with
  | nil => rfl
  | cons s ls ih =>
    have line := each s List.mem_cons_self
    cases ls with
    | nil =>
      -- the last line has no end of its own, so that it is one only if it is not empty
      have nonempty : s.toList ≠ [] := fun empty => last (by simpa using empty)
      have whole := linesFrom_append [] line.1 []
      rw [List.append_nil, List.append_nil] at whole
      rw [String.intercalate_singleton, whole, linesFrom, if_neg (by simpa using nonempty),
        List.reverse_reverse, String.ofList_toList]
    | cons t ls =>
      rw [String.intercalate_cons_cons, String.toList_append, String.toList_append,
        show "\n".toList = ['\n'] from rfl, List.append_assoc, List.singleton_append,
        linesFrom_line line, ih (fun s mem => each s (List.mem_cons_of_mem _ mem))
          (by simpa using last)]

/-- **Lines of records.** Where each record is a line, what was written is read as the records. -/
theorem lines_decode_records {ls : List String} (each : ∀ s ∈ ls, IsLine s) :
    lines (decode ((ls.map (· ++ "\n")).flatMap Charset.utf8.encode)) = ls := by
  rw [decode_flatMap_encode, lines_join each]

end Logline.Text
