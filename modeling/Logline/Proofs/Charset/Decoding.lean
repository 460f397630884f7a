import Logline.Charset
import Mathlib.Data.List.Basic

/-! # Reading bytes in a charset

Bytes are read one character after the other, each by the rules of the charset. A reader gets back
what was written, with a question mark for every character that the charset lacks; and bytes that it
can read were written from what it gets.

* `Charset.has` — the characters of a charset
* `Charset.next?` — the character in front, and the bytes behind it
* `Charset.decode?` — a whole text
* `Charset.decode?_eq_some_iff` — which bytes are read, and as what
* `Charset.decode?_flatMap_encode` — texts written one behind the other -/

namespace Logline.Charset

variable {bytes rest : List UInt8} {c : Char}

/-- A code point is kept by the character that is made of it. -/
theorem toNat_ofNat {n : Nat} (valid : n.isValidChar) : (Char.ofNat n).toNat = n := by
  rw [Char.ofNat, dif_pos valid]
  rfl

/-- Code points leave out the surrogates. -/
theorem toNat_bounds (c : Char) : c.toNat < 0xD800 ∨ 0xE000 ≤ c.toNat ∧ c.toNat < 0x110000 := by
  have valid : c.toNat.isValidChar := c.valid
  rcases valid with low | ⟨high, top⟩
  · exact Or.inl low
  · exact Or.inr ⟨high, top⟩

/-! ## Single bytes -/

/-- A character of one byte, with its code point below `limit`. -/
def nextByte? (limit : Nat) : List UInt8 → Option (Char × List UInt8)
  | b :: rest => if b.toNat < limit then some (Char.ofNat b.toNat, rest) else none
  | [] => none

/-- A character of one byte is read exactly from the byte that it is written as. -/
theorem nextByte?_eq_some_iff {limit : Nat} (small : limit ≤ 0x100) :
    nextByte? limit bytes = some (c, rest) ↔
      c.toNat < limit ∧ bytes = [singleByte limit c] ++ rest := by
  constructor
  · intro read
    cases bytes with
    | nil => cases read
    | cons b bytes =>
      rw [nextByte?] at read
      split at read
      · next bound =>
        cases read
        -- a byte is no surrogate, so that it is the code of a character
        have code : (Char.ofNat b.toNat).toNat = b.toNat := toNat_ofNat (Or.inl (by omega))
        rw [singleByte, code, if_pos bound, UInt8.ofNat_toNat]
        exact ⟨bound, rfl⟩
      · cases read
  · rintro ⟨bound, rfl⟩
    have code : (singleByte limit c).toNat = c.toNat := by
      rw [singleByte, if_pos bound, UInt8.toNat_ofNat']
      omega
    rw [List.singleton_append, nextByte?, code, if_pos bound, Char.ofNat_toNat]

/-! ## UTF-16 -/

/-- A code unit whose bytes are put together by `join`. -/
def unit? (join : UInt8 → UInt8 → Nat) : List UInt8 → Option (UInt16 × List UInt8)
  | a :: b :: rest => some (UInt16.ofNat (join a b), rest)
  | _ => none

/-- Two bytes, the high one first. -/
def joinBig (a b : UInt8) : Nat := 256 * a.toNat + b.toNat

/-- Two bytes, the low one first. -/
def joinLittle (a b : UInt8) : Nat := joinBig b a

/-- Two bytes that are joined are split into themselves. -/
theorem bigEndian_ofNat_joinBig (a b : UInt8) :
    bigEndian (UInt16.ofNat (joinBig a b)) = [a, b] := by
  have high := a.toNat_lt
  have low := b.toNat_lt
  have unit : (UInt16.ofNat (joinBig a b)).toNat = 256 * a.toNat + b.toNat := by
    rw [joinBig, UInt16.toNat_ofNat']
    omega
  have quotient : (256 * a.toNat + b.toNat) / 256 = a.toNat := by omega
  have remainder : (256 * a.toNat + b.toNat) % 256 = b.toNat := by omega
  rw [bigEndian, unit, quotient, remainder, UInt8.ofNat_toNat, UInt8.ofNat_toNat]

/-- Every code unit is joined from two bytes. -/
theorem exists_joinBig (u : UInt16) : ∃ a b, u = UInt16.ofNat (joinBig a b) := by
  have bound := u.toNat_lt
  have join : joinBig (UInt8.ofNat (u.toNat / 256)) (UInt8.ofNat (u.toNat % 256)) = u.toNat := by
    rw [joinBig, UInt8.toNat_ofNat', UInt8.toNat_ofNat']
    omega
  exact ⟨_, _, by rw [join, UInt16.ofNat_toNat]⟩

/-- A code unit is read from the bytes that it is split into. -/
theorem unit?_eq_some_iff {join : UInt8 → UInt8 → Nat} {split : UInt16 → List UInt8} {u : UInt16}
    (split_join : ∀ a b, split (UInt16.ofNat (join a b)) = [a, b])
    (exists_join : ∀ u, ∃ a b, u = UInt16.ofNat (join a b)) :
    unit? join bytes = some (u, rest) ↔ bytes = split u ++ rest := by
  constructor
  · intro read
    match bytes, read with
    | a :: b :: bytes, read =>
      cases read
      rw [split_join]
      rfl
  · rintro rfl
    obtain ⟨a, b, rfl⟩ := exists_join u
    rw [split_join]
    rfl

/-- A code unit is read from its two bytes, the high one first. -/
theorem unit?_joinBig_eq_some_iff {u : UInt16} :
    unit? joinBig bytes = some (u, rest) ↔ bytes = bigEndian u ++ rest :=
  unit?_eq_some_iff bigEndian_ofNat_joinBig exists_joinBig

/-- A code unit is read from its two bytes, the low one first. -/
theorem unit?_joinLittle_eq_some_iff {u : UInt16} :
    unit? joinLittle bytes = some (u, rest) ↔ bytes = littleEndian u ++ rest := by
  refine unit?_eq_some_iff (fun a b => ?_) (fun u => ?_)
  · rw [joinLittle, littleEndian, bigEndian_ofNat_joinBig]
    rfl
  · obtain ⟨b, a, eq⟩ := exists_joinBig u
    exact ⟨a, b, eq⟩

/-- The code point of a high and a low surrogate. -/
def ofSurrogates (high low : Nat) : Nat := 0x10000 + (high - 0xD800) * 0x400 + (low - 0xDC00)

/-- Two surrogates stand for a code point that one code unit has no room for. -/
theorem ofSurrogates_bounds {high low : Nat} (isHigh : 0xD800 ≤ high ∧ high < 0xDC00)
    (isLow : 0xDC00 ≤ low ∧ low < 0xE000) :
    0x10000 ≤ ofSurrogates high low ∧ ofSurrogates high low < 0x110000 := by
  unfold ofSurrogates
  omega

/-- The high surrogate has the upper ten bits. -/
theorem high_ofSurrogates {high low : Nat} (isHigh : 0xD800 ≤ high)
    (isLow : 0xDC00 ≤ low ∧ low < 0xE000) :
    0xD800 + (ofSurrogates high low - 0x10000) / 0x400 = high := by
  unfold ofSurrogates
  omega

/-- The low surrogate has the lower ten bits. -/
theorem low_ofSurrogates (high : Nat) {low : Nat} (isLow : 0xDC00 ≤ low ∧ low < 0xE000) :
    0xDC00 + (ofSurrogates high low - 0x10000) % 0x400 = low := by
  unfold ofSurrogates
  omega

/-- The surrogates of a code point stand for it. -/
theorem ofSurrogates_units {n : Nat} (above : 0x10000 ≤ n) :
    ofSurrogates (0xD800 + (n - 0x10000) / 0x400) (0xDC00 + (n - 0x10000) % 0x400) = n := by
  unfold ofSurrogates
  omega

/-- A character of one code unit that is no surrogate, or of two surrogates, the high one first. -/
def nextUnits? (unit? : List UInt8 → Option (UInt16 × List UInt8)) (bytes : List UInt8) :
    Option (Char × List UInt8) :=
  (unit? bytes).bind fun (u, rest) =>
    if u.toNat < 0xD800 ∨ 0xE000 ≤ u.toNat then some (Char.ofNat u.toNat, rest)
    else if u.toNat < 0xDC00 then
      (unit? rest).bind fun (v, rest) =>
        if 0xDC00 ≤ v.toNat ∧ v.toNat < 0xE000 then
          some (Char.ofNat (ofSurrogates u.toNat v.toNat), rest)
        else none
    else none

/-- A code unit that is no surrogate is all of its character. -/
theorem units16_of_bmp {u : UInt16} (bmp : u.toNat < 0xD800 ∨ 0xE000 ≤ u.toNat) :
    units16 (Char.ofNat u.toNat) = [u] := by
  have bound := u.toNat_lt
  have code : (Char.ofNat u.toNat).toNat = u.toNat :=
    toNat_ofNat (bmp.imp_right fun high => ⟨by omega, by omega⟩)
  rw [units16, code, if_pos (by omega), UInt16.ofNat_toNat]

/-- A high and a low surrogate are all of their character. -/
theorem units16_of_surrogates {u v : UInt16} (high : 0xD800 ≤ u.toNat ∧ u.toNat < 0xDC00)
    (low : 0xDC00 ≤ v.toNat ∧ v.toNat < 0xE000) :
    units16 (Char.ofNat (ofSurrogates u.toNat v.toNat)) = [u, v] := by
  obtain ⟨above, bound⟩ := ofSurrogates_bounds high low
  have code : (Char.ofNat (ofSurrogates u.toNat v.toNat)).toNat = ofSurrogates u.toNat v.toNat :=
    toNat_ofNat (Or.inr ⟨Nat.lt_of_lt_of_le (by decide) above, bound⟩)
  rw [units16, code, if_neg (Nat.not_lt.2 above)]
  dsimp only
  rw [high_ofSurrogates high.1 low, low_ofSurrogates _ low, UInt16.ofNat_toNat,
    UInt16.ofNat_toNat]

/-- The units of a character, read from bytes that are read unit by unit. -/
theorem nextUnits?_eq_some_iff {unit? : List UInt8 → Option (UInt16 × List UInt8)}
    {split : UInt16 → List UInt8}
    (reads : ∀ {bytes rest u}, unit? bytes = some (u, rest) ↔ bytes = split u ++ rest) :
    nextUnits? unit? bytes = some (c, rest) ↔ bytes = (units16 c).flatMap split ++ rest := by
  constructor
  · intro read
    obtain ⟨⟨u, behind⟩, unit, read⟩ := Option.bind_eq_some_iff.1 read
    rw [reads.1 unit]
    dsimp only at read
    split_ifs at read with bmp high
    · cases read
      rw [units16_of_bmp bmp, List.flatMap_singleton]
    · obtain ⟨⟨v, behind⟩, unit, read⟩ := Option.bind_eq_some_iff.1 read
      rw [reads.1 unit]
      dsimp only at read
      split_ifs at read with low
      obtain ⟨rfl, rfl⟩ := Prod.mk.inj (Option.some.inj read)
      have above : 0xD800 ≤ u.toNat := Nat.not_lt.1 fun less => bmp (Or.inl less)
      rw [units16_of_surrogates ⟨above, high⟩ low]
      simp
  · rintro rfl
    -- a code point is no surrogate, so that its unit is not taken for the first one of two
    have bounds := toNat_bounds c
    rw [units16]
    split_ifs with bmp
    · have unit : (UInt16.ofNat c.toNat).toNat = c.toNat := by
        rw [UInt16.toNat_ofNat']
        omega
      rw [List.flatMap_singleton, nextUnits?, reads.2 rfl, Option.bind_some]
      dsimp only
      rw [unit, if_pos (by omega), Char.ofNat_toNat]
    · have first : (UInt16.ofNat (0xD800 + (c.toNat - 0x10000) / 0x400)).toNat
          = 0xD800 + (c.toNat - 0x10000) / 0x400 := by
        rw [UInt16.toNat_ofNat']
        omega
      have second : (UInt16.ofNat (0xDC00 + (c.toNat - 0x10000) % 0x400)).toNat
          = 0xDC00 + (c.toNat - 0x10000) % 0x400 := by
        rw [UInt16.toNat_ofNat']
        omega
      rw [List.flatMap_cons, List.flatMap_singleton, List.append_assoc, nextUnits?, reads.2 rfl,
        Option.bind_some]
      dsimp only
      rw [first, if_neg (by omega), if_pos (by omega), reads.2 rfl, Option.bind_some]
      dsimp only
      rw [second, if_pos (by omega), ofSurrogates_units (by omega), Char.ofNat_toNat]

example : nextUnits? (unit? joinLittle) [0x3D, 0xD8, 0x00, 0xDE, 0x41] = some ('😀', [0x41]) := by
  decide

/-! ## UTF-8 -/

/-- A character of one to four bytes. -/
def nextUtf8? (bytes : List UInt8) : Option (Char × List UInt8) :=
  (bytes.toByteArray.utf8DecodeChar? 0).map fun c => (c, bytes.drop c.utf8Size)

/-- A character of UTF-8 is read exactly from the bytes that it is written as. -/
theorem nextUtf8?_eq_some_iff :
    nextUtf8? bytes = some (c, rest) ↔ bytes = String.utf8EncodeChar c ++ rest := by
  constructor
  · intro read
    obtain ⟨c, front, eq⟩ := Option.map_eq_some_iff.1 read
    cases eq
    obtain ⟨behind, split⟩ := ByteArray.exists_of_utf8DecodeChar?_eq_some front
    -- the library works on arrays of bytes
    have lists : bytes = String.utf8EncodeChar c ++ behind.data.toList := by
      have data := congrArg (fun b : ByteArray => b.data.toList) split
      simpa using data
    have drop : bytes.drop c.utf8Size = behind.data.toList := by
      rw [lists, ← String.length_utf8EncodeChar, List.drop_left]
    rw [drop, lists]
  · rintro rfl
    rw [nextUtf8?, List.toByteArray_append, ByteArray.utf8DecodeChar?_utf8EncodeChar_append,
      Option.map_some, ← String.length_utf8EncodeChar, List.drop_left]

/-! ## Characters -/

/-- Whether a charset has a character. -/
def has : Charset → Char → Bool
  | .utf8, _ | .utf16be, _ | .utf16le, _ => true
  | .ascii, c => c.toNat < 0x80
  | .latin1, c => c.toNat < 0x100

/-- The character in front of bytes, and the bytes behind it. -/
def next? : Charset → List UInt8 → Option (Char × List UInt8)
  | .utf8 => nextUtf8?
  | .utf16be => nextUnits? (unit? joinBig)
  | .utf16le => nextUnits? (unit? joinLittle)
  | .ascii => nextByte? 0x80
  | .latin1 => nextByte? 0x100

/-- A character is read where it was written. -/
theorem next?_eq_some_iff {cs : Charset} :
    cs.next? bytes = some (c, rest) ↔ cs.has c = true ∧ bytes = cs.encodeChar c ++ rest := by
  cases cs with
  | utf8 => simpa [next?, has, encodeChar] using nextUtf8?_eq_some_iff
  | utf16be =>
    simpa [next?, has, encodeChar] using nextUnits?_eq_some_iff unit?_joinBig_eq_some_iff
  | utf16le =>
    simpa [next?, has, encodeChar] using nextUnits?_eq_some_iff unit?_joinLittle_eq_some_iff
  | ascii => simpa [next?, has, encodeChar] using nextByte?_eq_some_iff (by decide)
  | latin1 => simpa [next?, has, encodeChar] using nextByte?_eq_some_iff (by decide)

/-- A character as it is written: a question mark for one that the charset lacks. -/
def written (cs : Charset) (c : Char) : Char := if cs.has c then c else '?'

/-- The character that is written is one of the charset. -/
theorem has_written (cs : Charset) (c : Char) : cs.has (cs.written c) = true := by
  rw [written]
  split
  · assumption
  · cases cs <;> rfl

/-- A character of the charset is written as itself. -/
theorem written_eq_self {cs : Charset} (has : cs.has c = true) : cs.written c = c := if_pos has

/-- What is written is the same. -/
theorem encodeChar_written (cs : Charset) (c : Char) :
    cs.encodeChar (cs.written c) = cs.encodeChar c := by
  rw [written]
  split
  · rfl
  · next lacks =>
    cases cs with
    | utf8 | utf16be | utf16le => exact absurd rfl lacks
    | ascii | latin1 =>
      have above := lacks
      rw [has, decide_eq_true_eq] at above
      rw [encodeChar, encodeChar, singleByte, singleByte, if_neg above]
      rfl

/-- No character is left out. -/
theorem encodeChar_ne_nil (cs : Charset) (c : Char) : cs.encodeChar c ≠ [] := by
  have units : units16 c ≠ [] := by
    rw [units16]
    split <;> exact List.cons_ne_nil _ _
  obtain ⟨u, us, eq⟩ := List.exists_cons_of_ne_nil units
  cases cs with
  | utf8 => exact String.utf8EncodeChar_ne_nil
  | utf16be | utf16le =>
    rw [encodeChar, eq]
    exact List.cons_ne_nil _ _
  | ascii | latin1 => exact List.cons_ne_nil _ _

/-- Reading a character leaves fewer bytes. -/
theorem length_lt_of_next? {cs : Charset} (read : cs.next? bytes = some (c, rest)) :
    rest.length < bytes.length := by
  have nonempty : 0 < (cs.encodeChar c).length := List.length_pos_iff.2 (cs.encodeChar_ne_nil c)
  rw [(next?_eq_some_iff.1 read).2, List.length_append]
  omega

/-! ## Texts -/

/-- The characters of bytes, none if they cannot be read to the end. -/
def decodeChars? (cs : Charset) (bytes : List UInt8) : Option (List Char) :=
  if bytes = [] then some []
  else
    match _read : cs.next? bytes with
    | some (c, rest) => (cs.decodeChars? rest).map (c :: ·)
    | none => none
termination_by bytes.length
decreasing_by exact length_lt_of_next? _read

/-- Bytes are read character by character. -/
theorem decodeChars?_cons {cs : Charset} (read : cs.next? bytes = some (c, rest)) :
    cs.decodeChars? bytes = (cs.decodeChars? rest).map (c :: ·) := by
  have nonempty : bytes ≠ [] := by
    rintro rfl
    exact Nat.not_lt_zero _ (length_lt_of_next? read)
  rw [decodeChars?, if_neg nonempty]
  split
  · next read' =>
    cases read.symm.trans read'
    rfl
  · next read' => cases read.symm.trans read'

/-- Bytes are read as characters of the charset if they are what these are written as. -/
theorem decodeChars?_eq_some_iff {cs : Charset} {l : List Char} :
    cs.decodeChars? bytes = some l ↔
      (∀ c ∈ l, cs.has c = true) ∧ bytes = l.flatMap cs.encodeChar := by
  constructor
  · intro decoded
    -- character by character as they are read; the other direction follows the characters
    induction bytes using decodeChars?.induct cs generalizing l with
    | case1 =>
      rw [decodeChars?, if_pos rfl] at decoded
      cases decoded
      exact ⟨List.forall_mem_nil _, rfl⟩
    | case2 bytes nonempty c rest read ih =>
      rw [decodeChars?_cons read] at decoded
      obtain ⟨l, tail, rfl⟩ := Option.map_eq_some_iff.1 decoded
      obtain ⟨has_c, split⟩ := next?_eq_some_iff.1 read
      obtain ⟨has_l, rfl⟩ := ih tail
      exact ⟨List.forall_mem_cons.2 ⟨has_c, has_l⟩, split⟩
    | case3 bytes nonempty unread =>
      rw [decodeChars?, if_neg nonempty] at decoded
      split at decoded
      · next read => cases unread.symm.trans read
      · cases decoded
  · rintro ⟨has_l, rfl⟩
    induction l with
    | nil => rw [List.flatMap_nil, decodeChars?, if_pos rfl]
    | cons c l ih =>
      obtain ⟨has_c, has_l⟩ := List.forall_mem_cons.1 has_l
      have read : cs.next? ((c :: l).flatMap cs.encodeChar) = some (c, l.flatMap cs.encodeChar) :=
        next?_eq_some_iff.2 ⟨has_c, rfl⟩
      rw [decodeChars?_cons read, ih has_l, Option.map_some]

/-- The text of bytes, none if they cannot be read to the end. -/
def decode? (cs : Charset) (bytes : List UInt8) : Option String :=
  (cs.decodeChars? bytes).map String.ofList

/-- A text as it is written. -/
def legible (cs : Charset) (s : String) : String := s.map cs.written

/-- ASCII characters have the same byte in all charsets of bytes. -/
theorem utf8EncodeChar_eq_singleByte {limit : Nat} (large : 0x80 ≤ limit) (ascii : c.toNat < 0x80) :
    String.utf8EncodeChar c = [singleByte limit c] := by
  have size : c.utf8Size = 1 := Char.utf8Size_eq_one_iff.2 (Nat.le_of_lt_succ ascii)
  have byte : c.val.toUInt8 = UInt8.ofNat c.toNat := by rfl
  rw [String.utf8EncodeChar_eq_singleton size, singleByte, if_pos (by omega), byte]

/-- Looking at each character gives the same bytes, also for ASCII text. -/
theorem encode_eq_flatMap (cs : Charset) (s : String) :
    cs.encode s = s.toList.flatMap cs.encodeChar := by
  -- the UTF-8 bytes of ASCII text are its code points
  have shortcut : isAscii s = true → ∀ limit, 0x80 ≤ limit →
      s.toUTF8.data.toList = s.toList.flatMap fun c => [singleByte limit c] := by
    intro ascii limit large
    have chars : ∀ c ∈ s.toList, c.toNat < 0x80 := by simpa [isAscii] using ascii
    rw [String.toUTF8, ← String.utf8Encode_toList, List.utf8Encode, List.toList_data_toByteArray]
    exact List.flatMap_congr fun c mem => utf8EncodeChar_eq_singleByte large (chars c mem)
  cases cs with
  | utf8 | utf16be | utf16le => rfl
  | ascii | latin1 =>
    rw [encode]
    split
    · next ascii => exact shortcut ascii _ (by decide)
    · rfl

/-- Two texts written together are written one behind the other. -/
theorem encode_append (cs : Charset) (s t : String) :
    cs.encode (s ++ t) = cs.encode s ++ cs.encode t := by
  simp only [encode_eq_flatMap, String.toList_append, List.flatMap_append]

/-- Texts written one behind the other are written as one. -/
theorem flatMap_encode (cs : Charset) (texts : List String) :
    texts.flatMap cs.encode = cs.encode (String.join texts) := by
  rw [encode_eq_flatMap, String.toList_join, List.flatMap_assoc]
  exact List.flatMap_congr fun s _ => cs.encode_eq_flatMap s

/-- Bytes are read as a text of the charset if they are what it is written as. -/
theorem decode?_eq_some_iff {cs : Charset} {s : String} :
    cs.decode? bytes = some s ↔ (∀ c ∈ s.toList, cs.has c = true) ∧ bytes = cs.encode s := by
  rw [encode_eq_flatMap, ← decodeChars?_eq_some_iff, decode?, Option.map_eq_some_iff]
  constructor
  · rintro ⟨l, decoded, rfl⟩
    rwa [String.toList_ofList]
  · intro decoded
    exact ⟨_, decoded, String.ofList_toList⟩

/-- UTF-8 is read as the standard library reads it. -/
theorem decode?_utf8 (bytes : List UInt8) :
    decode? .utf8 bytes = String.fromUTF8? bytes.toByteArray := by
  have library : ∀ {b : ByteArray} {s : String},
      String.fromUTF8? b = some s ↔ b = s.toByteArray := by
    intro b s
    rw [String.fromUTF8?]
    split
    · next valid =>
      rw [Option.some_inj, ← String.toByteArray_inj]
      rfl
    · next invalid =>
      refine ⟨fun eq => (Option.some_ne_none _ eq.symm).elim, fun eq => ?_⟩
      exact absurd (eq ▸ s.isValidUTF8) invalid
  -- both readers get a text from its bytes and from no others
  ext s
  have written : (encode .utf8 s).toByteArray = s.toByteArray := String.utf8Encode_toList
  rw [decode?_eq_some_iff, library, ← written, List.toByteArray_inj]
  exact and_iff_right fun _ _ => rfl

/-- What was written is read back, with question marks. -/
theorem decode?_encode (cs : Charset) (s : String) :
    cs.decode? (cs.encode s) = some (cs.legible s) := by
  rw [decode?_eq_some_iff, legible, String.toList_map]
  constructor
  · intro c mem
    obtain ⟨c, -, rfl⟩ := List.mem_map.1 mem
    exact cs.has_written c
  · rw [encode_eq_flatMap, encode_eq_flatMap, String.toList_map, List.flatMap_map]
    exact List.flatMap_congr fun c _ => (cs.encodeChar_written c).symm

/-- Texts put together are written as they are on their own. -/
theorem legible_join (cs : Charset) (texts : List String) :
    cs.legible (String.join texts) = String.join (texts.map cs.legible) := by
  rw [← String.toList_inj]
  simp [legible, List.map_flatMap, List.flatMap_map]

/-- A text of characters of the charset is written as it is. -/
theorem legible_eq_self {cs : Charset} {s : String} (has : ∀ c ∈ s.toList, cs.has c = true) :
    cs.legible s = s := by
  rw [← String.toList_inj, legible, String.toList_map]
  exact List.map_congr_left (fun c mem => written_eq_self (has c mem)) |>.trans (List.map_id' _)

/-- **Texts written one behind the other.** In every charset, texts that were written separately
are read back as one text. In the charsets that have all characters nothing is lost; in the others
there is one question mark for each character beyond ASCII or Latin-1. What is written of a text
depends neither on the text in front of it nor on whether it is found to be ASCII. -/
theorem decode?_flatMap_encode (cs : Charset) (texts : List String) :
    cs.decode? (texts.flatMap cs.encode) = some (String.join (texts.map cs.legible)) ∧
    (∀ s, legible .utf8 s = s ∧ legible .utf16be s = s ∧ legible .utf16le s = s ∧
      legible .ascii s = s.map (fun c => if c.toNat ≤ 0x7F then c else '?') ∧
      legible .latin1 s = s.map (fun c => if c.toNat ≤ 0xFF then c else '?')) ∧
    (∀ s t, cs.encode (s ++ t) = cs.encode s ++ cs.encode t) ∧
    ∀ s, cs.encode s = s.toList.flatMap cs.encodeChar := by
  have ascii : written .ascii = fun c => if c.toNat ≤ 0x7F then c else '?' := by
    funext c
    simp [written, has, Nat.lt_succ_iff]
  have latin1 : written .latin1 = fun c => if c.toNat ≤ 0xFF then c else '?' := by
    funext c
    simp [written, has, Nat.lt_succ_iff]
  refine ⟨?_, fun s => ⟨?_, ?_, ?_, ?_, ?_⟩, cs.encode_append, cs.encode_eq_flatMap⟩
  · rw [flatMap_encode, decode?_encode, legible_join]
  -- UTF-8 and UTF-16 have every character
  · exact legible_eq_self fun _ _ => rfl
  · exact legible_eq_self fun _ _ => rfl
  · exact legible_eq_self fun _ _ => rfl
  · rw [legible, ascii]
  · rw [legible, latin1]

end Logline.Charset
