import Mathlib.Data.String.Basic

/-! # Templates as bytes

A template is stored in UTF-8, and what it is searched for are ASCII characters. A byte below 128 is
a whole character wherever it stands, so a place where such a byte is found, and the place behind
it, are boundaries of characters, between which a text may be cut.

* `Template.byteAt?` — a byte of a text
* `Template.Boundary` — places between characters
* `Template.slice?` — what stands between two boundaries
* `Template.byteAt?_eq_some_iff` — an ASCII byte is a character
* `Template.SlotAt`, `Template.SlashAt` — slots, and backslashes in front of them, by bytes
* `Template.nextSlot?` — the first slot from a byte on -/

namespace Logline.Template

open String (utf8Len)

/-- The byte of a text at a place. -/
def byteAt? (t : String) (i : Nat) : Option UInt8 := t.toUTF8[i]?

/-- Whether a place is a **boundary**: it stands in front of a character, or at the end. -/
def Boundary (t : String) (i : Nat) : Prop := (⟨i⟩ : String.Pos.Raw).IsValid t

/-- Whether a place is a boundary can be decided on the text. -/
instance (t : String) (i : Nat) : Decidable (Boundary t i) :=
  inferInstanceAs (Decidable (String.Pos.Raw.IsValid t ⟨i⟩))

/-- The text between two places. There is none if one of them is not a boundary or if they are in
the wrong order. -/
def slice? (t : String) (start stop : Nat) : Option String :=
  if h : start ≤ stop ∧ Boundary t start ∧ Boundary t stop then
    some (String.extract (t.pos ⟨start⟩ h.2.1) (t.pos ⟨stop⟩ h.2.2))
  else none

variable {t : String} {front mid rest : List Char} {c : Char} {i : Nat}

/-! ## Bytes of characters -/

/-- The bytes of a text are those of its characters, one after the other. -/
theorem byteAt?_eq (t : String) (i : Nat) :
    byteAt? t i = (t.toList.flatMap String.utf8EncodeChar)[i]? := by
  have bytes : t.toUTF8.data.toList = t.toList.flatMap String.utf8EncodeChar := by
    conv => lhs; rw [← String.ofList_toList (s := t)]
    rw [String.toUTF8_eq_toByteArray, String.toByteArray_ofList, List.utf8Encode,
      List.toList_data_toByteArray]
  rw [byteAt?, ← bytes, Array.getElem?_toList]
  rfl

/-- The characters of a text have as many bytes as the text is long. -/
theorem length_flatMap_utf8EncodeChar (cs : List Char) :
    (cs.flatMap String.utf8EncodeChar).length = utf8Len cs := by
  induction cs with
  | nil => rfl
  | cons c cs ih =>
    rw [List.flatMap_cons, List.length_append, String.length_utf8EncodeChar, ih,
      String.utf8Len_cons, Nat.add_comm]

/-- An ASCII character is one byte. -/
theorem utf8EncodeChar_of_ascii (ascii : c.toNat < 128) :
    String.utf8EncodeChar c = [UInt8.ofNat c.toNat] := by
  have one : c.utf8Size = 1 := Char.utf8Size_eq_one_iff.2 (Nat.le_of_lt_succ ascii)
  rw [String.utf8EncodeChar_eq_singleton one]
  rfl

/-- Only ASCII characters have bytes below 128. -/
theorem ascii_of_mem_utf8EncodeChar {b : UInt8} (mem : b ∈ String.utf8EncodeChar c)
    (ascii : b.toNat < 128) : c.toNat < 128 := by
  by_contra large
  have large : ¬ c.val.toNat ≤ 127 := fun le => large (Nat.lt_succ_of_le le)
  simp only [String.utf8EncodeChar, if_neg large] at mem
  split_ifs at mem <;>
    simp only [List.mem_cons, List.not_mem_nil, or_false] at mem <;>
    rcases mem with rfl | rfl | rfl | rfl <;>
    simp only [UInt8.toNat_ofNat'] at ascii <;>
    omega

/-- **A byte below 128 is a character.** -/
theorem byteAt?_eq_some_iff (ascii : c.toNat < 128) :
    byteAt? t i = some (UInt8.ofNat c.toNat) ↔
      ∃ front rest, t.toList = front ++ c :: rest ∧ utf8Len front = i := by
  rw [byteAt?_eq]
  generalize t.toList = cs
  constructor
  · intro byte
    induction cs generalizing i with
    | nil => simp at byte
    | cons d cs ih =>
      rw [List.flatMap_cons] at byte
      rcases Nat.lt_or_ge i (String.utf8EncodeChar d).length with inside | behind
      · rw [List.getElem?_append_left inside] at byte
        have small : (UInt8.ofNat c.toNat).toNat < 128 := by
          rw [UInt8.toNat_ofNat']
          omega
        -- the byte belongs to a character of one byte, which it is
        have ascii' := ascii_of_mem_utf8EncodeChar (List.mem_of_getElem? byte) small
        rw [utf8EncodeChar_of_ascii ascii'] at byte inside
        obtain rfl : i = 0 := Nat.lt_one_iff.1 inside
        rw [List.getElem?_cons_zero, Option.some.injEq, ← UInt8.toNat_inj, UInt8.toNat_ofNat',
          UInt8.toNat_ofNat', Nat.mod_eq_of_lt (by omega), Nat.mod_eq_of_lt (by omega)] at byte
        obtain rfl : d = c := Char.toNat_inj.1 byte
        exact ⟨[], cs, rfl, rfl⟩
      · rw [List.getElem?_append_right behind] at byte
        obtain ⟨front, rest, rfl, place⟩ := ih byte
        rw [String.length_utf8EncodeChar] at behind place
        refine ⟨d :: front, rest, rfl, ?_⟩
        rw [String.utf8Len_cons]
        omega
  · rintro ⟨front, rest, rfl, rfl⟩
    rw [List.flatMap_append, List.flatMap_cons, ← length_flatMap_utf8EncodeChar,
      List.getElem?_append_right (Nat.le_refl _), Nat.sub_self, utf8EncodeChar_of_ascii ascii]
    rfl

/-! ## Boundaries -/

/-- Boundaries are the places where a text can be cut in two. -/
theorem boundary_iff :
    Boundary t i ↔ ∃ front rest, t.toList = front ++ rest ∧ utf8Len front = i := by
  rw [Boundary, String.Pos.Raw.isValid_iff_exists_append]
  constructor
  · rintro ⟨front, rest, rfl, place⟩
    refine ⟨front.toList, rest.toList, String.toList_append, ?_⟩
    rw [← String.utf8ByteSize_ofList, String.ofList_toList]
    exact (congrArg String.Pos.Raw.byteIdx place).symm
  · rintro ⟨front, rest, split, rfl⟩
    refine ⟨String.ofList front, String.ofList rest, ?_, ?_⟩
    · rw [← String.ofList_append, ← split, String.ofList_toList]
    · rw [← String.utf8ByteSize_ofList]
      rfl

/-- Where a text is cut in two, there is a boundary. -/
theorem boundary_of_split (split : t.toList = front ++ rest) : Boundary t (utf8Len front) :=
  boundary_iff.2 ⟨front, rest, split, rfl⟩

/-- Of two cuts through a text, the one at the smaller place comes first. -/
theorem prefix_of_utf8Len_le {front' rest' : List Char} (same : front ++ rest = front' ++ rest')
    (le : utf8Len front ≤ utf8Len front') : front <+: front' := by
  rcases List.prefix_or_prefix_of_prefix ⟨rest, same⟩ (List.prefix_append front' rest')
    with shorter | ⟨more, rfl⟩
  · exact shorter
  · rw [String.utf8Len_append] at le
    have nothing : more = [] := String.utf8Len_eq_zero.1 (by omega)
    exact ⟨[], by rw [nothing, List.append_nil, List.append_nil]⟩

/-- A text is cut at a place in one way only. -/
theorem eq_of_utf8Len_eq {front' rest' : List Char} (same : front ++ rest = front' ++ rest')
    (eq : utf8Len front = utf8Len front') : front = front' ∧ rest = rest' := by
  have split : front = front' := by
    obtain ⟨more, rfl⟩ := prefix_of_utf8Len_le same (Nat.le_of_eq eq)
    rw [String.utf8Len_append] at eq
    have nothing : more = [] := String.utf8Len_eq_zero.1 (by omega)
    rw [nothing, List.append_nil]
  subst split
  exact ⟨rfl, List.append_cancel_left same⟩

/-- Between two boundaries stands a text. -/
theorem slice?_of_split (split : t.toList = front ++ (mid ++ rest)) :
    slice? t (utf8Len front) (utf8Len front + utf8Len mid) = some (String.ofList mid) := by
  have start : Boundary t (utf8Len front) := boundary_of_split split
  have stop : Boundary t (utf8Len front + utf8Len mid) := by
    rw [← String.utf8Len_append]
    rw [← List.append_assoc] at split
    exact boundary_of_split split
  -- the text is its three parts, in bytes too
  have bytes : t.toByteArray = (String.ofList front).toByteArray
      ++ ((String.ofList mid).toByteArray ++ (String.ofList rest).toByteArray) := by
    rw [← String.toByteArray_append, ← String.toByteArray_append, ← String.ofList_append,
      ← String.ofList_append, ← split, String.ofList_toList]
  have size : ∀ cs : List Char, (String.ofList cs).toByteArray.size = utf8Len cs := by
    intro cs
    rw [String.size_toByteArray, String.utf8ByteSize_ofList]
  rw [slice?, dif_pos ⟨Nat.le_add_right _ _, start, stop⟩, Option.some.injEq,
    ← String.toByteArray_inj, String.toByteArray_extract]
  have inside := ByteArray.extract_append_size_add' (size front).symm
    (b := (String.ofList mid).toByteArray ++ (String.ofList rest).toByteArray)
    (i := 0) (j := utf8Len mid)
  rw [← bytes, Nat.add_zero, ByteArray.extract_append_eq_left (size mid).symm] at inside
  exact inside

/-! ## Slots -/

/-- Whether a slot begins at a byte. -/
def SlotAt (t : String) (j : Nat) : Prop :=
  byteAt? t j = some (UInt8.ofNat '{'.toNat) ∧ byteAt? t (j + 1) = some (UInt8.ofNat '}'.toNat)

/-- Whether a backslash stands at a distance in front of a byte. -/
def SlashAt (t : String) (distance j : Nat) : Prop :=
  distance ≤ j ∧ byteAt? t (j - distance) = some (UInt8.ofNat '\\'.toNat)

instance (t : String) (j : Nat) : Decidable (SlotAt t j) := inferInstanceAs (Decidable (_ ∧ _))

instance (t : String) (distance j : Nat) : Decidable (SlashAt t distance j) :=
  inferInstanceAs (Decidable (_ ∧ _))

/-- The slots of a template, escaped ones among them. -/
def slotsAt (t : String) : List Nat := (List.range t.utf8ByteSize).filter (SlotAt t)

/-- The first slot from a byte on. -/
def nextSlot? (t : String) (i : Nat) : Option Nat :=
  (List.range' i (t.utf8ByteSize - i)).find? (SlotAt t)

example : slotsAt "é\\{}{}" = [3, 5] ∧ nextSlot? "é\\{}{}" 4 = some 5 := by decide +kernel

variable {j : Nat}

/-- A slot begins at a byte if the characters from there on begin with both braces. -/
theorem slotAt_iff :
    SlotAt t j ↔ ∃ front rest, t.toList = front ++ '{' :: '}' :: rest ∧ utf8Len front = j := by
  rw [SlotAt, byteAt?_eq_some_iff (by decide), byteAt?_eq_some_iff (by decide)]
  constructor
  · rintro ⟨⟨front, rest, split, rfl⟩, front', rest', split', place⟩
    have same : (front ++ ['{']) ++ rest = front' ++ '}' :: rest' := by
      rw [← split', split, List.append_assoc, List.singleton_append]
    have place' : utf8Len (front ++ ['{']) = utf8Len front' := by
      rw [place, String.utf8Len_append]
      rfl
    obtain ⟨-, rfl⟩ := eq_of_utf8Len_eq same place'
    exact ⟨front, rest', split, rfl⟩
  · rintro ⟨front, rest, split, rfl⟩
    refine ⟨⟨front, _, split, rfl⟩, front ++ ['{'], rest, ?_, ?_⟩
    · rw [split, List.append_assoc, List.singleton_append]
    · rw [String.utf8Len_append]
      rfl

/-- In front of a boundary stands a backslash if the text up to there ends with one. -/
theorem slashAt_one_iff (split : t.toList = front ++ rest) :
    SlashAt t 1 (utf8Len front) ↔ ['\\'] <:+ front := by
  rw [SlashAt, byteAt?_eq_some_iff (by decide)]
  constructor
  · rintro ⟨ge, front', rest', split', place⟩
    have same : (front' ++ ['\\']) ++ rest' = front ++ rest := by
      rw [← split, split', List.append_assoc, List.singleton_append]
    have place' : utf8Len (front' ++ ['\\']) = utf8Len front := by
      rw [String.utf8Len_append, place]
      exact Nat.sub_add_cancel ge
    exact ⟨front', (eq_of_utf8Len_eq same place').1⟩
  · rintro ⟨front', rfl⟩
    rw [String.utf8Len_append]
    refine ⟨Nat.le_add_left _ _, front', rest, ?_, rfl⟩
    rw [split, List.append_assoc, List.singleton_append]

/-- Two places in front of what stands behind a place is one place in front of that. -/
theorem slashAt_two_iff : SlashAt t 2 (j + 1) ↔ SlashAt t 1 j := by
  rw [SlashAt, SlashAt, Nat.add_sub_add_right j 1 1]
  exact and_congr_left' Nat.succ_le_succ_iff

/-- The length of a text in bytes is that of its characters. -/
theorem utf8ByteSize_eq (t : String) : t.utf8ByteSize = utf8Len t.toList := by
  rw [← String.utf8ByteSize_ofList, String.ofList_toList]

/-- A slot begins inside its template. -/
theorem SlotAt.lt (slot : SlotAt t j) : j < t.utf8ByteSize := by
  obtain ⟨front, rest, split, rfl⟩ := slotAt_iff.1 slot
  rw [utf8ByteSize_eq, split, String.utf8Len_append, String.utf8Len_cons]
  have wide := Char.utf8Size_pos '{'
  omega

/-- The slot that is found is the first one from a byte on. -/
theorem nextSlot?_eq_some_iff :
    nextSlot? t i = some j ↔ SlotAt t j ∧ i ≤ j ∧ ∀ k, i ≤ k → k < j → ¬ SlotAt t k := by
  rw [nextSlot?, List.find?_range'_eq_some, List.mem_range'_1]
  simp only [decide_eq_true_eq, Bool.not_eq_true', decide_eq_false_iff_not]
  constructor
  · rintro ⟨slot, ⟨le, -⟩, first⟩
    exact ⟨slot, le, first⟩
  · rintro ⟨slot, le, first⟩
    have lt := slot.lt
    exact ⟨slot, by omega, first⟩

/-- No slot is found exactly if there is none from the byte on. -/
theorem nextSlot?_eq_none_iff : nextSlot? t i = none ↔ ∀ k, i ≤ k → ¬ SlotAt t k := by
  rw [nextSlot?, List.find?_range'_eq_none]
  simp only [Bool.not_eq_true', decide_eq_false_iff_not]
  constructor
  · intro missing k le slot
    have lt := slot.lt
    exact missing k le (by omega) slot
  · exact fun missing k le _ => missing k le

/-- A slot that is found from a boundary on is the first one ahead. -/
theorem exists_of_nextSlot?_eq_some {done ahead : List Char} (split : t.toList = done ++ ahead)
    (found : nextSlot? t (utf8Len done) = some j) :
    ∃ mid rest, ahead = mid ++ '{' :: '}' :: rest ∧ j = utf8Len (done ++ mid) ∧
      ¬ ['{', '}'] <:+: mid ++ ['{'] := by
  obtain ⟨here, le, first⟩ := nextSlot?_eq_some_iff.1 found
  obtain ⟨front, rest, split', rfl⟩ := slotAt_iff.1 here
  obtain ⟨mid, rfl⟩ := prefix_of_utf8Len_le (split.symm.trans split') le
  rw [split, List.append_assoc] at split'
  have ahead_eq : ahead = mid ++ '{' :: '}' :: rest := List.append_cancel_left split'
  refine ⟨mid, rest, ahead_eq, rfl, ?_⟩
  -- an earlier slot would have been found
  rintro ⟨a, b, eq⟩
  have split_earlier : mid ++ '{' :: '}' :: rest = a ++ '{' :: '}' :: (b ++ '}' :: rest) := by
    have opened : mid ++ '{' :: '}' :: rest = (mid ++ ['{']) ++ '}' :: rest := by simp
    rw [opened, ← eq]
    simp
  have earlier : SlotAt t (utf8Len (done ++ a)) :=
    slotAt_iff.2 ⟨done ++ a, b ++ '}' :: rest, by rw [split, ahead_eq, split_earlier]; simp, rfl⟩
  have widths := congrArg utf8Len eq
  have braces : utf8Len ['{', '}'] = 2 ∧ utf8Len ['{'] = 1 := by decide
  simp only [String.utf8Len_append, braces] at widths first
  refine first _ ?_ ?_ earlier <;> rw [String.utf8Len_append] <;> omega

/-- If no slot is found from a boundary on, there is none ahead. -/
theorem not_isInfix_of_nextSlot?_eq_none {done ahead : List Char}
    (split : t.toList = done ++ ahead) (missing : nextSlot? t (utf8Len done) = none) :
    ¬ ['{', '}'] <:+: ahead := by
  rintro ⟨a, b, rfl⟩
  refine nextSlot?_eq_none_iff.1 missing (utf8Len (done ++ a)) ?_ ?_
  · rw [String.utf8Len_append]
    exact Nat.le_add_right _ _
  · exact slotAt_iff.2 ⟨done ++ a, b, by rw [split]; simp, rfl⟩

end Logline.Template
