import Logline.Proofs.Json.RoundTrip
import Mathlib.Data.List.Basic

/-! # Replacing characters in JSON

A text may have characters replaced after it was put together as JSON, where these are characters
outside ASCII and what takes their place is not escaped. The brackets, commas and escapes of JSON
are ASCII, so that a reader then gets the same value with the characters replaced in its strings,
and nothing else changes.

* `Json.mapTexts` — a value with all its strings changed, keys among them
* `Json.Literal` — replacements that leave JSON intact
* `Json.text_mapTexts` — to change the strings or the text of a value is the same
* `Json.read_map_text` — what is read back from a changed text -/

namespace Logline.Json

mutual

/-- A value with all its strings changed, and with them the keys of its objects. -/
def mapTexts (f : String → String) : Json → Json
  | .string s => .string (f s)
  | .array items => .array (mapTextsOfItems f items)
  | .object members => .object (mapTextsOfMembers f members)
  | j => j

/-- Items with all their strings changed. -/
def mapTextsOfItems (f : String → String) : List Json → List Json
  | [] => []
  | j :: rest => j.mapTexts f :: mapTextsOfItems f rest

/-- Members with all their strings changed, and with them their keys. -/
def mapTextsOfMembers (f : String → String) : List (String × Json) → List (String × Json)
  | [] => []
  | (key, j) :: rest => (f key, j.mapTexts f) :: mapTextsOfMembers f rest

end

/-- Members are rewritten one by one, the key and the texts of the value. -/
theorem mapTextsOfMembers_eq_map (f : String → String) (members : List (String × Json)) :
    mapTextsOfMembers f members = members.map fun m => (f m.1, m.2.mapTexts f) := by
  induction members with
  | nil => rfl
  | cons m members ih =>
    obtain ⟨key, j⟩ := m
    rw [mapTextsOfMembers, ih, List.map_cons]

mutual

/-- Numbers stay as they are. -/
theorem spelled_mapTexts (f : String → String) : (j : Json) → (j.mapTexts f).spelled = j.spelled
  | .null | .bool _ | .number _ | .string _ => rfl
  | .array items => itemsSpelled_mapTexts f items
  | .object members => membersSpelled_mapTexts f members

/-- Rewriting the texts of items leaves their numbers as they are. -/
theorem itemsSpelled_mapTexts (f : String → String) : (items : List Json) →
    itemsSpelled (mapTextsOfItems f items) = itemsSpelled items
  | [] => rfl
  | j :: rest => by
    rw [mapTextsOfItems, itemsSpelled, itemsSpelled, spelled_mapTexts f j,
      itemsSpelled_mapTexts f rest]

/-- Rewriting the texts of members leaves their numbers as they are. -/
theorem membersSpelled_mapTexts (f : String → String) : (members : List (String × Json)) →
    membersSpelled (mapTextsOfMembers f members) = membersSpelled members
  | [] => rfl
  | (key, j) :: rest => by
    rw [mapTextsOfMembers, membersSpelled, membersSpelled, spelled_mapTexts f j,
      membersSpelled_mapTexts f rest]

end

/-! ## Escapes -/

/-- A character outside ASCII is not escaped. -/
theorem escape_eq_self {c : Char} (outside : 0x80 ≤ c.toNat) : escape c = [c] := by
  have other : ∀ d : Char, d.toNat < 0x80 → c ≠ d := by
    rintro d ascii rfl
    omega
  have clean : ¬ c.toNat < 0x20 := by omega
  simp [escape, other, clean]

/-- Replacements leave JSON **intact** if they replace characters outside ASCII only, by characters
that are not escaped. -/
def Literal (f : Char → Char) : Prop :=
  ∀ c, f c ≠ c → 0x80 ≤ c.toNat ∧ escape (f c) = [f c]

namespace Literal

variable {f : Char → Char} (literal : Literal f)

include literal

/-- An ASCII character stays as it is. -/
theorem eq_self {c : Char} (ascii : c.toNat < 0x80) : f c = c :=
  Decidable.byContradiction fun replaced => Nat.not_le.2 ascii (literal c replaced).1

/-- Printable characters stay as they are. -/
theorem map_eq_self {cs : List Char} (printable : ∀ c ∈ cs, Printable c) : cs.map f = cs :=
  (List.map_congr_left fun c mem => literal.eq_self (printable c mem).2).trans (List.map_id' _)

/-- What is escaped is not replaced, and what is replaced is not escaped. -/
theorem map_escape (c : Char) : (escape c).map f = escape (f c) := by
  by_cases same : f c = c
  · rw [same]
    rcases escape_cases c with printable | ⟨itself, -⟩
    · exact literal.map_eq_self printable
    · rw [itself, List.map_singleton, same]
  · obtain ⟨outside, plain⟩ := literal c same
    rw [escape_eq_self outside, plain, List.map_singleton]

/-- Rewriting the characters of a quoted string is quoting the rewritten string. -/
theorem toList_quote_map (s : String) : (quote (s.map f)).toList = (quote s).toList.map f := by
  have mark : f '"' = '"' := literal.eq_self (by decide)
  have escapes : (s.toList.map f).flatMap escape = (s.toList.flatMap escape).map f := by
    rw [List.flatMap_map, List.map_flatMap]
    exact List.flatMap_congr fun c _ => (literal.map_escape c).symm
  rw [toList_quote, toList_quote, String.toList_map, escapes]
  simp [mark]

end Literal

/-! ## Texts of values -/

section Texts

variable {f : Char → Char} (literal : Literal f)

include literal

mutual

/-- Rewriting the characters of the text of a value is writing the value with its texts rewritten.
-/
theorem toList_text_mapTexts : (j : Json) → j.spelled = true →
    (j.mapTexts (String.map f)).text.toList = j.text.toList.map f
  | .null, _ => by
    have word : ∀ c ∈ "null".toList, Printable c := printable_of_all (by decide)
    exact (literal.map_eq_self word).symm
  | .bool b, _ => by
    have word : ∀ c ∈ (Json.bool b).text.toList, Printable c :=
      printable_of_all (by cases b <;> decide)
    exact (literal.map_eq_self word).symm
  | .number digits, spelled => by
    simp only [Json.spelled, Option.any_eq_true] at spelled
    obtain ⟨part, whole, -⟩ := spelled
    exact (literal.map_eq_self (number_printable whole)).symm
  | .string s, _ => literal.toList_quote_map s
  | .array items, spelled => by
    have left : f '[' = '[' := literal.eq_self (by decide)
    have right : f ']' = ']' := literal.eq_self (by decide)
    rw [mapTexts, toList_text_array, toList_text_array, toList_textOfItems_mapTexts items spelled]
    simp [left, right]
  | .object members, spelled => by
    have left : f '{' = '{' := literal.eq_self (by decide)
    have right : f '}' = '}' := literal.eq_self (by decide)
    rw [mapTexts, toList_text_object, toList_text_object,
      toList_textOfMembers_mapTexts members spelled]
    simp [left, right]

/-- The same for the items of an array, one after the other. -/
theorem toList_textOfItems_mapTexts : (items : List Json) → itemsSpelled items = true →
    (textOfItems (mapTextsOfItems (String.map f) items)).toList
      = (textOfItems items).toList.map f
  | [], _ => rfl
  | [j], spelled => by
    rw [itemsSpelled, Bool.and_eq_true] at spelled
    exact toList_text_mapTexts j spelled.1
  | j :: k :: rest, spelled => by
    rw [itemsSpelled, Bool.and_eq_true] at spelled
    have comma : f ',' = ',' := literal.eq_self (by decide)
    have first := toList_text_mapTexts j spelled.1
    have others := toList_textOfItems_mapTexts (k :: rest) spelled.2
    rw [mapTextsOfItems] at others
    rw [mapTextsOfItems, mapTextsOfItems, toList_textOfItems_cons, toList_textOfItems_cons, first,
      others]
    simp [comma]

/-- The same for the members of an object, whose keys are rewritten too. -/
theorem toList_textOfMembers_mapTexts : (members : List (String × Json)) →
    membersSpelled members = true →
    (textOfMembers (mapTextsOfMembers (String.map f) members)).toList
      = (textOfMembers members).toList.map f
  | [], _ => rfl
  | [(key, j)], spelled => by
    rw [membersSpelled, Bool.and_eq_true] at spelled
    have colon : f ':' = ':' := literal.eq_self (by decide)
    rw [mapTextsOfMembers, mapTextsOfMembers, toList_textOfMembers_singleton,
      toList_textOfMembers_singleton, toList_text_mapTexts j spelled.1, literal.toList_quote_map]
    simp [colon]
  | (key, j) :: m :: rest, spelled => by
    rw [membersSpelled, Bool.and_eq_true] at spelled
    have colon : f ':' = ':' := literal.eq_self (by decide)
    have comma : f ',' = ',' := literal.eq_self (by decide)
    have first := toList_text_mapTexts j spelled.1
    have others := toList_textOfMembers_mapTexts (m :: rest) spelled.2
    rw [mapTextsOfMembers] at others
    rw [mapTextsOfMembers, mapTextsOfMembers, toList_textOfMembers_cons,
      toList_textOfMembers_cons, first, others, literal.toList_quote_map]
    simp [colon, comma]

end

/-- **Replacing in the strings or in the text.** The text of a value whose strings had characters
replaced is its text with these characters replaced. -/
theorem text_mapTexts {j : Json} (spelled : j.spelled = true) :
    (j.mapTexts (String.map f)).text = j.text.map f := by
  rw [← String.toList_inj, String.toList_map]
  exact toList_text_mapTexts literal j spelled

/-- What is read back from the text of a value in which characters were replaced. -/
theorem read_map_text {j : Json} (spelled : j.spelled = true) :
    read (j.text.map f) = some (j.mapTexts (String.map f)) := by
  rw [← text_mapTexts literal spelled]
  exact read_text ((spelled_mapTexts _ j).trans spelled)

end Texts

end Logline.Json
