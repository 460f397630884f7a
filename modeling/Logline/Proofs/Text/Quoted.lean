import Logline.Proofs.Json.RoundTrip
import Logline.Text.Quoted
import Mathlib.Data.List.Flatten

/-! # Quoted texts

A quoted text can be printed on one line, whatever characters the text has, and it tells which text
it is.

* `Text.Printable` — texts whose characters all have a visible form
* `Text.quote_printable`, `Text.quoteJoined_printable` — quoted texts are such texts
* `Text.readChar?` — reads one character of a quoted text
* `Text.quote_inj`, `Text.quoteJoined_inj` — quoted texts differ where the texts do -/

namespace Logline.Text

/-! ## Printable texts -/

/-- A text is **printable** if each of its characters has a visible form. -/
def Printable (s : String) : Prop := ∀ c ∈ s.toList, isPrintable c = true

/-- Whether a text is printable is decided character by character. -/
theorem printable_of_all {s : String} (all : s.toList.all isPrintable = true) : Printable s :=
  List.all_eq_true.1 all

/-- A character that has a visible form is a printable text. -/
theorem printable_char {c : Char} (visible : isPrintable c = true) : Printable c.toString := by
  intro d mem
  rw [Char.toString_eq_singleton, String.toList_singleton, List.mem_singleton] at mem
  exact mem ▸ visible

/-- Texts that are printable are so one after the other. -/
theorem Printable.append {s t : String} (front : Printable s) (back : Printable t) :
    Printable (s ++ t) := by
  intro c mem
  rw [String.toList_append] at mem
  exact (List.mem_append.1 mem).elim (front c) (back c)

/-- So are any number of them. -/
theorem printable_join {texts : List String} (each : ∀ s ∈ texts, Printable s) :
    Printable (String.join texts) := by
  intro c mem
  rw [String.toList_join] at mem
  obtain ⟨s, among, mem⟩ := List.mem_flatMap.1 mem
  exact each s among c mem

/-- A printable text may stand between any two of them. -/
theorem printable_intercalate {between : String} (printable : Printable between)
    {texts : List String} (each : ∀ s ∈ texts, Printable s) :
    Printable (between.intercalate texts) := by
  induction texts with
  | nil => exact fun c mem => nomatch mem
  | cons s texts ih =>
    have rest := ih fun t mem => each t (List.mem_cons_of_mem s mem)
    have first := each s List.mem_cons_self
    by_cases alone : texts = []
    · subst alone
      simpa using first
    · rw [String.intercalate_cons_of_ne_nil alone]
      exact (first.append printable).append rest

/-- Digits of base ten have a visible form. -/
theorem isPrintable_of_isDigit {c : Char} (digit : c.isDigit = true) : isPrintable c = true := by
  simp only [Char.isDigit, Bool.and_eq_true, decide_eq_true_eq, ge_iff_le, UInt32.le_iff_toNat_le]
    at digit
  have bounds : 0x30 ≤ c.toNat ∧ c.toNat ≤ 0x39 := digit
  rw [isPrintable, if_pos (by omega), decide_eq_true_eq]
  omega

/-- Natural numbers are printable. -/
theorem printable_nat (n : Nat) : Printable (toString n) := by
  intro c mem
  rw [Nat.toString_eq_repr, Nat.toList_repr] at mem
  exact isPrintable_of_isDigit (Nat.isDigit_of_mem_toDigits (by decide) (by decide) mem)

/-- So are integers. -/
theorem printable_int (n : Int) : Printable (toString n) := by
  rw [show toString n = n.repr from rfl, Int.repr_eq_if]
  split
  · exact printable_nat _
  · exact (printable_of_all (by decide)).append (printable_nat _)

/-! ## Escapes -/

/-- Digits of base sixteen. -/
theorem mem_toDigits_sixteen (n : Nat) :
    ∀ c ∈ Nat.toDigits 16 n, ∃ d < 16, c = Nat.digitChar d := by
  induction n using Nat.strongRecOn with
  | ind n ih =>
    intro c mem
    by_cases small : n < 16
    · rw [Nat.toDigits_of_lt_base small, List.mem_singleton] at mem
      exact ⟨n, small, mem⟩
    · rw [Nat.toDigits_of_base_le (by decide) (by omega)] at mem
      rcases List.mem_append.1 mem with front | last
      · exact ih (n / 16) (by omega) c front
      · exact ⟨n % 16, by omega, List.mem_singleton.1 last⟩

/-- They have a visible form. -/
theorem isPrintable_digitChar : ∀ d < 16, isPrintable (Nat.digitChar d) = true := by decide

/-- A character is escaped by printable ones. -/
theorem escape_printable {marks : List Char} (printable : marks.all isPrintable = true)
    (split : Bool) (c : Char) : Printable (escape marks split c) := by
  rw [escape]
  split_ifs with nul tab feed line slash mark special
  · exact printable_of_all (by decide)
  · exact printable_of_all (by decide)
  · exact printable_of_all (by decide)
  · exact printable_of_all (by decide)
  · exact printable_of_all (by decide)
  · have quoted := List.all_eq_true.1 printable c mark
    exact (printable_of_all (by decide)).append (printable_char quoted)
  · have digits : Printable (hex c.toNat) := by
      intro d mem
      rw [hex, String.toList_ofList] at mem
      obtain ⟨n, small, rfl⟩ := mem_toDigits_sixteen c.toNat d mem
      exact isPrintable_digitChar n small
    exact ((printable_of_all (by decide)).append digits).append (printable_of_all (by decide))
  · simp only [Bool.or_eq_true, Bool.and_eq_true, Bool.not_eq_true', not_or] at special
    exact printable_char (by simpa using special.2)

/-- Quotation marks have a visible form. -/
private theorem isPrintable_marks : ['"', '\''].all isPrintable = true := by decide

/-- **Printable texts.** A quoted text is printable, whatever the text is. -/
theorem quote_printable (s : String) : Printable (quote s) := by
  refine ((printable_of_all (by decide)).append (printable_join fun t mem => ?_)).append
    (printable_of_all (by decide))
  obtain ⟨c, -, rfl⟩ := List.mem_map.1 mem
  exact escape_printable (by decide) true c

/-- A quoted character is printable. -/
theorem quoteChar_printable (c : Char) : Printable (quoteChar c) :=
  ((printable_of_all (by decide)).append (escape_printable (by decide) true c)).append
    (printable_of_all (by decide))

/-- A text whose marks stay joined is printable too. -/
theorem quoteJoined_printable (s : String) : Printable (quoteJoined s) := by
  have escaped : Printable (escapeJoined s.toList) := by
    cases s.toList with
    | nil => exact fun c mem => nomatch mem
    | cons c cs =>
      refine (escape_printable isPrintable_marks true c).append (printable_join fun t mem => ?_)
      obtain ⟨d, -, rfl⟩ := List.mem_map.1 mem
      exact escape_printable isPrintable_marks false d
  exact ((printable_of_all (by decide)).append escaped).append (printable_of_all (by decide))

/-! ## Reading -/

/-- The number that digits of base sixteen write. -/
def hexNumber? (digits : List Char) : Option Nat :=
  digits.foldlM (fun n c => (Json.hexDigit? c).map (16 * n + ·)) 0

/-- The digits of a number write the number. -/
theorem hexNumber?_toDigits (n : Nat) : hexNumber? (Nat.toDigits 16 n) = some n := by
  induction n using Nat.strongRecOn with
  | ind n ih =>
    by_cases small : n < 16
    · rw [Nat.toDigits_of_lt_base small]
      simp [hexNumber?, Json.Reader.hexDigit?_digitChar n small]
    · have front := ih (n / 16) (by omega)
      rw [hexNumber?] at front
      rw [Nat.toDigits_of_base_le (by decide) (by omega), hexNumber?, List.foldlM_append, front]
      simp [Json.Reader.hexDigit?_digitChar (n % 16) (by omega), Nat.div_add_mod]

/-- Reads one character of a quoted text, and what stands behind it. -/
def readChar? : List Char → Option (Char × List Char)
  | '\\' :: 'u' :: '\x7b' :: rest =>
    (hexNumber? (rest.takeWhile (· != '\x7d'))).map fun n =>
      (Char.ofNat n, (rest.dropWhile (· != '\x7d')).drop 1)
  | '\\' :: '0' :: rest => some ('\x00', rest)
  | '\\' :: 't' :: rest => some ('\t', rest)
  | '\\' :: 'r' :: rest => some ('\r', rest)
  | '\\' :: 'n' :: rest => some ('\n', rest)
  | '\\' :: c :: rest => some (c, rest)
  | c :: rest => some (c, rest)
  | [] => none

/-- A character that is no backslash stands for itself. -/
theorem readChar?_plain {c : Char} (plain : c ≠ '\\') (rest : List Char) :
    readChar? (c :: rest) = some (c, rest) := by
  simp [readChar?, plain]

/-- None of the digits of base sixteen is a brace. -/
private theorem digitChar_ne_brace : ∀ d < 16, (Nat.digitChar d != '\x7d') = true := by decide

/-- An escaped character is read as itself. -/
theorem readChar?_escape {marks : List Char} (quotes : marks ⊆ ['"', '\'']) (split : Bool)
    (c : Char) (rest : List Char) :
    readChar? ((escape marks split c).toList ++ rest) = some (c, rest) := by
  rw [escape]
  split_ifs with nul tab feed line slash mark special
  · rw [nul]; rfl
  · rw [tab]; rfl
  · rw [feed]; rfl
  · rw [line]; rfl
  · rw [slash]; rfl
  · have either : c = '"' ∨ c = '\'' := by simpa using quotes mark
    rcases either with rfl | rfl <;> rfl
  · -- the digits end at the brace
    have digits : ∀ d ∈ Nat.toDigits 16 c.toNat, (d != '\x7d') = true := by
      intro d mem
      obtain ⟨n, small, rfl⟩ := mem_toDigits_sixteen c.toNat d mem
      exact digitChar_ne_brace n small
    have spelled : ("\\u\x7b" ++ hex c.toNat ++ "\x7d").toList ++ rest
        = '\\' :: 'u' :: '\x7b' :: (Nat.toDigits 16 c.toNat ++ '\x7d' :: rest) := by
      simp [hex]
    rw [spelled, readChar?, List.takeWhile_append_of_pos digits,
      List.dropWhile_append_of_pos digits]
    simp [hexNumber?_toDigits]
  · rw [Char.toString_eq_singleton, String.toList_singleton, List.singleton_append,
      readChar?_plain slash]

section Injective

variable {marks : List Char} (quotes : marks ⊆ ['"', '\'']) {split : Bool}

include quotes

/-- What is escaped the same, with anything behind it, is the same. -/
theorem eq_of_escape_append {c d : Char} {rest rest' : List Char}
    (eq : (escape marks split c).toList ++ rest = (escape marks split d).toList ++ rest') :
    c = d ∧ rest = rest' := by
  have read := readChar?_escape quotes split c rest
  rw [eq, readChar?_escape quotes split d rest', Option.some.injEq, Prod.mk.injEq] at read
  exact ⟨read.1.symm, read.2.symm⟩

/-- An escaped character is not lost. -/
theorem escape_ne_nil (c : Char) : (escape marks split c).toList ≠ [] := by
  intro empty
  have read := readChar?_escape quotes split c []
  rw [empty] at read
  cases read

/-- Texts whose characters are escaped the same are the same. -/
theorem eq_of_flatMap_escape {cs ds : List Char}
    (eq : cs.flatMap (fun c => (escape marks split c).toList)
      = ds.flatMap fun c => (escape marks split c).toList) : cs = ds := by
  induction cs generalizing ds with
  | nil =>
    cases ds with
    | nil => rfl
    | cons d ds => exact absurd (List.append_eq_nil_iff.1 eq.symm).1 (escape_ne_nil quotes d)
  | cons c cs ih =>
    cases ds with
    | nil => exact absurd (List.append_eq_nil_iff.1 eq).1 (escape_ne_nil quotes c)
    | cons d ds =>
      obtain ⟨rfl, behind⟩ := eq_of_escape_append quotes eq
      rw [ih behind]

end Injective

/-- **Different texts.** Two texts are quoted the same if and only if they are the same. -/
theorem quote_inj {s t : String} : quote s = quote t ↔ s = t := by
  refine ⟨fun eq => ?_, congrArg quote⟩
  have chars := congrArg String.toList eq
  simp only [quote, String.toList_append, String.toList_join, List.flatMap_map,
    List.append_left_inj, List.append_right_inj] at chars
  exact String.toList_inj.1 (eq_of_flatMap_escape (by simp) chars)

/-- Two characters are quoted the same if and only if they are the same. -/
theorem quoteChar_inj {c d : Char} : quoteChar c = quoteChar d ↔ c = d := by
  refine ⟨fun eq => ?_, congrArg quoteChar⟩
  have chars := congrArg String.toList eq
  simp only [quoteChar, String.toList_append, List.append_left_inj, List.append_right_inj] at chars
  exact (eq_of_escape_append (by simp) (congrArg (· ++ []) chars)).1

/-- Two texts whose marks stay joined are quoted the same if and only if they are the same. -/
theorem quoteJoined_inj {s t : String} : quoteJoined s = quoteJoined t ↔ s = t := by
  refine ⟨fun eq => ?_, congrArg quoteJoined⟩
  have chars := congrArg String.toList eq
  simp only [quoteJoined, String.toList_append, List.append_left_inj, List.append_right_inj]
    at chars
  refine String.toList_inj.1 ?_
  generalize s.toList = cs, t.toList = ds at chars
  -- the first character is escaped by other rules than the rest
  have quotes : ['"', '\''] ⊆ ['"', '\''] := List.Subset.refl _
  cases cs with
  | nil =>
    cases ds with
    | nil => rfl
    | cons d ds =>
      rw [escapeJoined, escapeJoined, String.toList_append] at chars
      exact absurd (List.append_eq_nil_iff.1 chars.symm).1 (escape_ne_nil quotes d)
  | cons c cs =>
    cases ds with
    | nil =>
      rw [escapeJoined, escapeJoined, String.toList_append] at chars
      exact absurd (List.append_eq_nil_iff.1 chars).1 (escape_ne_nil quotes c)
    | cons d ds =>
      rw [escapeJoined, escapeJoined, String.toList_append, String.toList_append] at chars
      obtain ⟨rfl, behind⟩ := eq_of_escape_append quotes chars
      simp only [String.toList_join, List.flatMap_map] at behind
      rw [eq_of_flatMap_escape quotes behind]

end Logline.Text
