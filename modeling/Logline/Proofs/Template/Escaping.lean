import Logline.Message
import Logline.Proofs.Template.Filling

/-! # Escaping

A text without `\{}` can be written so that a template shows it as it is: each `{}` in it gets a
backslash, and where it ends with a backslash, that is doubled, since a slot comes behind it. With
literals written so between its slots, a template shows the literals and the texts of the arguments
in turn.

* `Template.escape` — a literal as it is written in front of a slot
* `Template.scan_escaped` — a scan reads it back
* `Message.ofArray_escape` — a message of literals and arguments in turn -/

namespace Logline

namespace Template

/-! ## Literals as they are written -/

/-- A text with a backslash in front of each slot. -/
def escapeSlots : List Char → List Char
  | [] => []
  | '{' :: '}' :: rest => '\\' :: '{' :: '}' :: escapeSlots rest
  | c :: rest => c :: escapeSlots rest

/-- A backslash behind a text that ends with one. -/
def closing (s : List Char) : List Char := if s.getLast? = some '\\' then ['\\'] else []

/-- A literal as it is written in front of a slot. -/
def escape (literal : String) : String :=
  String.ofList (escapeSlots literal.toList ++ closing literal.toList)

/-- A template of literals, each in front of a slot, and the text behind the last slot. -/
def ofLiterals (literals : List String) (last : String) : String :=
  String.join (literals.map fun literal => escape literal ++ "{}") ++ last

example : ofLiterals ["{}\\", "b"] "\\{}" = "\\{}\\\\{}b{}\\{}" := by decide

/-- Whether a text ends with a backslash depends on its last part only. -/
theorem closing_append {s s' : List Char} (ne : s' ≠ []) : closing (s ++ s') = closing s' := by
  rw [closing, closing, List.getLast?_append, List.getLast?_eq_some_getLast ne]
  rfl

/-! ## Literals as they are read -/

section Reading
variable {before lead rest : List Char} {count : Nat}

/-- A doubled backslash in front of a slot is read as one. -/
theorem scan_slash_open :
    scan (count + 1) ('\\' :: before) lead ('\\' :: '{' :: '}' :: rest)
      = .literal lead.reverse :: .slot
          :: scan count ('}' :: '{' :: '\\' :: '\\' :: before) [] rest := by
  rw [scan_plain (by simp), scan_two_slashes, List.tail_cons]

/-- An escaped slot is read as plain braces. -/
theorem scan_escaped_slot (no_slash : before.head? ≠ some '\\') :
    scan (count + 1) before lead ('\\' :: '{' :: '}' :: rest)
      = .literal ('{' :: lead).reverse
          :: scan (count + 1) ('}' :: '{' :: '\\' :: before) ['}'] rest := by
  rw [scan_plain (by simp), scan_one_slash no_slash, List.tail_cons]

/-- What is written of a text begins with a closing brace only if the text does. -/
theorem eq_of_escapeSlots_append {c : Char} {s more tail : List Char}
    (begins : escapeSlots (c :: s) ++ more = '}' :: tail) : c = '}' := by
  rw [escapeSlots.eq_def] at begins
  split at begins
  · contradiction
  · exact absurd (List.cons.inj begins).1 (by decide)
  · rename_i split
    rw [(List.cons.inj split).1, (List.cons.inj begins).1]

/-- A character in front that is no backslash does not matter for the end. -/
theorem closing_take_one_append (start : before.head? ≠ some '\\') (s : List Char) :
    closing (before.take 1 ++ s) = closing s := by
  cases s with
  | nil =>
    cases before with
    | nil => rfl
    | cons c before =>
      rw [List.append_nil, closing, if_neg]
      · rfl
      · exact start
  | cons c s => exact closing_append (List.cons_ne_nil c s)

/-- **An escaped literal is read back**, up to the slot behind it. -/
theorem scan_escaped (s rest before lead : List Char) (count : Nat)
    (plain : ¬ ['\\', '{', '}'] <:+: before.take 1 ++ s) :
    ∃ (front : List (List Char)) (before' : List Char),
      scan (count + 1) before lead
          (escapeSlots s ++ (closing (before.take 1 ++ s) ++ '{' :: '}' :: rest))
        = front.map Piece.literal ++ .slot :: scan count ('}' :: before') [] rest ∧
      front.flatten = lead.reverse ++ s := by
  -- along the literal; what comes before it matters by its last character only
  fun_induction escapeSlots s generalizing before lead with
  | case1 =>
    by_cases slash : before.head? = some '\\'
    · obtain ⟨before, rfl⟩ := List.head?_eq_some_iff.1 slash
      exact ⟨[lead.reverse], _, scan_slash_open, by simp⟩
    · rw [closing_take_one_append slash]
      exact ⟨[lead.reverse], _, scan_open slash, by simp⟩
  | case2 s ih =>
    have no_slash : before.head? ≠ some '\\' := by
      intro slash
      obtain ⟨before, rfl⟩ := List.head?_eq_some_iff.1 slash
      exact plain ⟨[], s, rfl⟩
    have suffix : ['}'] ++ s <:+ before.take 1 ++ '{' :: '}' :: s :=
      ⟨before.take 1 ++ ['{'], by simp⟩
    obtain ⟨front, before', read, flat⟩ :=
      ih ('}' :: '{' :: '\\' :: before) ['}'] fun within => plain (within.trans suffix.isInfix)
    have ends : closing (before.take 1 ++ '{' :: '}' :: s) = closing (['}'] ++ s) := by
      obtain ⟨front, split⟩ := suffix
      rw [← split, closing_append (by simp)]
    refine ⟨('{' :: lead).reverse :: front, before', ?_, ?_⟩
    · rw [ends, List.cons_append, List.cons_append, List.cons_append, scan_escaped_slot no_slash]
      exact congrArg _ read
    · rw [List.flatten_cons, flat]
      simp
  | case3 c s not_slot ih =>
    have suffix : [c] ++ s <:+ before.take 1 ++ c :: s := ⟨before.take 1, rfl⟩
    obtain ⟨front, before', read, flat⟩ :=
      ih (c :: before) (c :: lead) fun within => plain (within.trans suffix.isInfix)
    have ends : closing (before.take 1 ++ c :: s) = closing ([c] ++ s) :=
      closing_append (List.cons_ne_nil c s)
    refine ⟨front, before', ?_, ?_⟩
    · rw [ends, List.cons_append, scan_plain]
      · exact read
      · rintro tail rfl begins
        cases s with
        | nil => exact absurd (List.cons.inj begins).1 (by decide)
        | cons d s => exact not_slot s rfl (by rw [eq_of_escapeSlots_append begins])
    · rw [flat]
      simp

/-- A character in front that is no backslash escapes no slot. -/
theorem not_isInfix_take_one_append {s : List Char} (start : before.head? ≠ some '\\')
    (plain : ¬ ['\\', '{', '}'] <:+: s) : ¬ ['\\', '{', '}'] <:+: before.take 1 ++ s := by
  cases before with
  | nil => exact plain
  | cons c before =>
    rintro within
    rcases List.infix_cons_iff.1 within with ⟨tail, whole⟩ | within
    · rw [← (List.cons.inj whole).1] at start
      exact start rfl
    · exact plain within

/-- Where no backslash comes before it, a literal is read back with the slot behind it. -/
theorem scan_escape {literal : String} (plain : ¬ ['\\', '{', '}'] <:+: literal.toList)
    (start : before.head? ≠ some '\\') (rest : List Char) (count : Nat) :
    ∃ (front : List (List Char)) (before' : List Char),
      scan (count + 1) before [] ((escape literal ++ "{}").toList ++ rest)
        = front.map Piece.literal ++ .slot :: scan count ('}' :: before') [] rest ∧
      front.flatten = literal.toList := by
  have read := scan_escaped literal.toList rest before [] count
    (not_isInfix_take_one_append start plain)
  rw [closing_take_one_append start] at read
  simpa [escape, String.toList_append] using read

end Reading

/-! ## Whole templates -/

/-- Literals in front come out one after the other. -/
theorem assemble_literals (front : List (List Char)) (ps : List Piece) (texts : List String) :
    assemble (front.map Piece.literal ++ ps) texts = front.flatten ++ assemble ps texts := by
  induction front with
  | nil => rfl
  | cons s front ih =>
    rw [List.map_cons, List.cons_append, assemble, ih, List.flatten_cons, List.append_assoc]

/-- Literals have no slots. -/
theorem count_literals (front : List (List Char)) (ps : List Piece) :
    (front.map Piece.literal ++ ps).count .slot = ps.count .slot := by
  induction front with
  | nil => rfl
  | cons s front ih => rw [List.map_cons, List.cons_append, List.count_cons_of_ne (by simp), ih]

/-- A template of literals has a slot behind each, and shows each in front of a text. -/
theorem scan_ofLiterals {literals : List String} (last : String) (before : List Char)
    (plain : ∀ literal ∈ literals, ¬ ['\\', '{', '}'] <:+: literal.toList)
    (start : before.head? ≠ some '\\') :
    (scan literals.length before [] (ofLiterals literals last).toList).count .slot
        = literals.length ∧
    ∀ texts : List String, texts.length = literals.length →
      String.ofList
          (assemble (scan literals.length before [] (ofLiterals literals last).toList) texts)
        = String.join (List.zipWith (· ++ ·) literals texts) ++ last := by
  induction literals generalizing before with
  | nil =>
    refine ⟨by simp [scan], fun texts _ => ?_⟩
    simp [ofLiterals, scan, assemble]
  | cons literal literals ih =>
    have whole : (ofLiterals (literal :: literals) last).toList
        = (escape literal ++ "{}").toList ++ (ofLiterals literals last).toList := by
      simp [ofLiterals, String.append_assoc]
    -- the first literal is read back, and a closing brace stands in front of the next one
    obtain ⟨front, before', read, flat⟩ :=
      scan_escape (plain literal List.mem_cons_self) start (ofLiterals literals last).toList
        literals.length
    obtain ⟨count, shows⟩ := ih ('}' :: before')
      (fun other mem => plain other (List.mem_cons_of_mem literal mem)) (by simp)
    rw [List.length_cons, whole, read]
    refine ⟨?_, fun texts length => ?_⟩
    · rw [count_literals, List.count_cons_self, count]
    · cases texts with
      | nil => simp at length
      | cons text texts =>
        have others := shows texts (by simpa using length)
        rw [assemble_literals, assemble, flat, String.ofList_append, String.ofList_append, others,
          String.ofList_toList, String.ofList_toList, List.zipWith_cons_cons]
        simp [String.append_assoc]

end Template

namespace Message
open Template

/-- Arguments that do not end with a throwable are all for the template. -/
theorem splitThrowable_of_ne {args : List Value}
    (no_throwable : ∀ id, args.getLast? ≠ some (.throwable id)) :
    splitThrowable args = (args, none) := by
  rw [splitThrowable]
  split
  · next id last => exact absurd last (no_throwable id)
  · rfl

/-- **Escaping goes away again**: a template of escaped literals, each in front of a slot, shows the
literals and the texts of the arguments in turn, and behind them what comes behind the last slot. -/
theorem ofArray_escape {literals : List String} {args : List Value} (last : String)
    (plain : ∀ literal ∈ literals, ¬ ['\\', '{', '}'] <:+: literal.toList)
    (each : args.length = literals.length)
    (no_throwable : ∀ id, args.getLast? ≠ some (.throwable id)) (h : Heap)
    (attempts : List Attempt) :
    ofArray h attempts (some (ofLiterals literals last)) args =
      (⟨some (String.join (List.zipWith (· ++ ·) literals (Value.renderAll h attempts args).1)
          ++ last), args, none⟩, (Value.renderAll h attempts args).2) := by
  obtain ⟨count, shows⟩ := scan_ofLiterals last [] plain (by simp)
  have used : args.take ((pieces args.length (ofLiterals literals last)).count .slot) = args := by
    rw [pieces, each, count, ← each, List.take_length]
  have text := shows (Value.renderAll h attempts args).1 (by rw [Value.length_renderAll, each])
  simp only [ofArray, splitThrowable_of_ne no_throwable, ofArguments, fill_eq_assemble, used]
  rw [pieces, each, text]

/-- A slot and a backslash in a literal, and both in an argument and behind the last slot. -/
theorem ofArray_escape_braces :
    (∀ literal ∈ ["{}\\", "b"], ¬ ['\\', '{', '}'] <:+: literal.toList) ∧
    [Value.int 1, .text "\\{}"].length = ["{}\\", "b"].length ∧
    (∀ id, [Value.int 1, .text "\\{}"].getLast? ≠ some (.throwable id)) ∧
    (ofArray Heap.empty [] (some (ofLiterals ["{}\\", "b"] "\\{}")) [.int 1, .text "\\{}"]).1.text
      = some "{}\\1b\\{}\\{}" := by
  have plain : ∀ literal ∈ ["{}\\", "b"], ¬ ['\\', '{', '}'] <:+: literal.toList := by decide
  have no_throwable : ∀ id, [Value.int 1, .text "\\{}"].getLast? ≠ some (.throwable id) := by
    simp
  refine ⟨plain, rfl, no_throwable, ?_⟩
  rw [ofArray_escape "\\{}" plain rfl no_throwable]
  decide

end Message

end Logline
