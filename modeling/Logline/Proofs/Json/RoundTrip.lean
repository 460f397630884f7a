import Logline.Proofs.Json.Reader
import Mathlib.Tactic.SplitIfs

/-! # Reading what was written

The text of a JSON value is read back as that value, whatever strings stand in it, and it is one
line without control characters.

* `Json.spelled` — whether all numbers of a value are numbers of the grammar
* `Reader.run_text` — what the text of a value does to a reader that stands in front of a value
* `Json.read_text` — the round trip
* `Json.text_clean` — no character of the text of a value is a control character -/

namespace Logline.Json

mutual

/-- Whether all numbers of a value are numbers of the grammar. -/
def spelled : Json → Bool
  | .number literal => (NumberPart.ofLiteral literal.toList).any NumberPart.ends
  | .array items => itemsSpelled items
  | .object members => membersSpelled members
  | _ => true

/-- Whether all numbers of items are. -/
def itemsSpelled : List Json → Bool
  | [] => true
  | j :: rest => j.spelled && itemsSpelled rest

/-- Whether all numbers of members are. -/
def membersSpelled : List (String × Json) → Bool
  | [] => true
  | (_, j) :: rest => j.spelled && membersSpelled rest

end

/-- Items are spelled when each of them is. -/
theorem itemsSpelled_iff (items : List Json) :
    itemsSpelled items = true ↔ ∀ j ∈ items, j.spelled = true := by
  induction items with
  | nil => simp [itemsSpelled]
  | cons j items ih => simp [itemsSpelled, ih]

/-- Members are spelled when each of their values is. -/
theorem membersSpelled_iff (members : List (String × Json)) :
    membersSpelled members = true ↔ ∀ m ∈ members, m.2.spelled = true := by
  induction members with
  | nil => simp [membersSpelled]
  | cons m members ih =>
    obtain ⟨key, j⟩ := m
    simp [membersSpelled, ih]

/-! ## Characters of texts -/

/-- A quoted string is its escaped characters between quotation marks. -/
theorem toList_quote (s : String) :
    (quote s).toList = '"' :: (s.toList.flatMap escape ++ ['"']) := by
  simp [quote]

/-- The text of an array is that of its items between brackets. -/
theorem toList_text_array (items : List Json) :
    (text (.array items)).toList = '[' :: ((textOfItems items).toList ++ [']']) := by
  simp [text]

/-- The text of an object is that of its members between braces. -/
theorem toList_text_object (members : List (String × Json)) :
    (text (.object members)).toList = '{' :: ((textOfMembers members).toList ++ ['}']) := by
  simp [text]

/-- A comma stands between two items. -/
theorem toList_textOfItems_cons (j k : Json) (rest : List Json) :
    (textOfItems (j :: k :: rest)).toList
      = j.text.toList ++ ',' :: (textOfItems (k :: rest)).toList := by
  simp [textOfItems]

/-- A member is its key, a colon and its value. -/
theorem toList_textOfMembers_singleton (key : String) (j : Json) :
    (textOfMembers [(key, j)]).toList = (quote key).toList ++ ':' :: j.text.toList := by
  simp [textOfMembers]

/-- A comma stands between two members. -/
theorem toList_textOfMembers_cons (key : String) (j : Json) (m : String × Json)
    (rest : List (String × Json)) :
    (textOfMembers ((key, j) :: m :: rest)).toList
      = (quote key).toList ++ ':' ::
        (j.text.toList ++ ',' :: (textOfMembers (m :: rest)).toList) := by
  simp [textOfMembers]

namespace Reader

/-- A text is read piece by piece. -/
theorem run_append (r : Reader) (cs ds : List Char) :
    run r (cs ++ ds) = (run r cs).bind fun r => run r ds :=
  List.foldlM_append

/-- A text is read character by character. -/
theorem run_cons (r : Reader) (c : Char) (cs : List Char) :
    run r (c :: cs) = (step r c).bind fun r => run r cs :=
  List.foldlM_cons

/-- The empty text leaves a reader where it is. -/
@[simp] theorem run_nil (r : Reader) : run r [] = some r := rfl

/-! ## Strings -/

/-- The digits of base sixteen are read as the numbers that they write. -/
theorem hexDigit?_digitChar : ∀ n < 16, hexDigit? (Nat.digitChar n) = some n := by decide

/-- An escaped character is read as itself. -/
theorem run_escape (frames : List Frame) (isKey : Bool) (chars : List Char) (c : Char) :
    run ⟨frames, .string isKey chars .none⟩ (escape c)
      = some ⟨frames, .string isKey (chars ++ [c]) .none⟩ := by
  unfold escape
  split_ifs with h₁ h₂ h₃ h₄ h₅ h₆ h₇ h₈
  · subst h₁; rfl
  · subst h₂; rfl
  · subst h₃; rfl
  · subst h₄; rfl
  · subst h₅; rfl
  · subst h₆; rfl
  · subst h₇; rfl
  · -- a control character: four digits that have its code for their value
    have high := hexDigit?_digitChar (c.toNat / 16) (by omega)
    have low := hexDigit?_digitChar (c.toNat % 16) (by omega)
    have code : 16 * (c.toNat / 16) + c.toNat % 16 = c.toNat := Nat.div_add_mod _ _
    have decoded : decode none c.toNat = some (.inl c) := by
      have not_high : ¬ (0xD800 ≤ c.toNat ∧ c.toNat < 0xDC00) := by omega
      have not_low : ¬ (0xDC00 ≤ c.toNat ∧ c.toNat < 0xE000) := by omega
      rw [decode, if_neg not_high, if_neg not_low, Char.ofNat_toNat]
    have zero : hexDigit? '0' = some 0 := by decide
    simp [run, step, inString, zero, high, low, code, decoded]
  · simp [run, step, inString, h₁, h₂, h₈]

/-- Escaped characters are read as themselves. -/
theorem run_escapes (frames : List Frame) (isKey : Bool) (chars cs : List Char) :
    run ⟨frames, .string isKey chars .none⟩ (cs.flatMap escape)
      = some ⟨frames, .string isKey (chars ++ cs) .none⟩ := by
  induction cs generalizing chars with
  | nil => simp
  | cons c cs ih =>
    rw [List.flatMap_cons, run_append, run_escape, Option.bind_some, ih, List.append_assoc,
      List.singleton_append]

/-- What stands between quotation marks is read as the string that was quoted. -/
theorem run_quoted (frames : List Frame) (isKey : Bool) (s : String) :
    run ⟨frames, .string isKey [] .none⟩ (s.toList.flatMap escape ++ ['"'])
      = some ⟨frames, if isKey then .colon s else .done (.string s)⟩ := by
  rw [run_append, run_escapes, Option.bind_some, List.nil_append]
  simp [run, step, inString]

/-- A quoted key leads from the place in front of a key to the one in front of its colon. -/
theorem run_key (frames : List Frame) (first : Bool) (key : String) :
    run ⟨frames, .key first⟩ (quote key).toList = some ⟨frames, .colon key⟩ := by
  have begins : step ⟨frames, .key first⟩ '"' = some ⟨frames, .string true [] .none⟩ := by
    cases first <;> rfl
  rw [toList_quote, run_cons, begins, Option.bind_some, run_quoted]
  rfl

/-- A colon leads from a key to the value of the member. -/
theorem step_colon (frames : List Frame) (done : List (String × Json)) (key : String) :
    step ⟨.members done :: frames, .colon key⟩ ':'
      = some ⟨.member done key :: frames, .value false⟩ := rfl

/-! ## Numbers -/

/-- The characters of a number lead to its last place. -/
theorem run_number (frames : List Frame) (literal cs : List Char) (part part' : NumberPart)
    (ends : cs.foldlM (fun part c => part.next c) part = some part') :
    run ⟨frames, .number literal part⟩ cs = some ⟨frames, .number (literal ++ cs) part'⟩ := by
  induction cs generalizing literal part with
  | nil =>
    cases ends
    rw [run_nil, List.append_nil]
  | cons c cs ih =>
    rw [List.foldlM_cons] at ends
    obtain ⟨middle, next, ends⟩ := Option.bind_eq_some_iff.1 ends
    have steps : step ⟨frames, .number literal part⟩ c
        = some ⟨frames, .number (literal ++ [c]) middle⟩ := by
      simp [step, next]
    rw [run_cons, steps, Option.bind_some, ih _ _ ends, List.append_assoc, List.singleton_append]

/-- The first character of a number begins a value. -/
theorem step_first (frames : List Frame) (first : Bool) {c : Char} {part : NumberPart}
    (begins : NumberPart.first c = some part) :
    step ⟨frames, .value first⟩ c = some ⟨frames, .number [c] part⟩ := by
  -- neither a blank, nor a bracket, nor the first letter of a word begins a number
  have digit : c = '-' ∨ c.isDigit = true := by
    unfold NumberPart.first at begins
    split_ifs at begins with h₁ h₂ h₃
    · exact Or.inl h₁
    · subst h₂
      exact Or.inr rfl
    · exact Or.inr h₃
  have other : ∀ d : Char, d ≠ '-' → d.isDigit = false → c ≠ d := by
    rintro d not_minus not_digit rfl
    rcases digit with minus | digit
    · exact not_minus minus
    · rw [not_digit] at digit
      cases digit
  have blank : isBlank c = false := by
    simp [isBlank, other ' ', other '\t', other '\n', other '\r']
  simp [step, begin, blank, begins, other ']', other '"', other '[', other '{', other 'n',
    other 't', other 'f']

/-! ## Values -/

/-- A reader stands **behind** a value: it has read the value, or a number that may end. -/
def Behind (frames : List Frame) (j : Json) (r : Reader) : Prop :=
  r = ⟨frames, .done j⟩ ∨ ∃ literal part, j = .number literal ∧
    r = ⟨frames, .number literal.toList part⟩ ∧ part.ends = true

/-- Behind the outermost value the reader gives that value. -/
theorem Behind.finish? {j : Json} {r : Reader} (behind : Behind [] j r) : r.finish? = some j := by
  rcases behind with rfl | ⟨literal, part, rfl, rfl, ends⟩
  · rfl
  · simp [Reader.finish?, ends]

/-- A comma or a bracket behind a value ends it. -/
theorem Behind.step {frames : List Frame} {j : Json} {r : Reader} (behind : Behind frames j r)
    {c : Char} (delimits : c = ',' ∨ c = ']' ∨ c = '}') : r.step c = goOn frames j c := by
  rcases behind with rfl | ⟨literal, part, rfl, rfl, ends⟩
  · rfl
  · have next : part.next c = none := by
      rcases delimits with rfl | rfl | rfl <;> cases part <;> rfl
    simp [Reader.step, next, ends]

mutual

/-- **Reading a value.** The text of a value leads from a place in front of a value to the place
behind it. -/
theorem run_text : (j : Json) → j.spelled = true → (frames : List Frame) → (first : Bool) →
    ∃ r, run ⟨frames, .value first⟩ j.text.toList = some r ∧ Behind frames j r
  | .null, _, frames, first => by
    refine ⟨⟨frames, .done .null⟩, ?_, Or.inl rfl⟩
    cases first <;> simp [text] <;> rfl
  | .bool b, _, frames, first => by
    refine ⟨⟨frames, .done (.bool b)⟩, ?_, Or.inl rfl⟩
    cases first <;> cases b <;> simp [text] <;> rfl
  | .number literal, spelled, frames, first => by
    simp only [Json.spelled, Option.any_eq_true] at spelled
    obtain ⟨part', whole, ends⟩ := spelled
    refine ⟨⟨frames, .number literal.toList part'⟩, ?_, Or.inr ⟨literal, part', rfl, rfl, ends⟩⟩
    rw [text]
    -- a literal is read as long as its own grammar goes on, and no further
    cases chars : literal.toList with
    | nil =>
      rw [chars] at whole
      cases whole
    | cons c cs =>
      rw [chars, NumberPart.ofLiteral] at whole
      obtain ⟨part, begins, whole⟩ := Option.bind_eq_some_iff.1 whole
      rw [run_cons, step_first frames first begins, Option.bind_some,
        run_number frames [c] cs part part' whole, List.singleton_append]
  | .string s, _, frames, first => by
    have begins : step ⟨frames, .value first⟩ '"' = some ⟨frames, .string false [] .none⟩ := by
      cases first <;> rfl
    refine ⟨⟨frames, .done (.string s)⟩, ?_, Or.inl rfl⟩
    rw [text, toList_quote, run_cons, begins, Option.bind_some, run_quoted]
    rfl
  | .array items, spelled, frames, first => by
    have begins : step ⟨frames, .value first⟩ '[' = some ⟨.items [] :: frames, .value true⟩ := by
      cases first <;> rfl
    refine ⟨⟨frames, .done (.array items)⟩, ?_, Or.inl rfl⟩
    rw [toList_text_array, run_cons, begins, Option.bind_some]
    cases items with
    | nil => rfl
    | cons j rest =>
      exact run_textOfItems (j :: rest) (List.cons_ne_nil _ _) spelled frames [] true
  | .object members, spelled, frames, first => by
    have begins : step ⟨frames, .value first⟩ '{' = some ⟨.members [] :: frames, .key true⟩ := by
      cases first <;> rfl
    refine ⟨⟨frames, .done (.object members)⟩, ?_, Or.inl rfl⟩
    rw [toList_text_object, run_cons, begins, Option.bind_some]
    cases members with
    | nil => rfl
    | cons m rest =>
      exact run_textOfMembers (m :: rest) (List.cons_ne_nil _ _) spelled frames [] true

/-- Items up to the end of their array. -/
theorem run_textOfItems : (items : List Json) → items ≠ [] → itemsSpelled items = true →
    (frames : List Frame) → (done : List Json) → (first : Bool) →
    run ⟨.items done :: frames, .value first⟩ ((textOfItems items).toList ++ [']'])
      = some ⟨frames, .done (.array (done ++ items))⟩
  | [], nonempty, _, _, _, _ => absurd rfl nonempty
  | [j], _, spelled, frames, done, first => by
    rw [itemsSpelled, Bool.and_eq_true] at spelled
    obtain ⟨r, reads, behind⟩ := run_text j spelled.1 (.items done :: frames) first
    rw [textOfItems, run_append, reads, Option.bind_some, run_cons,
      behind.step (Or.inr (Or.inl rfl))]
    rfl
  | j :: k :: rest, _, spelled, frames, done, first => by
    rw [itemsSpelled, Bool.and_eq_true] at spelled
    obtain ⟨r, reads, behind⟩ := run_text j spelled.1 (.items done :: frames) first
    have comma : r.step ',' = some ⟨.items (done ++ [j]) :: frames, .value false⟩ :=
      behind.step (Or.inl rfl)
    -- behind the comma the reader stands in front of the next item, with one more done
    have others := run_textOfItems (k :: rest) (List.cons_ne_nil _ _) spelled.2 frames
      (done ++ [j]) false
    rw [toList_textOfItems_cons, List.append_assoc, run_append, reads, Option.bind_some,
      List.cons_append, run_cons, comma, Option.bind_some, others, List.append_assoc,
      List.singleton_append]

/-- Members up to the end of their object. -/
theorem run_textOfMembers : (members : List (String × Json)) → members ≠ [] →
    membersSpelled members = true → (frames : List Frame) → (done : List (String × Json)) →
    (first : Bool) →
    run ⟨.members done :: frames, .key first⟩ ((textOfMembers members).toList ++ ['}'])
      = some ⟨frames, .done (.object (done ++ members))⟩
  | [], nonempty, _, _, _, _ => absurd rfl nonempty
  | [(key, j)], _, spelled, frames, done, first => by
    rw [membersSpelled, Bool.and_eq_true] at spelled
    obtain ⟨r, reads, behind⟩ := run_text j spelled.1 (.member done key :: frames) false
    rw [toList_textOfMembers_singleton, List.append_assoc, run_append, run_key, Option.bind_some,
      List.cons_append, run_cons, step_colon, Option.bind_some, run_append, reads,
      Option.bind_some, run_cons, behind.step (Or.inr (Or.inr rfl))]
    rfl
  | (key, j) :: m :: rest, _, spelled, frames, done, first => by
    rw [membersSpelled, Bool.and_eq_true] at spelled
    obtain ⟨r, reads, behind⟩ := run_text j spelled.1 (.member done key :: frames) false
    have comma : r.step ',' = some ⟨.members (done ++ [(key, j)]) :: frames, .key false⟩ :=
      behind.step (Or.inl rfl)
    -- behind the comma the reader stands in front of the next key, with one more done
    have others := run_textOfMembers (m :: rest) (List.cons_ne_nil _ _) spelled.2 frames
      (done ++ [(key, j)]) false
    rw [toList_textOfMembers_cons, List.append_assoc, run_append, run_key, Option.bind_some,
      List.cons_append, run_cons, step_colon, Option.bind_some, List.append_assoc, run_append,
      reads, Option.bind_some, List.cons_append, run_cons, comma, Option.bind_some, others,
      List.append_assoc, List.singleton_append]

end

end Reader

/-- **Round trip.** A value whose numbers are numbers of the grammar is read back from its text. -/
theorem read_text {j : Json} (spelled : j.spelled = true) : read j.text = some j := by
  obtain ⟨r, reads, behind⟩ := Reader.run_text j spelled [] false
  rw [read, reads, Option.bind_some, behind.finish?]

/-! ## One line -/

/-- No character of a text is a control character. -/
def Clean (cs : List Char) : Prop := ∀ c ∈ cs, 0x20 ≤ c.toNat

/-- Whether characters are clean is decided one by one. -/
instance (cs : List Char) : Decidable (Clean cs) :=
  decidable_of_iff (cs.all fun c => 0x20 ≤ c.toNat) (by simp [Clean])

/-- Two clean texts are clean as one. -/
theorem Clean.append {cs ds : List Char} (left : Clean cs) (right : Clean ds) : Clean (cs ++ ds) :=
  List.forall_mem_append.2 ⟨left, right⟩

/-- A character from the blank on keeps a text clean. -/
theorem Clean.cons {c : Char} {cs : List Char} (head : 0x20 ≤ c.toNat) (tail : Clean cs) :
    Clean (c :: cs) :=
  List.forall_mem_cons.2 ⟨head, tail⟩

/-- The **printable** characters of ASCII. -/
def Printable (c : Char) : Prop := 0x20 ≤ c.toNat ∧ c.toNat < 0x80

/-- Whether a character is printable is decided by its code. -/
instance (c : Char) : Decidable (Printable c) := inferInstanceAs (Decidable (_ ∧ _))

/-- Whether a text is printable is decided character by character, not over all characters. -/
theorem printable_of_all {cs : List Char} (all : (cs.all fun c => decide (Printable c)) = true) :
    ∀ c ∈ cs, Printable c := by
  simpa using all

/-- A character is escaped by printable characters, or it stands for itself. -/
theorem escape_cases (c : Char) :
    (∀ d ∈ escape c, Printable d) ∨ escape c = [c] ∧ 0x20 ≤ c.toNat := by
  have digits : ∀ n < 16, Printable (Nat.digitChar n) := by decide
  unfold escape
  split_ifs with h₁ h₂ h₃ h₄ h₅ h₆ h₇ control
  any_goals (left; apply printable_of_all; decide)
  · have high := digits (c.toNat / 16) (by omega)
    have low := digits (c.toNat % 16) (by omega)
    have front : ∀ d ∈ ['\\', 'u', '0', '0'], Printable d := printable_of_all (by decide)
    have back := List.forall_mem_cons.2 ⟨high, List.forall_mem_singleton.2 low⟩
    exact Or.inl (List.forall_mem_append.2 ⟨front, back⟩)
  · exact Or.inr ⟨rfl, Nat.not_lt.1 control⟩

/-- Escaping leaves no control character, whatever character is escaped. -/
theorem escape_clean (c : Char) : Clean (escape c) := by
  rcases escape_cases c with printable | ⟨itself, clean⟩
  · exact fun d mem => (printable d mem).1
  · rw [itself]
    exact List.forall_mem_singleton.2 clean

/-- A quoted string has no control characters, whatever stands in it. -/
theorem quote_clean (s : String) : Clean (quote s).toList := by
  have chars : Clean (s.toList.flatMap escape) := by
    intro d mem
    obtain ⟨c, -, mem⟩ := List.mem_flatMap.1 mem
    exact escape_clean c d mem
  rw [toList_quote]
  exact Clean.cons (by decide) (chars.append (by decide))

/-- Digits are printable. -/
theorem printable_of_isDigit {c : Char} (digit : c.isDigit = true) : Printable c := by
  simp only [Char.isDigit, Bool.and_eq_true, decide_eq_true_eq, ge_iff_le,
    UInt32.le_iff_toNat_le] at digit
  exact ⟨Nat.le_trans (by decide) digit.1, Nat.lt_of_le_of_lt digit.2 (by decide)⟩

namespace NumberPart

variable {c : Char} {part part' : NumberPart}

/-- The first character of a number is printable. -/
theorem printable_of_first (begins : first c = some part) : Printable c := by
  unfold first at begins
  split_ifs at begins with minus zero digit
  · exact minus ▸ by decide
  · exact zero ▸ by decide
  · exact printable_of_isDigit digit

/-- The characters that may stand behind digits of a number are printable. -/
theorem printable_of_behind (goes_on : behind c = some part) : Printable c := by
  unfold behind at goes_on
  split_ifs at goes_on with letter
  rcases letter with rfl | rfl <;> decide

/-- Every further character of a number is printable. -/
theorem printable_of_next (goes_on : part.next c = some part') : Printable c := by
  -- from each place in a number only a few characters lead on
  cases part with
  | minus =>
    simp only [next] at goes_on
    split_ifs at goes_on with zero digit
    · exact zero ▸ by decide
    · exact printable_of_isDigit digit
  | zero =>
    simp only [next] at goes_on
    split_ifs at goes_on with point
    · exact point ▸ by decide
    · exact printable_of_behind goes_on
  | whole =>
    simp only [next] at goes_on
    split_ifs at goes_on with digit point
    · exact printable_of_isDigit digit
    · exact point ▸ by decide
    · exact printable_of_behind goes_on
  | fraction =>
    simp only [next] at goes_on
    split_ifs at goes_on with digit
    · exact printable_of_isDigit digit
    · exact printable_of_behind goes_on
  | letter =>
    simp only [next] at goes_on
    split_ifs at goes_on with sign digit
    · rcases sign with rfl | rfl <;> decide
    · exact printable_of_isDigit digit
  | point | sign | exponent =>
    simp only [next] at goes_on
    split_ifs at goes_on with digit
    exact printable_of_isDigit digit

end NumberPart

/-- Numbers of the grammar are printable ASCII characters. -/
theorem number_printable {literal : List Char} {part : NumberPart}
    (whole : NumberPart.ofLiteral literal = some part) : ∀ c ∈ literal, Printable c := by
  -- by induction on what is left, from any place
  have rest : ∀ (cs : List Char) (part part' : NumberPart),
      cs.foldlM (fun part c => part.next c) part = some part' → ∀ c ∈ cs, Printable c := by
    intro cs
    induction cs with
    | nil => exact fun _ _ _ => List.forall_mem_nil _
    | cons c cs ih =>
      intro part part' whole
      rw [List.foldlM_cons] at whole
      obtain ⟨middle, next, whole⟩ := Option.bind_eq_some_iff.1 whole
      exact List.forall_mem_cons.2 ⟨NumberPart.printable_of_next next, ih middle part' whole⟩
  cases literal with
  | nil => exact List.forall_mem_nil _
  | cons c cs =>
    obtain ⟨part', begins, whole⟩ := Option.bind_eq_some_iff.1 whole
    exact List.forall_mem_cons.2 ⟨NumberPart.printable_of_first begins, rest cs part' part whole⟩

mutual

/-- The text of a value has no control characters. -/
theorem text_clean : (j : Json) → j.spelled = true → Clean j.text.toList
  | .null, _ => by decide
  | .bool b, _ => by cases b <;> decide
  | .number literal, spelled => by
    simp only [Json.spelled, Option.any_eq_true] at spelled
    obtain ⟨part, whole, -⟩ := spelled
    exact fun c mem => (number_printable whole c mem).1
  | .string s, _ => quote_clean s
  | .array items, spelled => by
    rw [toList_text_array]
    exact Clean.cons (by decide) ((textOfItems_clean items spelled).append (by decide))
  | .object members, spelled => by
    rw [toList_text_object]
    exact Clean.cons (by decide) ((textOfMembers_clean members spelled).append (by decide))

/-- The items of an array are written without control characters. -/
theorem textOfItems_clean : (items : List Json) → itemsSpelled items = true →
    Clean (textOfItems items).toList
  | [], _ => by decide
  | [j], spelled => by
    rw [itemsSpelled, Bool.and_eq_true] at spelled
    exact text_clean j spelled.1
  | j :: k :: rest, spelled => by
    rw [itemsSpelled, Bool.and_eq_true] at spelled
    rw [toList_textOfItems_cons]
    exact (text_clean j spelled.1).append
      (Clean.cons (by decide) (textOfItems_clean (k :: rest) spelled.2))

/-- The members of an object are written without control characters. -/
theorem textOfMembers_clean : (members : List (String × Json)) → membersSpelled members = true →
    Clean (textOfMembers members).toList
  | [], _ => by decide
  | [(key, j)], spelled => by
    rw [membersSpelled, Bool.and_eq_true] at spelled
    rw [toList_textOfMembers_singleton]
    exact (quote_clean key).append (Clean.cons (by decide) (text_clean j spelled.1))
  | (key, j) :: m :: rest, spelled => by
    rw [membersSpelled, Bool.and_eq_true] at spelled
    rw [toList_textOfMembers_cons]
    refine (quote_clean key).append (Clean.cons (by decide) ((text_clean j spelled.1).append ?_))
    exact Clean.cons (by decide) (textOfMembers_clean (m :: rest) spelled.2)

end

end Logline.Json
