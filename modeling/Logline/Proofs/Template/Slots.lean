import Logline.Template

/-! # Slots by their places

What a template means, said of its places without reading it from left to right. A slot begins at a
place where an opening brace stands in front of a closing one; one backslash in front of it, but not
two, makes it plain text. Braces and backslashes are single bytes wherever they stand, so places may
be counted in characters or in bytes.

* `Template.IsSlot`, `Template.IsEscaped`, `Template.IsOpen` — slots, escaped slots and all others
* `Template.headEnd` — the end of the head, which the arguments are for
* `Template.filled` — the head with every place replaced, and the tail as it stands
* `Template.filledFrom` — the same from a place on, with an equation for each kind of place -/

namespace Logline.Template

/-! ## Places -/

/-- Whether a slot begins at a place. -/
def IsSlot (t : List Char) (j : Nat) : Prop := t[j]? = some '{' ∧ t[j + 1]? = some '}'

/-- Whether a backslash stands at a distance in front of a place. -/
def SlashBefore (t : List Char) (distance j : Nat) : Prop :=
  distance ≤ j ∧ t[j - distance]? = some '\\'

/-- A slot is **escaped** if a backslash stands in front of it and none in front of that one. -/
def IsEscaped (t : List Char) (j : Nat) : Prop :=
  IsSlot t j ∧ SlashBefore t 1 j ∧ ¬ SlashBefore t 2 j

/-- A slot is **open** if it is not escaped. -/
def IsOpen (t : List Char) (j : Nat) : Prop := IsSlot t j ∧ ¬ IsEscaped t j

instance (t : List Char) (j : Nat) : Decidable (IsSlot t j) :=
  inferInstanceAs (Decidable (_ ∧ _))

instance (t : List Char) (distance j : Nat) : Decidable (SlashBefore t distance j) :=
  inferInstanceAs (Decidable (_ ∧ _))

instance (t : List Char) (j : Nat) : Decidable (IsEscaped t j) :=
  inferInstanceAs (Decidable (_ ∧ _))

instance (t : List Char) (j : Nat) : Decidable (IsOpen t j) :=
  inferInstanceAs (Decidable (_ ∧ _))

/-- The open slots in front of a place. -/
def openBefore (t : List Char) (i : Nat) : List Nat := (List.range i).filter (IsOpen t)

/-- The open slots of a template. -/
def openSlots (t : List Char) : List Nat := openBefore t t.length

/-- The end of the **head** for some arguments: behind the slot of the last argument, or the end of
the template where there are not so many open slots. -/
def headEnd (t : List Char) : (count : Nat) → Nat
  | 0 => 0
  | count + 1 => ((openSlots t)[count]?).elim t.length (· + 2)

/-- What is shown for a place of the head: nothing for a backslash directly in front of a slot, the
text of the argument for an open slot, and otherwise the character itself. -/
def shown (t : List Char) (texts : List String) (i : Nat) : List Char :=
  if t[i]? = some '\\' ∧ IsSlot t (i + 1) then []
  else if IsOpen t i then ((texts[(openBefore t i).length]?).getD "").toList
  else if 1 ≤ i ∧ IsOpen t (i - 1) then []
  else t[i]?.toList

/-- A template with texts for its first `count` open slots: the head as it is shown, and behind it
the tail as it stands. -/
def filled (t : String) (count : Nat) (texts : List String) : String :=
  let cs := t.toList
  String.ofList ((List.range (headEnd cs count)).flatMap (shown cs texts)
    ++ cs.drop (headEnd cs count))

example : filled "a{} \\{} \\\\{} {}" 2 ["x{}", "y"] = "ax{} {} \\y {}" := by decide

variable {t : List Char} {i count : Nat}

/-! ## Open slots from a place on -/

/-- The open slots from a place on. -/
def openFrom (t : List Char) (i : Nat) : List Nat :=
  (List.range' i (t.length - i)).filter (IsOpen t)

/-- A slot lies inside its template. -/
theorem IsOpen.lt_length (slot : IsOpen t i) : i < t.length :=
  (List.getElem?_eq_some_iff.1 slot.1.1).1

/-- No slot is both escaped and open. -/
theorem IsEscaped.not_isOpen (escaped : IsEscaped t i) : ¬ IsOpen t i :=
  fun slot => slot.2 escaped

/-- The second brace of a slot begins no slot. -/
theorem IsSlot.not_isOpen_succ (slot : IsSlot t i) : ¬ IsOpen t (i + 1) := by
  rintro ⟨next, -⟩
  rw [IsSlot, slot.2] at next
  exact absurd next.1 (by decide)

/-- The open slots from a place on are the one at the place, if there is one, and those behind it.
-/
theorem openFrom_step (lt : i < t.length) :
    openFrom t i = if IsOpen t i then i :: openFrom t (i + 1) else openFrom t (i + 1) := by
  have more : t.length - i = (t.length - (i + 1)) + 1 := by omega
  rw [openFrom, more, List.range'_succ, List.filter_cons, openFrom]
  simp only [decide_eq_true_eq]

/-- A place without an open slot may be left out. -/
theorem openFrom_of_not_open (plain : ¬ IsOpen t i) : openFrom t i = openFrom t (i + 1) := by
  rcases Nat.lt_or_ge i t.length with lt | ge
  · rw [openFrom_step lt, if_neg plain]
  · have none_left : t.length - i = 0 := by omega
    have none_left' : t.length - (i + 1) = 0 := by omega
    rw [openFrom, openFrom, none_left, none_left', List.range'_zero, List.range'_zero]

/-- Behind an open slot the next one is looked for behind both braces. -/
theorem openFrom_of_open (slot : IsOpen t i) : openFrom t i = i :: openFrom t (i + 2) := by
  rw [openFrom_step slot.lt_length, if_pos slot, openFrom_of_not_open slot.1.not_isOpen_succ]

/-- An escaped slot may be left out with both braces. -/
theorem openFrom_of_escaped (escaped : IsEscaped t i) : openFrom t i = openFrom t (i + 2) := by
  rw [openFrom_of_not_open escaped.not_isOpen, openFrom_of_not_open escaped.1.not_isOpen_succ]

/-- From the start on there are all open slots. -/
theorem openFrom_zero (t : List Char) : openFrom t 0 = openSlots t := by
  rw [openFrom, openSlots, openBefore, Nat.sub_zero, List.range_eq_range']

/-- The open slots from a place on do not lie in front of it. -/
theorem le_of_mem_openFrom {j : Nat} (mem : j ∈ openFrom t i) : i ≤ j := by
  rw [openFrom, List.mem_filter, List.mem_range'_1] at mem
  exact mem.1.1

/-- The end of the head, as seen from a place in front of which it does not lie. -/
def endFrom (t : List Char) (i : Nat) : (count : Nat) → Nat
  | 0 => i
  | count + 1 => ((openFrom t i)[count]?).elim t.length (· + 2)

/-- From the start the end of the head is seen where it is. -/
theorem endFrom_zero (t : List Char) (count : Nat) : endFrom t 0 count = headEnd t count := by
  cases count with
  | zero => rfl
  | succ count => rw [endFrom, headEnd, openFrom_zero]

/-- A place without an open slot does not bring the end of the head any nearer. -/
theorem endFrom_of_not_open (plain : ¬ IsOpen t i) (count : Nat) :
    endFrom t i (count + 1) = endFrom t (i + 1) (count + 1) := by
  rw [endFrom, endFrom, openFrom_of_not_open plain]

/-- An open slot takes one argument. -/
theorem endFrom_of_open (slot : IsOpen t i) (count : Nat) :
    endFrom t i (count + 1) = endFrom t (i + 2) count := by
  rw [endFrom, openFrom_of_open slot]
  cases count with
  | zero => rfl
  | succ count => rw [endFrom, List.getElem?_cons_succ]

/-- The end of the head does not lie in front of the place that it is seen from. -/
theorem le_endFrom (le : i ≤ t.length) (count : Nat) : i ≤ endFrom t i count := by
  cases count with
  | zero => exact Nat.le_refl i
  | succ count =>
    rw [endFrom]
    cases place : (openFrom t i)[count]? with
    | none => exact le
    | some j =>
      have ahead := le_of_mem_openFrom (List.mem_of_getElem? place)
      simp only [Option.elim_some]
      omega

/-! ## Open slots in front of a place -/

/-- Past a place without an open slot there are as many as before. -/
theorem openBefore_of_not_open (plain : ¬ IsOpen t i) : openBefore t (i + 1) = openBefore t i := by
  rw [openBefore, List.range_succ, List.filter_append, openBefore]
  simp [plain]

/-- Past an open slot there is one more. -/
theorem length_openBefore_of_open (slot : IsOpen t i) :
    (openBefore t (i + 2)).length = (openBefore t i).length + 1 := by
  rw [openBefore_of_not_open slot.1.not_isOpen_succ, openBefore, List.range_succ,
    List.filter_append, openBefore]
  simp [slot]

/-- Past an escaped slot there are as many as before. -/
theorem openBefore_of_escaped (escaped : IsEscaped t i) :
    openBefore t (i + 2) = openBefore t i := by
  rw [openBefore_of_not_open escaped.1.not_isOpen_succ, openBefore_of_not_open escaped.not_isOpen]

/-! ## Places as they are shown -/

/-- The opening brace of an open slot is shown as the text of its argument. -/
theorem shown_of_open (slot : IsOpen t i) (texts : List String) :
    shown t texts i = ((texts[(openBefore t i).length]?).getD "").toList := by
  have brace : ¬ (t[i]? = some '\\' ∧ IsSlot t (i + 1)) := by
    rw [slot.1.1]
    simp
  rw [shown, if_neg brace, if_pos slot]

/-- The closing brace of an open slot is not shown. -/
theorem shown_succ_of_open (slot : IsOpen t i) (texts : List String) :
    shown t texts (i + 1) = [] := by
  have brace : 1 ≤ i + 1 ∧ IsOpen t (i + 1 - 1) := ⟨Nat.le_add_left 1 i, slot⟩
  rw [shown, if_neg slot.1.not_isOpen_succ, if_pos brace, ite_self]

/-- Outside open slots a place is shown as it stands, but for a backslash in front of a slot. -/
theorem shown_of_plain (plain : ¬ IsOpen t i) (plain' : ¬ (1 ≤ i ∧ IsOpen t (i - 1)))
    (texts : List String) :
    shown t texts i = if t[i]? = some '\\' ∧ IsSlot t (i + 1) then [] else t[i]?.toList := by
  rw [shown, if_neg plain, if_neg plain']

/-! ## Filling from a place on -/

/-- What is shown of a template from a place on that does not lie behind its head. -/
def filledFrom (t : List Char) (texts : List String) (i count : Nat) : List Char :=
  (List.range' i (endFrom t i count - i)).flatMap (shown t texts) ++ t.drop (endFrom t i count)

/-- From the start on the whole template is filled. -/
theorem filledFrom_zero (t : List Char) (texts : List String) (count : Nat) :
    filledFrom t texts 0 count
      = (List.range (headEnd t count)).flatMap (shown t texts) ++ t.drop (headEnd t count) := by
  rw [filledFrom, endFrom_zero, Nat.sub_zero, List.range_eq_range']

/-- Filling moves past a place without an open slot by one. -/
theorem filledFrom_of_not_open (lt : i < t.length) (plain : ¬ IsOpen t i) (texts : List String)
    (count : Nat) :
    filledFrom t texts i (count + 1)
      = shown t texts i ++ filledFrom t texts (i + 1) (count + 1) := by
  have le := le_endFrom (t := t) (i := i + 1) lt (count + 1)
  have more : endFrom t (i + 1) (count + 1) - i
      = endFrom t (i + 1) (count + 1) - (i + 1) + 1 := by omega
  rw [filledFrom, endFrom_of_not_open plain, more, List.range'_succ, List.flatMap_cons,
    List.append_assoc, filledFrom]

/-- Filling moves past an open slot with both braces, and to the next argument. -/
theorem filledFrom_of_open (slot : IsOpen t i) (texts : List String) (count : Nat) :
    filledFrom t texts i (count + 1)
      = shown t texts i ++ (shown t texts (i + 1) ++ filledFrom t texts (i + 2) count) := by
  have inside : i + 2 ≤ t.length := (List.getElem?_eq_some_iff.1 slot.1.2).1
  have le := le_endFrom (t := t) inside count
  have more : endFrom t (i + 2) count - i = endFrom t (i + 2) count - (i + 2) + 1 + 1 := by omega
  rw [filledFrom, endFrom_of_open slot, more, List.range'_succ, List.range'_succ,
    List.flatMap_cons, List.flatMap_cons, List.append_assoc, List.append_assoc, filledFrom]

/-- An escaped slot is shown as it stands. -/
theorem filledFrom_of_escaped (escaped : IsEscaped t i) (texts : List String) (count : Nat) :
    filledFrom t texts i (count + 1) = '{' :: '}' :: filledFrom t texts (i + 2) (count + 1) := by
  obtain ⟨slot, ⟨ge, slash⟩, -⟩ := id escaped
  have behind : ¬ (1 ≤ i ∧ IsOpen t (i - 1)) := by
    rintro ⟨-, before, -⟩
    rw [IsSlot, slash] at before
    exact absurd before.1 (by decide)
  have behind' : ¬ (1 ≤ i + 1 ∧ IsOpen t (i + 1 - 1)) := fun here => escaped.not_isOpen here.2
  have opening : shown t texts i = ['{'] := by
    rw [shown_of_plain escaped.not_isOpen behind, slot.1]
    simp
  have closing : shown t texts (i + 1) = ['}'] := by
    rw [shown_of_plain slot.not_isOpen_succ behind', slot.2]
    simp
  have inside : i + 1 < t.length := (List.getElem?_eq_some_iff.1 slot.2).1
  rw [filledFrom_of_not_open (by omega) escaped.not_isOpen,
    filledFrom_of_not_open inside slot.not_isOpen_succ, opening, closing]
  rfl

end Logline.Template
