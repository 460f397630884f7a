import Logline.Proofs.Template.Filling
import Logline.Proofs.Template.Slots

/-! # Scanning templates

A template is cut into pieces from left to right, and a backslash is given up only when the slot
behind it is found. Put together again with texts in their slots, the pieces come to what the places
of the template say.

* `Template.Stands` — a scan on its way through a template
* `Template.assemble_scan`, `Template.count_scan` — what the pieces from there on come to
* `Template.filled_eq_assemble` — a template filled place by place, by its pieces
* `Template.fill_eq_filled` — arguments fill a template place by place -/

namespace Logline.Template

variable {t : List Char}

/-! ## Places ahead -/

/-- A place ahead is counted from where the text ahead begins. -/
theorem getElem?_ahead (before text : List Char) (d : Nat) :
    (before.reverse ++ text)[before.length + d]? = text[d]? := by
  rw [List.getElem?_append_right (by simp)]
  simp

/-- A backslash in front of the text ahead is one of the text before it. -/
theorem slashBefore_ahead (before text : List Char) (d : Nat) :
    SlashBefore (before.reverse ++ text) (d + 1) before.length ↔ before[d]? = some '\\' := by
  rw [SlashBefore]
  constructor
  · rintro ⟨le, slash⟩
    rw [List.getElem?_append_left (by simp; omega), List.getElem?_reverse (by omega)] at slash
    rw [← slash]
    congr 1
    omega
  · intro slash
    have lt := (List.getElem?_eq_some_iff.1 slash).1
    refine ⟨lt, ?_⟩
    rw [List.getElem?_append_left (by simp; omega), List.getElem?_reverse (by omega), ← slash]
    congr 1
    omega

/-- A slot begins where the text ahead begins with one. -/
theorem isSlot_ahead (before text : List Char) :
    IsSlot (before.reverse ++ text) before.length ↔ IsSlot text 0 := by
  have here := getElem?_ahead before text 0
  rw [Nat.add_zero] at here
  rw [IsSlot, here, getElem?_ahead]
  rfl

/-! ## The way of a scan -/

/-- A scan of `t` **stands** between the text before it, reversed, and the text ahead. What it has
not put into a piece ends with a backslash where the text before it does, and it stands in no
slot. -/
structure Stands (t before lead text : List Char) : Prop where
  whole : t = before.reverse ++ text
  slash : lead.head? = some '\\' ↔ before.head? = some '\\'
  apart : before.head? = some '{' → text.head? ≠ some '}'

namespace Stands
variable {before lead lead' text rest : List Char} {c : Char}

/-- At first a scan stands at the start of its template. -/
theorem start (t : List Char) : Stands t [] [] t :=
  ⟨rfl, Iff.rfl, by simp⟩

/-- From a place where no slot begins, a scan moves on by one. -/
theorem next (stands : Stands t before lead (c :: rest)) (plain : ¬ IsSlot t before.length) :
    Stands t (c :: before) (c :: lead) rest := by
  refine ⟨?_, Iff.rfl, ?_⟩
  · rw [stands.whole, List.reverse_cons, List.append_assoc, List.singleton_append]
  · intro opening closing
    apply plain
    rw [stands.whole, isSlot_ahead]
    exact ⟨opening, by rw [← closing, List.head?_eq_getElem?]; rfl⟩

/-- A scan moves past a slot with both braces. -/
theorem past (stands : Stands t before lead ('{' :: '}' :: rest))
    (no_slash : lead'.head? ≠ some '\\') : Stands t ('}' :: '{' :: before) lead' rest := by
  refine ⟨?_, ?_, ?_⟩
  · rw [stands.whole]
    simp
  · simpa using no_slash
  · simp

/-- A scan that finds two braces ahead stands at a slot. -/
theorem isSlot (stands : Stands t before lead ('{' :: '}' :: rest)) : IsSlot t before.length := by
  rw [stands.whole, isSlot_ahead]
  exact ⟨rfl, rfl⟩

/-- A scan that does not find two braces ahead stands at no slot. -/
theorem not_isSlot (stands : Stands t before lead (c :: rest))
    (plain : ∀ tail, c = '{' → rest = '}' :: tail → False) : ¬ IsSlot t before.length := by
  rw [stands.whole, isSlot_ahead]
  rintro ⟨opening, closing⟩
  rw [List.getElem?_cons_zero, Option.some.injEq] at opening
  rw [List.getElem?_cons_succ] at closing
  cases rest with
  | nil => simp at closing
  | cons d tail =>
    rw [List.getElem?_cons_zero, Option.some.injEq] at closing
    exact plain tail opening (by rw [closing])

/-- The slot at which a scan stands is escaped by the backslashes that it has just passed. -/
theorem isEscaped_iff (stands : Stands t before lead ('{' :: '}' :: rest)) :
    IsEscaped t before.length ↔ before[0]? = some '\\' ∧ before[1]? ≠ some '\\' := by
  rw [IsEscaped, and_iff_right stands.isSlot, stands.whole, slashBefore_ahead _ _ 0,
    slashBefore_ahead _ _ 1]

/-- Behind a single backslash the slot is escaped. -/
theorem isEscaped_of_one (stands : Stands t ('\\' :: before) lead ('{' :: '}' :: rest))
    (one : ∀ tail, before = '\\' :: tail → False) : IsEscaped t ('\\' :: before).length := by
  refine stands.isEscaped_iff.2 ⟨rfl, fun two => ?_⟩
  obtain ⟨tail, eq⟩ := List.head?_eq_some_iff.1 (List.head?_eq_getElem?.trans two)
  exact one tail eq

/-- Behind two backslashes the slot is open. -/
theorem isOpen_of_two (stands : Stands t ('\\' :: '\\' :: before) lead ('{' :: '}' :: rest)) :
    IsOpen t ('\\' :: '\\' :: before).length :=
  ⟨stands.isSlot, fun escaped => (stands.isEscaped_iff.1 escaped).2 rfl⟩

/-- Behind no backslash the slot is open. -/
theorem isOpen_of_none (stands : Stands t before lead ('{' :: '}' :: rest))
    (none : ∀ tail, before = '\\' :: tail → False) : IsOpen t before.length := by
  refine ⟨stands.isSlot, fun escaped => ?_⟩
  have slash := (stands.isEscaped_iff.1 escaped).1
  obtain ⟨tail, eq⟩ := List.head?_eq_some_iff.1 (List.head?_eq_getElem?.trans slash)
  exact none tail eq

/-- A scan never stands between the braces of an open slot. -/
theorem not_open_behind (stands : Stands t before lead text) :
    ¬ (1 ≤ before.length ∧ IsOpen t (before.length - 1)) := by
  rintro ⟨ge, slot, -⟩
  cases before with
  | nil => simp at ge
  | cons c before =>
    have whole : t = before.reverse ++ c :: text := by rw [stands.whole]; simp
    rw [List.length_cons, Nat.add_sub_cancel, whole, isSlot_ahead] at slot
    exact stands.apart slot.1 (by rw [List.head?_eq_getElem?]; exact slot.2)

end Stands

variable {before lead text rest : List Char} {c : Char} {count : Nat}

/-! ## Slots of the pieces -/

/-- A scan makes a slot for each open slot ahead, but no more than there are arguments. -/
theorem count_scan (stands : Stands t before lead text) :
    (scan count before lead text).count .slot = min count (openFrom t before.length).length := by
  fun_induction scan count before lead text with
  | case1 before lead text => simp
  | case2 before count lead =>
    have whole : t.length = before.length := by rw [stands.whole]; simp
    simp [openFrom, whole]
  | case3 count lead rest before ih =>
    have slot := stands.isOpen_of_two
    have others : (scan _ _ _ _).count _ = min count (openFrom t (_ + 2)).length :=
      ih (stands.past (by simp))
    rw [openFrom_of_open slot, List.length_cons, Nat.succ_min_succ, ← others]
    simp
  | case4 count lead rest before single ih =>
    have escaped := stands.isEscaped_of_one single
    have others : (scan _ _ _ _).count _ = min _ (openFrom t (_ + 2)).length :=
      ih (stands.past (by decide))
    rw [← openFrom_of_escaped escaped] at others
    rw [← others]
    simp
  | case5 count before lead rest _ no_slash ih =>
    have slot := stands.isOpen_of_none no_slash
    have others : (scan _ _ _ _).count _ = min count (openFrom t (_ + 2)).length :=
      ih (stands.past (by simp))
    rw [openFrom_of_open slot, List.length_cons, Nat.succ_min_succ, ← others]
    simp
  | case6 count before lead c rest plain ih =>
    have no_slot := stands.not_isSlot plain
    rw [ih (stands.next no_slot), openFrom_of_not_open fun slot => no_slot slot.1]
    rfl

/-- The pieces of a template have a slot for each open slot, but no more than arguments. -/
theorem count_pieces (count : Nat) (t : String) :
    (pieces count t).count .slot = min count (openSlots t.toList).length := by
  rw [pieces, count_scan (Stands.start t.toList), List.length_nil, openFrom_zero]

/-! ## Texts of the pieces -/

/-- What is shown of the text that is not in a piece yet: a backslash goes if a slot is next. -/
def pending (lead text : List Char) : List Char :=
  (if lead.head? = some '\\' ∧ IsSlot text 0 then lead.tail else lead).reverse

/-- In front of a slot the last backslash is not shown. -/
theorem pending_of_slash (stands : Stands t ('\\' :: before) lead ('{' :: '}' :: rest)) :
    pending lead ('{' :: '}' :: rest) = lead.tail.reverse := by
  rw [pending, if_pos ⟨stands.slash.2 rfl, rfl, rfl⟩]

/-- With no backslash in front of a slot, all of the text is shown. -/
theorem pending_of_none (stands : Stands t before lead ('{' :: '}' :: rest))
    (none : ∀ tail, before = '\\' :: tail → False) :
    pending lead ('{' :: '}' :: rest) = lead.reverse := by
  rw [pending, if_neg]
  rintro ⟨slash, -⟩
  obtain ⟨tail, eq⟩ := List.head?_eq_some_iff.1 (stands.slash.1 slash)
  exact none tail eq

/-- A character that no slot begins with is shown once the scan is past it. -/
theorem pending_cons (stands : Stands t before lead (c :: rest))
    (plain : ¬ IsSlot t before.length) (texts : List String) :
    pending (c :: lead) rest = pending lead (c :: rest) ++ shown t texts before.length := by
  have here : t[before.length]? = some c := by
    have here := getElem?_ahead before (c :: rest) 0
    rwa [Nat.add_zero, ← stands.whole] at here
  have ahead : IsSlot t (before.length + 1) ↔ IsSlot rest 0 := by
    have whole : t = (c :: before).reverse ++ rest := by rw [stands.whole]; simp
    rw [whole, ← isSlot_ahead (c :: before)]
    rfl
  have plain' : ¬ IsSlot (c :: rest) 0 := by rwa [← isSlot_ahead before, ← stands.whole]
  rw [shown_of_plain (fun slot => plain slot.1) stands.not_open_behind, here]
  simp only [pending, ahead, plain', and_false, if_false, List.head?_cons, List.tail_cons,
    Option.some.injEq]
  by_cases given_up : c = '\\' ∧ IsSlot rest 0
  · rw [if_pos given_up, if_pos given_up, List.append_nil]
  · rw [if_neg given_up, if_neg given_up, List.reverse_cons]
    rfl

variable (texts : List String)

/-- A slot takes the next text. -/
theorem assemble_slot (ps : List Piece) (k : Nat) :
    assemble (.slot :: ps) (texts.drop k)
      = ((texts[k]?).getD "").toList ++ assemble ps (texts.drop (k + 1)) := by
  rcases Nat.lt_or_ge k texts.length with lt | ge
  · rw [List.drop_eq_getElem_cons lt, assemble, List.getElem?_eq_getElem lt, Option.getD_some]
  · have none_left : texts.length ≤ k + 1 := Nat.le_succ_of_le ge
    rw [List.drop_eq_nil_of_le ge, assemble, List.getElem?_eq_none ge,
      List.drop_eq_nil_of_le none_left]
    rfl

/-- If the pieces behind an open slot come to what the places behind it show, so do those from the
slot on. -/
theorem assemble_open {ps : List Piece} (slot : IsOpen t before.length)
    (others : assemble ps (texts.drop (openBefore t (before.length + 2)).length)
      = filledFrom t texts (before.length + 2) count) :
    assemble (.slot :: ps) (texts.drop (openBefore t before.length).length)
      = filledFrom t texts before.length (count + 1) := by
  rw [assemble_slot, filledFrom_of_open slot, shown_of_open slot, shown_succ_of_open slot,
    ← length_openBefore_of_open slot, others, List.nil_append]

/-- **From wherever a scan stands, its pieces with texts in their slots are what it has not put
into a piece, followed by the places ahead as they are shown.** The text before it has taken one
text for each of its open slots. -/
theorem assemble_scan (stands : Stands t before lead text) (start : count = 0 → lead = []) :
    assemble (scan count before lead text) (texts.drop (openBefore t before.length).length)
      = pending lead text ++ filledFrom t texts before.length count := by
  -- the cases of a slot differ in the backslashes before it
  fun_induction scan count before lead text with
  | case1 before lead text =>
    rw [start rfl]
    simp [assemble, pending, filledFrom, endFrom, stands.whole]
  | case2 before count lead =>
    have whole : t.length = before.length := by rw [stands.whole]; simp
    simp [assemble, pending, IsSlot, filledFrom, openFrom, endFrom, whole]
  | case3 count lead rest before ih =>
    -- two backslashes
    have slot := stands.isOpen_of_two
    rw [assemble, pending_of_slash stands,
      assemble_open texts slot (ih (stands.past (by simp)) fun _ => rfl)]
  | case4 count lead rest before single ih =>
    -- one backslash
    have escaped := stands.isEscaped_of_one single
    have others :
        assemble _ (texts.drop (openBefore t (('\\' :: before).length + 2)).length) = _ :=
      ih (stands.past (by decide)) (by simp)
    rw [openBefore_of_escaped escaped] at others
    rw [assemble, pending_of_slash stands, others, filledFrom_of_escaped escaped,
      List.reverse_cons]
    simp [pending]
  | case5 count before lead rest _ no_slash ih =>
    -- none
    have slot := stands.isOpen_of_none no_slash
    rw [assemble, pending_of_none stands no_slash,
      assemble_open texts slot (ih (stands.past (by simp)) fun _ => rfl)]
  | case6 count before lead c rest plain ih =>
    have no_slot := stands.not_isSlot plain
    have others : assemble _ (texts.drop (openBefore t (before.length + 1)).length) = _ :=
      ih (stands.next no_slot) (by simp)
    rw [openBefore_of_not_open fun slot => no_slot slot.1] at others
    have lt : before.length < t.length := by rw [stands.whole]; simp
    rw [others, pending_cons stands no_slot texts, List.append_assoc,
      filledFrom_of_not_open lt fun slot => no_slot slot.1]
    rfl

/-! ## Whole templates -/

/-- A template filled place by place is its pieces with the texts in their slots. -/
theorem filled_eq_assemble (t : String) (count : Nat) :
    filled t count texts = String.ofList (assemble (pieces count t) texts) := by
  have whole : assemble (pieces count t) texts = [] ++ filledFrom t.toList texts 0 count :=
    assemble_scan texts (Stands.start t.toList) fun _ => rfl
  rw [whole, List.nil_append, filledFrom_zero, filled]

/-- **Arguments fill a template place by place**, rendered one after the other, and there is a text
for each open slot that they reach. -/
theorem fill_eq_filled (h : Heap) (attempts : List Attempt) (t : String) (args : List Value) :
    fill h attempts t args =
      (filled t args.length
          (Value.renderAll h attempts (args.take (openSlots t.toList).length)).1,
        (Value.renderAll h attempts (args.take (openSlots t.toList).length)).2) := by
  have used : args.take (min args.length (openSlots t.toList).length)
      = args.take (openSlots t.toList).length := by
    rw [Nat.min_comm, ← List.take_eq_take_min]
  rw [fill_eq_assemble, count_pieces, used, filled_eq_assemble]

end Logline.Template
