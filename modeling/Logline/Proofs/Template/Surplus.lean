import Logline.Message
import Logline.Proofs.Template.Scanning

/-! # More arguments than slots

Arguments that no open slot is left for are not rendered, but they are not without effect: as long
as there is one, escaped slots go on being read, and where the arguments end with the last open
slot, the rest of the template stands as it is. So more arguments leave a text as it was exactly
where there were too many before, or where every escaped slot has an open one behind it.

* `Template.slotsEnd` — the end of the last open slot
* `Template.filled_eq_filled_iff` — the head up to there against the whole template
* `Message.ofArguments_append_eq_iff` — when more arguments leave a message as it was -/

namespace Logline

namespace Template

/-! ## The last open slot -/

/-- The end of the last open slot, or the start of the template where there is none. -/
def slotsEnd (t : List Char) : Nat := ((openSlots t).getLast?).elim 0 (· + 2)

section LastSlot
variable {t : List Char} {i j count : Nat}

/-- The open slots of a template are all places at which one begins. -/
theorem mem_openSlots : i ∈ openSlots t ↔ IsOpen t i := by
  rw [openSlots, openBefore, List.mem_filter, List.mem_range, decide_eq_true_eq]
  exact and_iff_right_of_imp IsOpen.lt_length

/-- Either no slot is open, or there is a last open slot and `slotsEnd` lies behind it. -/
theorem slotsEnd_cases (t : List Char) :
    ((∀ i, ¬ IsOpen t i) ∧ slotsEnd t = 0) ∨
    ∃ last, IsOpen t last ∧ (∀ i, IsOpen t i → i ≤ last) ∧ slotsEnd t = last + 2 := by
  rcases List.eq_nil_or_concat (openSlots t) with none | ⟨front, last, split⟩
  · refine .inl ⟨fun i slot => ?_, by rw [slotsEnd, none]; rfl⟩
    rw [← mem_openSlots, none] at slot
    exact List.not_mem_nil slot
  · have sorted : (openSlots t).Pairwise (· < ·) := List.pairwise_lt_range.filter _
    rw [List.concat_eq_append] at split
    rw [split, List.pairwise_append] at sorted
    refine .inr ⟨last, mem_openSlots.1 (by rw [split]; simp), fun i slot => ?_, ?_⟩
    · rw [← mem_openSlots, split, List.mem_append, List.mem_singleton] at slot
      rcases slot with earlier | rfl
      · exact Nat.le_of_lt (sorted.2.2 i earlier last (List.mem_singleton_self last))
      · exact Nat.le_refl i
    · rw [slotsEnd, split, List.getLast?_concat]
      rfl

/-- The last open slot ends inside the template. -/
theorem slotsEnd_le (t : List Char) : slotsEnd t ≤ t.length := by
  rcases slotsEnd_cases t with ⟨-, ends⟩ | ⟨last, slot, -, ends⟩
  · omega
  · have inside : last + 1 < t.length := (List.getElem?_eq_some_iff.1 slot.1.2).1
    omega

/-- Every open slot ends no later than the last one. -/
theorem IsOpen.add_two_le (slot : IsOpen t i) : i + 2 ≤ slotsEnd t := by
  rcases slotsEnd_cases t with ⟨none, -⟩ | ⟨last, -, is_last, ends⟩
  · exact absurd slot (none i)
  · have le := is_last i slot
    omega

/-- For as many arguments as there are open slots, the head ends with the last one. -/
theorem headEnd_length (t : List Char) : headEnd t (openSlots t).length = slotsEnd t := by
  rw [slotsEnd, List.getLast?_eq_getElem?]
  cases length : (openSlots t).length with
  | zero =>
    rw [List.length_eq_zero_iff.1 length]
    rfl
  | succ last =>
    have lt : last < (openSlots t).length := by omega
    rw [headEnd, Nat.add_sub_cancel, List.getElem?_eq_getElem lt]
    rfl

/-- With more arguments than open slots the head is the whole template. -/
theorem headEnd_of_lt (lt : (openSlots t).length < count) : headEnd t count = t.length := by
  cases count with
  | zero => exact absurd lt (Nat.not_lt_zero _)
  | succ count =>
    rw [headEnd, List.getElem?_eq_none (Nat.le_of_lt_succ lt)]
    rfl

/-- An escaped slot has an open one behind it exactly if it does not lie behind the end of the last
open slot. -/
theorem IsEscaped.exists_open_iff (escaped : IsEscaped t j) :
    (∃ i, j < i ∧ IsOpen t i) ↔ j ≤ slotsEnd t := by
  obtain ⟨slot, ⟨ge, slash⟩, -⟩ := id escaped
  constructor
  · rintro ⟨i, lt, behind⟩
    have le := behind.add_two_le
    omega
  · intro le
    rcases slotsEnd_cases t with ⟨-, ends⟩ | ⟨last, behind, -, ends⟩
    · omega
    · refine ⟨last, ?_, behind⟩
      have ne : j ≠ last := by
        rintro rfl
        exact behind.2 escaped
      have ne_closing : j ≠ last + 1 := by
        rintro rfl
        have closing := behind.1.2
        rw [slot.1] at closing
        exact absurd closing (by decide)
      have ne_next : j ≠ last + 2 := by
        rintro rfl
        have closing : t[last + 1]? = some '}' := behind.1.2
        have is_slash : t[last + 1]? = some '\\' := slash
        rw [closing] at is_slash
        exact absurd is_slash (by decide)
      omega

/-- Behind the last open slot a place is shown as it stands, but for the backslash of an escaped
slot. -/
theorem shown_of_slotsEnd_le (behind : slotsEnd t ≤ i) (texts : List String) :
    shown t texts i = if IsEscaped t (i + 1) then [] else t[i]?.toList := by
  have plain : ∀ j, i ≤ j + 1 → ¬ IsOpen t j := by
    intro j le slot
    have last := slot.add_two_le
    omega
  have escaped : t[i]? = some '\\' ∧ IsSlot t (i + 1) ↔ IsEscaped t (i + 1) := by
    constructor
    · rintro ⟨-, slot⟩
      exact Decidable.byContradiction fun not_escaped =>
        plain (i + 1) (by omega) ⟨slot, not_escaped⟩
    · rintro ⟨slot, ⟨-, slash⟩, -⟩
      exact ⟨slash, slot⟩
  rw [shown_of_plain (plain i (by omega)) fun before => plain (i - 1) (by omega) before.2]
  simp only [escaped]

end LastSlot

/-! ## The head against the whole template -/

section Whole
variable {α β : Type} {xs : List α} {f g : α → List β}

/-- Texts that are no longer than others, each than its own, are no longer together. -/
theorem length_flatMap_le (le : ∀ x ∈ xs, (f x).length ≤ (g x).length) :
    (xs.flatMap f).length ≤ (xs.flatMap g).length := by
  induction xs with
  | nil => exact Nat.le_refl _
  | cons y ys ih =>
    rw [List.flatMap_cons, List.flatMap_cons, List.length_append, List.length_append]
    exact Nat.add_le_add (le y List.mem_cons_self)
      (ih fun x mem => le x (List.mem_cons_of_mem y mem))

/-- Texts that are no longer than others, each than its own, come to the same only if each is the
same. -/
theorem eq_of_flatMap_eq (le : ∀ x ∈ xs, (f x).length ≤ (g x).length)
    (whole : xs.flatMap f = xs.flatMap g) : ∀ x ∈ xs, f x = g x := by
  induction xs with
  | nil => exact fun x mem => absurd mem List.not_mem_nil
  | cons y ys ih =>
    have le_ys : ∀ x ∈ ys, (f x).length ≤ (g x).length :=
      fun x mem => le x (List.mem_cons_of_mem y mem)
    have first := le y List.mem_cons_self
    have others := length_flatMap_le le_ys
    rw [List.flatMap_cons, List.flatMap_cons] at whole
    have total := congrArg List.length whole
    rw [List.length_append, List.length_append] at total
    obtain ⟨same, same_ys⟩ := List.append_inj whole (by omega)
    intro x mem
    rcases List.mem_cons.1 mem with rfl | mem
    · exact same
    · exact ih le_ys same_ys x mem

end Whole

/-- The rest of a template is the characters of its places. -/
theorem drop_eq_flatMap (t : List Char) (i : Nat) :
    t.drop i = (List.range' i (t.length - i)).flatMap fun j => t[j]?.toList := by
  induction length : t.length - i generalizing i with
  | zero => rw [List.drop_eq_nil_of_le (by omega), List.range'_zero, List.flatMap_nil]
  | succ n ih =>
    have lt : i < t.length := by omega
    rw [List.drop_eq_getElem_cons lt, List.range'_succ, List.flatMap_cons, ih (i + 1) (by omega),
      List.getElem?_eq_getElem lt]
    rfl

/-- What is behind the last open slot is shown as it stands exactly where no slot there is
escaped. -/
theorem flatMap_shown_eq_drop_iff (t : List Char) (texts : List String) :
    (List.range' (slotsEnd t) (t.length - slotsEnd t)).flatMap (shown t texts)
      = t.drop (slotsEnd t) ↔ ∀ j, IsEscaped t j → ∃ i, j < i ∧ IsOpen t i := by
  rw [drop_eq_flatMap]
  constructor
  · intro whole j escaped
    have le : ∀ i ∈ List.range' (slotsEnd t) (t.length - slotsEnd t),
        (shown t texts i).length ≤ (t[i]?.toList).length := by
      intro i mem
      rw [shown_of_slotsEnd_le (List.mem_range'_1.1 mem).1]
      split
      · exact Nat.zero_le _
      · exact Nat.le_refl _
    rw [escaped.exists_open_iff]
    -- the backslash of an escaped slot behind the last open one is not shown, which leaves too
    -- little
    refine Decidable.byContradiction fun behind => ?_
    obtain ⟨slot, ⟨ge, slash⟩, -⟩ := id escaped
    have inside : j - 1 < t.length := (List.getElem?_eq_some_iff.1 slash).1
    have same := eq_of_flatMap_eq le whole (j - 1) (List.mem_range'_1.2 (by omega))
    rw [shown_of_slotsEnd_le (by omega), Nat.sub_add_cancel ge, if_pos escaped, slash] at same
    cases same
  · intro open_behind
    rw [List.flatMap_def, List.flatMap_def]
    congr 1
    refine List.map_congr_left fun i mem => ?_
    have behind := (List.mem_range'_1.1 mem).1
    rw [shown_of_slotsEnd_le behind, if_neg]
    intro escaped
    have le := escaped.exists_open_iff.1 (open_behind _ escaped)
    omega

/-- **More arguments than open slots** make of a template what just enough make of it exactly where
every escaped slot has an open one behind it. -/
theorem filled_eq_filled_iff {t : String} {count : Nat} (more : (openSlots t.toList).length < count)
    (texts : List String) :
    filled t count texts = filled t (openSlots t.toList).length texts ↔
      ∀ j, IsEscaped t.toList j → ∃ i, j < i ∧ IsOpen t.toList i := by
  have split : List.range t.toList.length = List.range (slotsEnd t.toList)
      ++ List.range' (slotsEnd t.toList) (t.toList.length - slotsEnd t.toList) := by
    have parts : List.range' 0 (slotsEnd t.toList)
        ++ List.range' (0 + slotsEnd t.toList) (t.toList.length - slotsEnd t.toList) = _ :=
      List.range'_append_1
    rw [Nat.zero_add, Nat.add_sub_cancel' (slotsEnd_le t.toList)] at parts
    rw [List.range_eq_range', List.range_eq_range', parts]
  rw [← flatMap_shown_eq_drop_iff _ texts, filled, filled, headEnd_of_lt more, headEnd_length,
    split, String.ofList_inj, List.drop_length, List.append_nil, List.flatMap_append,
    List.append_cancel_left_eq]

end Template

namespace Message
open Template

/-- **When more arguments leave a message as it was.** Where there are enough arguments for the open
slots, further ones are not rendered. The text stays the same exactly where there were too many
arguments before or where every escaped slot has an open one behind it. -/
theorem ofArguments_append_eq_iff {t : String} {args : List Value}
    (enough : (openSlots t.toList).length ≤ args.length) (extra : List Value) (h : Heap)
    (attempts : List Attempt) (throwable : Option ThrowableId) :
    (ofArguments h attempts (some t) (args ++ extra) throwable).2
      = (ofArguments h attempts (some t) args throwable).2 ∧
    ((ofArguments h attempts (some t) (args ++ extra) throwable).1.text
        = (ofArguments h attempts (some t) args throwable).1.text ↔
      extra = [] ∨ (openSlots t.toList).length < args.length ∨
        ∀ j, IsEscaped t.toList j → ∃ i, j < i ∧ IsOpen t.toList i) := by
  have used : (args ++ extra).take (openSlots t.toList).length
      = args.take (openSlots t.toList).length := List.take_append_of_le_length enough
  simp only [ofArguments, fill_eq_filled, used, true_and, Option.some.injEq]
  cases extra with
  | nil => simp
  | cons v vs =>
    have more : (openSlots t.toList).length < (args ++ v :: vs).length := by
      rw [List.length_append, List.length_cons]
      omega
    rcases Nat.lt_or_eq_of_le enough with too_many | just
    -- both heads are the whole template
    · simp only [filled, headEnd_of_lt more, headEnd_of_lt too_many, too_many, true_or, or_true]
    -- the head ends with the last open slot against the whole template
    · rw [← just, filled_eq_filled_iff more]
      simp [just]

/-- An escaped slot in front of the only open one, and a second argument. -/
theorem ofArguments_append_eq_escaped_first :
    (openSlots "\\{} {}".toList).length ≤ [Value.int 1].length ∧
    (ofArguments Heap.empty [] (some "\\{} {}") ([.int 1] ++ [.int 2]) none).1.text
      = (ofArguments Heap.empty [] (some "\\{} {}") [.int 1] none).1.text := by
  have enough : (openSlots "\\{} {}".toList).length ≤ [Value.int 1].length := by decide
  refine ⟨enough, (ofArguments_append_eq_iff enough [.int 2] Heap.empty [] none).2.2 ?_⟩
  refine .inr (.inr fun j escaped => ⟨4, ?_, by decide⟩)
  have inside : j + 1 < 6 := (List.getElem?_eq_some_iff.1 escaped.1.2).1
  have ne : j ≠ 4 := by
    rintro rfl
    exact absurd escaped (by decide)
  omega

/-- An escaped slot behind the only open one: the second argument is dropped, and yet the text is
another one. -/
theorem ofArguments_append_ne_escaped_last :
    (openSlots "{} \\{}".toList).length = 1 ∧
    (ofArguments Heap.empty [] (some "{} \\{}") [.int 1] none).1.text = some "1 \\{}" ∧
    (ofArguments Heap.empty [] (some "{} \\{}") [.int 1, .int 2] none).1.text = some "1 {}" := by
  decide

end Message

end Logline
