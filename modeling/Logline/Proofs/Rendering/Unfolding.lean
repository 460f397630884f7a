import Logline.Rendering
import Logline.Throwable.Trace

/-! # Unfoldings of values

The **unfolding** of a value is the tree of all that is rendered for it. It is made along **paths**:
the path of an occurrence names the arrays that the occurrence stands in. An array on its own path
is a marker there, and every other array is entered, whatever was entered beside it. Neither a count
of arrays nor a set that is changed on the way is needed for that.

* `Value.unfold` — the unfolding of a value on a path
* `Unfolding.write` — the text of an unfolding, and the attempts after it
* `Rendering.append_eq_extend` — a value is rendered by the text of its unfolding on the path of the
  open arrays, which are the same afterwards -/

namespace Logline

/-- The tree of what is rendered for a value. -/
inductive Unfolding where
  /-- A value that is no array and supplies no value. -/
  | leaf (v : Value)
  /-- What a supplier answers. -/
  | supplied (u : Unfolding)
  /-- An array inside itself. -/
  | marker (id : ArrayId)
  /-- An array with its elements. -/
  | array (id : ArrayId) (elements : List Unfolding)

/-! ## Paths -/

/-- The array that a value is or supplies. -/
def Value.array? : Value → Option ArrayId
  | .array id => some id
  | .deferred v => v.array?
  | _ => none

namespace Heap

/-- How many arrays are not on a path. -/
def unopened (h : Heap) (path : List ArrayId) : Nat :=
  (List.range h.arrays.length).countP fun id => !path.contains id

/-- At most all arrays are not on a path. -/
theorem unopened_le_length (h : Heap) (path : List ArrayId) :
    h.unopened path ≤ h.arrays.length := by
  have le := List.countP_le_length (p := fun id => !path.contains id)
    (l := List.range h.arrays.length)
  rwa [List.length_range] at le

/-- An array that does not exist has no elements. -/
theorem lt_length_of_mem_elements {h : Heap} {id : ArrayId} {v : Value}
    (mem : v ∈ h.elements id) : id < h.arrays.length := by
  rcases Nat.lt_or_ge id h.arrays.length with present | missing
  · exact present
  · simp [elements, List.getElem?_eq_none missing] at mem

/-- Entering an array that has elements leaves fewer arrays to enter. -/
theorem unopened_cons_lt {h : Heap} {path : List ArrayId} {id : ArrayId} {v : Value}
    (fresh : id ∉ path) (mem : v ∈ h.elements id) :
    h.unopened (id :: path) < h.unopened path := by
  apply Trace.countP_lt_countP (a := id)
  · simp +contextual
  · simpa using lt_length_of_mem_elements mem
  · simpa using fresh
  · simp

end Heap

/-- The unfolding of a value on a path. It comes to an end since a path never names an array twice
and suppliers are nested finitely deep. -/
def Value.unfold (h : Heap) (path : List ArrayId) : Value → Unfolding
  | .deferred v => .supplied (v.unfold h path)
  | .array id =>
    if id ∈ path then .marker id
    else .array id ((h.elements id).attach.map fun ⟨v, _⟩ => v.unfold h (id :: path))
  | v => .leaf v
termination_by v => (h.unopened path, sizeOf v)
decreasing_by
  · exact Prod.Lex.right _ (by simp)
  · rename_i fresh mem
    exact Prod.Lex.left _ _ (Heap.unopened_cons_lt fresh mem)

namespace Value

variable {h : Heap} {path : List ArrayId} {id : ArrayId}

/-- An array on the path is marked. -/
theorem unfold_array_of_mem (on_path : id ∈ path) :
    (Value.array id).unfold h path = .marker id := by
  rw [unfold, if_pos on_path]

/-- An array that is not on the path is entered, and its elements unfold on the longer path. -/
theorem unfold_array_of_not_mem (fresh : id ∉ path) :
    (Value.array id).unfold h path
      = .array id ((h.elements id).map (Value.unfold h (id :: path))) := by
  rw [unfold, if_neg fresh]
  simp

/-- A value that is no array and supplies no value stands for itself. -/
theorem unfold_leaf (h : Heap) (path : List ArrayId) {v : Value}
    (not_deferred : ∀ w, v = .deferred w → False) (not_array : ∀ id, v = .array id → False) :
    v.unfold h path = .leaf v := by
  rw [unfold]
  · exact not_deferred
  · exact not_array

/-- What the unfolding of a value looks like: a supplier answers, an array is on the path or is
entered, and every other value stands for itself. -/
theorem unfold_cases (h : Heap) (path : List ArrayId) (v : Value) :
    (∃ w, v = .deferred w ∧ v.unfold h path = .supplied (w.unfold h path)) ∨
    (∃ id, v = .array id ∧ id ∈ path ∧ v.unfold h path = .marker id) ∨
    (∃ id, v = .array id ∧ id ∉ path ∧ v.unfold h path
      = .array id ((h.elements id).map (Value.unfold h (id :: path)))) ∨
    (v.array? = none ∧ v.unfold h path = .leaf v) := by
  cases v with
  | deferred w => exact Or.inl ⟨w, rfl, by rw [unfold]⟩
  | array id =>
    by_cases on_path : id ∈ path
    · exact Or.inr (Or.inl ⟨id, rfl, on_path, unfold_array_of_mem on_path⟩)
    · exact Or.inr (Or.inr (Or.inl ⟨id, rfl, on_path, unfold_array_of_not_mem on_path⟩))
  | _ => exact Or.inr (Or.inr (Or.inr ⟨rfl, by rw [unfold] <;> simp⟩))

end Value

/-! ## Texts -/

/-- Texts made one after the other, each after the attempts of those before it, and the attempts
after all of them. -/
def inTurn {α : Type} (text : List Attempt → α → String × List Attempt) (attempts : List Attempt) :
    List α → List String × List Attempt
  | [] => ([], attempts)
  | x :: xs =>
    let first := text attempts x
    let others := inTurn text first.2 xs
    (first.1 :: others.1, others.2)

/-- Texts of changed things are made in turn as changed texts of the things. -/
theorem inTurn_map {α β : Type} (f : α → β) (text : List Attempt → β → String × List Attempt)
    (attempts : List Attempt) (xs : List α) :
    inTurn text attempts (xs.map f)
      = inTurn (fun attempts x => text attempts (f x)) attempts xs := by
  induction xs generalizing attempts with
  | nil => rfl
  | cons x xs ih => simp only [List.map_cons, inTurn, ih]

namespace Unfolding

mutual

/-- The text of an unfolding after earlier attempts, and the attempts after it: elements stand
between brackets with commas between them. -/
def write (h : Heap) (attempts : List Attempt) : Unfolding → String × List Attempt
  | .leaf v => v.render h attempts
  | .supplied u => u.write h (attempts ++ [.supplied])
  | .marker _ => ("[...]", attempts)
  | .array _ us =>
    let elements := writeAll h attempts us
    (bracketed elements.1, elements.2)

/-- The texts of unfoldings one after the other, and the attempts after them. -/
def writeAll (h : Heap) (attempts : List Attempt) : List Unfolding → List String × List Attempt
  | [] => ([], attempts)
  | u :: us =>
    let first := u.write h attempts
    let others := writeAll h first.2 us
    (first.1 :: others.1, others.2)

end

/-- Unfoldings are written in turn. -/
theorem writeAll_eq_inTurn (h : Heap) (attempts : List Attempt) (us : List Unfolding) :
    writeAll h attempts us = inTurn (write h) attempts us := by
  induction us generalizing attempts with
  | nil => rfl
  | cons u us ih => simp only [writeAll, inTurn, ih]

end Unfolding

/-! ## Rendering -/

namespace Rendering

/-- Appends a text whose making has left the attempts given with it. -/
def extend (r : Rendering) (w : String × List Attempt) : Rendering :=
  { r with out := r.out ++ w.1, attempts := w.2 }

/-- A text leaves the attempts that came with it. -/
@[simp] theorem extend_attempts (r : Rendering) (w : String × List Attempt) :
    (r.extend w).attempts = w.2 := rfl

/-- Two texts one behind the other are one text. -/
theorem extend_extend (r : Rendering) (w w' : String × List Attempt) :
    (r.extend w).extend w' = r.extend (w.1 ++ w'.1, w'.2) := by
  simp [extend, String.append_assoc]

/-- Plain text leaves the attempts as they are. -/
theorem put_eq_extend (r : Rendering) (s : String) : r.put s = r.extend (s, r.attempts) := rfl

end Rendering

/-- A value that is no array and supplies no value is rendered by its own text. -/
theorem Value.appendTo_leaf (h : Heap) (array : Rendering → ArrayId → Rendering) (r : Rendering)
    {v : Value} (not_deferred : ∀ w, v = .deferred w → False)
    (not_array : ∀ id, v = .array id → False) :
    v.appendTo h array r = r.extend (v.render h r.attempts) := by
  cases v with
  | deferred w => exact (not_deferred w rfl).elim
  | array id => exact (not_array id rfl).elim
  | _ =>
    simp [Value.appendTo, Value.render, Rendering.append, Rendering.extend, Rendering.put,
      Rendering.note, Rendering.asked]

namespace Rendering

variable {h : Heap} {path : List ArrayId}

/-- A comma stands between two elements. -/
theorem joined_cons_cons {α : Type} (append : Rendering → α → Rendering) (r : Rendering) (x y : α)
    (ys : List α) :
    joined append r (x :: y :: ys) = joined append ((append r x).put ", ") (y :: ys) := rfl

/-- Where every element appends its text and leaves the open arrays alone, a list appends the texts
of its elements in turn. -/
theorem joined_eq_extend {α : Type} {append : Rendering → α → Rendering}
    {text : List Attempt → α → String × List Attempt} {xs : List α}
    (each : ∀ x ∈ xs, ∀ r : Rendering, r.opened = path → append r x = r.extend (text r.attempts x))
    {r : Rendering} (opened : r.opened = path) :
    joined append r xs = r.extend (", ".intercalate (inTurn text r.attempts xs).1,
      (inTurn text r.attempts xs).2) := by
  induction xs generalizing r with
  | nil => simp [joined, inTurn, extend]
  | cons x xs ih =>
    have first := each x List.mem_cons_self r opened
    have others := fun y mem => each y (List.mem_cons_of_mem x mem)
    cases xs with
    | nil =>
      rw [joined, List.foldl_nil, first]
      simp [inTurn]
    | cons y ys =>
      -- neither an element nor a comma opens or closes an array
      have opened' : ((r.extend (text r.attempts x)).put ", ").opened = path := opened
      rw [joined_cons_cons, first, ih others opened', put_eq_extend, extend_extend, extend_extend]
      simp only [inTurn, extend_attempts, String.intercalate_cons_cons, String.append_assoc]

/-- A value is rendered by the text of its unfolding if arrays are. -/
theorem appendTo_eq_extend {array : Rendering → ArrayId → Rendering}
    (arrays : ∀ (r : Rendering) (id : ArrayId), r.opened = path →
      array r id = r.extend (((Value.array id).unfold h path).write h r.attempts))
    (v : Value) (r : Rendering) (opened : r.opened = path) :
    v.appendTo h array r = r.extend ((v.unfold h path).write h r.attempts) := by
  induction v generalizing r with
  | deferred v ih =>
    rw [Value.appendTo, ih (r.note .supplied) opened, Value.unfold, Unfolding.write]
    rfl
  | array id => exact arrays r id opened
  | _ =>
    rw [Value.appendTo_leaf, Value.unfold, Unfolding.write] <;> simp

/-- Inside itself an array is written as the marker. -/
theorem array_of_mem (room : Nat) {r : Rendering} {id : ArrayId} (opened : id ∈ r.opened) :
    array h room r id = r.extend ("[...]", r.attempts) := by
  rw [array.eq_def]
  simp only [put, opened, if_true, extend, String.append_assoc]
  rfl

/-- An array is rendered by the text of its unfolding, if there is room for all arrays that are not
open: it takes room to open an array, but then there is one array less that is not open. -/
theorem array_eq_extend (room : Nat) (r : Rendering) (id : ArrayId)
    (enough : h.unopened r.opened ≤ room) :
    array h room r id = r.extend (((Value.array id).unfold h r.opened).write h r.attempts) := by
  induction room generalizing r id with
  | zero =>
    by_cases opened : id ∈ r.opened
    · rw [array_of_mem 0 opened, Value.unfold_array_of_mem opened, Unfolding.write]
    · -- an array with elements would still have to be opened
      have empty : h.elements id = [] := by
        rw [List.eq_nil_iff_forall_not_mem]
        intro v mem
        have less := Heap.unopened_cons_lt opened mem
        omega
      rw [array.eq_def, Value.unfold_array_of_not_mem opened, empty]
      simp [put, opened, extend, Unfolding.write, Unfolding.writeAll, bracketed,
        String.append_assoc]
  | succ room ih =>
    by_cases opened : id ∈ r.opened
    · rw [array_of_mem (room + 1) opened, Value.unfold_array_of_mem opened, Unfolding.write]
    · let text := fun attempts (v : Value) => (v.unfold h (id :: r.opened)).write h attempts
      let start : Rendering := ⟨r.out ++ "[", id :: r.opened, r.attempts⟩
      have elements : joined (fun r v => v.appendTo h (array h room) r) start (h.elements id)
          = start.extend (", ".intercalate (inTurn text r.attempts (h.elements id)).1,
            (inTurn text r.attempts (h.elements id)).2) := by
        refine joined_eq_extend (fun v mem inner inside => ?_) rfl
        have less := Heap.unopened_cons_lt opened mem
        refine appendTo_eq_extend (fun inner' id' inside' => ?_) v inner inside
        rw [ih inner' id' (by rw [inside']; omega), inside']
      rw [array.eq_def, Value.unfold_array_of_not_mem opened, Unfolding.write,
        Unfolding.writeAll_eq_inTurn, inTurn_map]
      simp only [put, opened, if_false, elements, start, extend, List.erase_cons_head, bracketed,
        String.append_assoc, text]

/-- **Rendering follows the unfolding.** A value appends the text of its unfolding on the path of
the open arrays, and the open arrays are the same afterwards. -/
theorem append_eq_extend (r : Rendering) (v : Value) :
    r.append h v = r.extend ((v.unfold h r.opened).write h r.attempts) := by
  refine appendTo_eq_extend (fun r' id same => ?_) v r rfl
  rw [array_eq_extend _ r' id (h.unopened_le_length _), same]

end Rendering

/-- The text of a value alone is that of its unfolding on the empty path. -/
theorem Value.render_eq_write (h : Heap) (attempts : List Attempt) (v : Value) :
    v.render h attempts = (v.unfold h []).write h attempts := by
  simp [Value.render, Rendering.append_eq_extend, Rendering.extend]

/-- Where no array is open, a value appends the text that it has alone. -/
theorem Rendering.append_of_closed (h : Heap) {r : Rendering} (closed : r.opened = []) (v : Value) :
    r.append h v = r.extend (v.render h r.attempts) := by
  rw [append_eq_extend, closed, Value.render_eq_write]

end Logline
