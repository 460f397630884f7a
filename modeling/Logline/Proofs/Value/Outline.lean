import Logline.Proofs.Text.Quoted
import Logline.Value.Outline

/-! # Outlines

An outline is printable and stands on one line, whatever the texts in the value and the messages of
throwables are; and the outline of a text or a character tells which one it is.

* `Decimal.text_printable` — numbers are printable
* `Value.outline_printable`, `Heap.outline_printable` — outlines are printable
* `Value.outline_text_inj`, `Value.outline_char_inj` — the outlines of texts and characters -/

namespace Logline

open Text

/-! ## Numbers -/

namespace Decimal

/-- The digits of the shortest decimal of a number have a visible form. -/
theorem isPrintable_of_mem_shortest {f : Format} {m : Nat} {e : Int} {c : Char}
    (mem : c ∈ (f.shortest m e).1) : isPrintable c = true := by
  -- they are digits of a natural number
  simp only [Format.shortest, withoutTrailingZeros] at mem
  have among := List.mem_reverse.1 ((List.dropWhile_suffix _).subset (List.mem_reverse.1 mem))
  exact printable_nat _ c among

/-- Digits that are written positionally have a visible form. -/
theorem isPrintable_of_mem_positional {ds : List Char} (digits : ∀ c ∈ ds, isPrintable c = true)
    (whole : Int) : ∀ c ∈ positional ds whole, isPrintable c = true := by
  intro c mem
  have point : isPrintable '.' = true := by decide
  have zero : isPrintable '0' = true := by decide
  rw [positional] at mem
  split at mem
  -- in front of the point stands nothing but a zero
  · simp only [List.cons_append, List.nil_append, List.mem_cons, List.mem_append,
      List.mem_replicate] at mem
    rcases mem with rfl | rfl | ⟨-, rfl⟩ | mem
    · exact zero
    · exact point
    · exact zero
    · exact digits c mem
  · simp only [List.append_assoc, List.mem_append, List.mem_cons, List.mem_replicate] at mem
    rcases mem with mem | ⟨-, rfl⟩ | rfl | mem
    · exact digits c (List.mem_of_mem_take mem)
    · exact zero
    · exact point
    · split at mem
      · exact List.mem_singleton.1 mem ▸ zero
      · exact digits c (List.mem_of_mem_drop mem)

/-- So have digits that are written with a power of ten. -/
theorem isPrintable_of_mem_scientific {ds : List Char} (digits : ∀ c ∈ ds, isPrintable c = true)
    (order : Int) : ∀ c ∈ scientific ds order, isPrintable c = true := by
  intro c mem
  have point : isPrintable '.' = true := by decide
  have letter : isPrintable 'e' = true := by decide
  simp only [scientific, List.append_assoc, List.mem_append, List.mem_cons] at mem
  rcases mem with mem | mem | rfl | mem
  · exact digits c (List.mem_of_mem_take mem)
  · split at mem
    · cases mem
    · rcases List.mem_cons.1 mem with rfl | mem
      · exact point
      · exact digits c (List.mem_of_mem_drop mem)
  · exact letter
  · exact printable_int order c mem

/-- **Numbers are printable.** -/
theorem text_printable (l : Layout) (f : Format) (x : Binary) : Printable (l.text f x) := by
  cases x with
  | nan => exact printable_of_all (s := "NaN") (by decide)
  | infinity negative =>
    cases negative with
    | false => exact printable_of_all (s := "inf") (by decide)
    | true => exact printable_of_all (s := "-inf") (by decide)
  | finite negative m e =>
    have sign : Printable (if negative then "-" else "") := by
      cases negative <;> exact printable_of_all (by decide)
    simp only [Layout.text]
    split
    · exact sign.append (printable_of_all (by decide))
    · refine sign.append fun c mem => ?_
      rw [String.toList_ofList] at mem
      have digits : ∀ c ∈ (f.shortest m e).1, isPrintable c = true :=
        fun _ => isPrintable_of_mem_shortest
      split at mem
      · exact isPrintable_of_mem_positional digits _ c mem
      · exact isPrintable_of_mem_scientific digits _ c mem

end Decimal

/-! ## Values -/

/-- A kind with what it holds is printable. -/
theorem outlineOf_printable {kind content : String} (front : Printable kind)
    (back : Printable content) : Printable (outlineOf kind content) :=
  ((front.append (printable_of_all (by decide))).append back).append (printable_of_all (by decide))

/-- Texts between square brackets are printable. -/
theorem bracketed_printable {α : Type} {text : α → String} (each : ∀ a, Printable (text a))
    (xs : List α) : Printable (bracketed (xs.map text)) := by
  have inner : Printable (", ".intercalate (xs.map text)) := by
    refine printable_intercalate (printable_of_all (by decide)) fun s mem => ?_
    obtain ⟨a, -, rfl⟩ := List.mem_map.1 mem
    exact each a
  exact ((printable_of_all (by decide)).append inner).append (printable_of_all (by decide))

/-- Truth values are printable. -/
theorem printable_bool (b : Bool) : Printable (toString b) := by
  cases b <;> exact printable_of_all (by decide)

/-- Outlines of scalar arrays are printable. -/
theorem Scalars.outline_printable (xs : Scalars) : Printable xs.outline := by
  cases xs <;> refine outlineOf_printable (printable_of_all (by decide)) ?_
  case bools xs => exact bracketed_printable printable_bool xs
  case bytes xs => exact bracketed_printable printable_nat xs
  case chars xs => exact bracketed_printable quoteChar_printable xs
  case shorts xs | ints xs | longs xs => exact bracketed_printable printable_int xs
  case floats xs => exact bracketed_printable (Decimal.text_printable _ .single) xs
  case doubles xs => exact bracketed_printable (Decimal.text_printable _ .double) xs

/-- **One line.** The outline of a value is printable, whatever the texts in it are. -/
theorem Value.outline_printable (h : Heap) (v : Value) : Printable (v.outline h) := by
  cases v with
  | null => exact printable_of_all (s := "Null") (by decide)
  | display => exact printable_of_all (s := "Display(..)") (by decide)
  | deferred | refused | counter => exact printable_of_all (s := "Deferred(..)") (by decide)
  | bool b => exact outlineOf_printable (printable_of_all (by decide)) (printable_bool b)
  | int n => exact outlineOf_printable (printable_of_all (by decide)) (printable_int n)
  | nat n => exact outlineOf_printable (printable_of_all (by decide)) (printable_nat n)
  | float x =>
    exact outlineOf_printable (printable_of_all (by decide)) (Decimal.text_printable _ .double x)
  | char c => exact outlineOf_printable (printable_of_all (by decide)) (quoteChar_printable c)
  | text s => exact outlineOf_printable (printable_of_all (by decide)) (quote_printable s)
  | scalars xs => exact outlineOf_printable (printable_of_all (by decide)) xs.outline_printable
  | array id => exact outlineOf_printable (printable_of_all (by decide)) (printable_nat _)
  | throwable id => exact outlineOf_printable (printable_of_all (by decide)) (quote_printable _)

/-- The outline of an optional text is printable. -/
theorem outlineOption_printable (s : Option String) : Printable (outlineOption s) := by
  cases s with
  | none => exact printable_of_all (s := "None") (by decide)
  | some s => exact outlineOf_printable (printable_of_all (by decide)) (quote_printable s)

/-- The outline of a throwable is printable, whatever its message and that of its cause are. -/
theorem Heap.outline_printable (h : Heap) (id : ThrowableId) : Printable (h.outline id) := by
  have named := (printable_of_all (s := "Throwable \x7b class_name: ") (by decide)).append
    (quote_printable (h.throwable id).className)
  have said := (named.append (printable_of_all (s := ", message: ") (by decide))).append
    (outlineOption_printable (h.throwable id).message)
  have framed := (said.append (printable_of_all (s := ", frames: ") (by decide))).append
    (printable_nat (h.throwable id).frames.length)
  have caused := (framed.append (printable_of_all (s := ", cause: ") (by decide))).append
    (outlineOption_printable ((h.throwable id).cause.map h.caption))
  exact caused.append (printable_of_all (s := ", .. \x7d") (by decide))

/-! ## What outlines tell -/

/-- Outlines of one kind tell what is held. -/
theorem outlineOf_inj {kind s t : String} : outlineOf kind s = outlineOf kind t ↔ s = t := by
  refine ⟨fun eq => ?_, congrArg (outlineOf kind)⟩
  have chars := congrArg String.toList eq
  simpa only [outlineOf, String.toList_append, List.append_left_inj, List.append_right_inj,
    String.toList_inj] using chars

/-- **Texts.** Two texts have one outline if and only if they are the same text. -/
theorem Value.outline_text_inj (h : Heap) {s t : String} :
    (Value.text s).outline h = (Value.text t).outline h ↔ s = t := by
  rw [outline, outline, outlineOf_inj, quote_inj]

/-- **Characters.** Two characters have one outline if and only if they are the same. -/
theorem Value.outline_char_inj (h : Heap) {c d : Char} :
    (Value.char c).outline h = (Value.char d).outline h ↔ c = d := by
  rw [outline, outline, outlineOf_inj, quoteChar_inj]

end Logline
