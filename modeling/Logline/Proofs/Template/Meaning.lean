import Logline.Message
import Logline.Proofs.Template.Scanning

/-! # The meaning of templates

A message is its template filled place by place with the texts of the arguments. What stands between
the texts depends on the template and the number of arguments alone: the text of an argument is
never looked at again, whatever braces or backslashes there are in it.

* `Template.exists_literals` — the plain text between the slots
* `Message.ofArguments_eq_filled` — what a template and its arguments come to -/

namespace Logline

namespace Template

/-! ## Plain text between slots -/

/-- The pieces of a template are literals around its slots, whatever the texts in these are. -/
theorem exists_literals_pieces (lead : List Char) (ps : List Piece) :
    ∃ (literals : List String) (last : String), literals.length = ps.count .slot ∧
      ∀ texts : List String, texts.length = ps.count .slot →
        String.ofList (lead ++ assemble ps texts)
          = String.join (List.zipWith (· ++ ·) literals texts) ++ last := by
  -- a literal joins the text in front of it, and a slot completes that
  induction ps generalizing lead with
  | nil => exact ⟨[], String.ofList lead, rfl, fun texts _ => by simp [assemble]⟩
  | cons p ps ih =>
    cases p with
    | literal s =>
      obtain ⟨literals, last, many, split⟩ := ih (lead ++ s)
      refine ⟨literals, last, by simpa using many, fun texts length => ?_⟩
      rw [assemble, ← List.append_assoc]
      exact split texts (by simpa using length)
    | slot =>
      obtain ⟨literals, last, many, split⟩ := ih []
      refine ⟨String.ofList lead :: literals, last, by simpa using many, fun texts length => ?_⟩
      cases texts with
      | nil => simp at length
      | cons text texts =>
        have others := split texts (by simpa using length)
        rw [List.nil_append] at others
        rw [assemble, String.ofList_append, String.ofList_append, others, String.ofList_toList,
          List.zipWith_cons_cons]
        simp [String.append_assoc]

/-- Between the texts stands what the template and the number of arguments say. -/
theorem exists_literals (t : String) (count : Nat) :
    ∃ (literals : List String) (last : String),
      literals.length = min count (openSlots t.toList).length ∧
      ∀ texts : List String, texts.length = min count (openSlots t.toList).length →
        filled t count texts = String.join (List.zipWith (· ++ ·) literals texts) ++ last := by
  have pieces := exists_literals_pieces [] (pieces count t)
  simpa only [count_pieces, List.nil_append, ← filled_eq_assemble] using pieces

/-! ## One text among others -/

/-- Of literals and texts in turn, what stands in front of one text and what stands behind it do not
depend on it. -/
theorem join_zipWith_split {literals : List String} {k : Nat} (lt : k < literals.length)
    {front : List String} (reached : front.length = k) (text : String) (back : List String) :
    String.join (List.zipWith (· ++ ·) literals (front ++ text :: back))
      = String.join (List.zipWith (· ++ ·) (literals.take k) front) ++ literals[k] ++ text
        ++ String.join (List.zipWith (· ++ ·) (literals.drop (k + 1)) back) := by
  have split : literals = literals.take k ++ literals[k] :: literals.drop (k + 1) := by
    rw [← List.drop_eq_getElem_cons lt, List.take_append_drop]
  have length : (literals.take k).length = front.length := by
    rw [List.length_take, reached, Nat.min_eq_left (Nat.le_of_lt lt)]
  conv => lhs; rw [split, List.zipWith_append length, List.zipWith_cons_cons]
  simp [String.append_assoc]

end Template

namespace Message
open Template

variable {h : Heap} {attempts : List Attempt} {t : String} {args : List Value}
  {throwable : Option ThrowableId}

/-- With a template, a message is the template filled with as many of the arguments as it has open
slots, and these are rendered in turn. -/
theorem ofArguments_some :
    ofArguments h attempts (some t) args throwable =
      (⟨some (filled t args.length
          (Value.renderAll h attempts (args.take (openSlots t.toList).length)).1), args, throwable⟩,
        (Value.renderAll h attempts (args.take (openSlots t.toList).length)).2) := by
  simp only [ofArguments, fill_eq_filled]

/-- Another argument in one place changes the text of that place. What the later arguments come to
depends on it through counters only. -/
theorem exists_front_back {k : Nat} (lt : k < args.length)
    (used : k < (openSlots t.toList).length) :
    ∃ (front : String) (back : List Attempt → String),
      (∀ as bs, Attempt.Alike as bs → back as = back bs) ∧
      ∀ v : Value, (ofArguments h attempts (some t) (args.set k v) throwable).1.text =
        some (front ++ (v.render h (Value.renderAll h attempts (args.take k)).2).1
          ++ back (v.render h (Value.renderAll h attempts (args.take k)).2).2) := by
  obtain ⟨literals, last, many, split⟩ := exists_literals t args.length
  have reached : k < literals.length := by rw [many]; omega
  -- the arguments behind the one that is replaced
  let later := (args.take (openSlots t.toList).length).drop (k + 1)
  refine ⟨String.join (List.zipWith (· ++ ·) (literals.take k)
      (Value.renderAll h attempts (args.take k)).1) ++ literals[k],
    fun as => String.join (List.zipWith (· ++ ·) (literals.drop (k + 1))
      (Value.renderAll h as later).1) ++ last, ?_, fun v => ?_⟩
  -- those see earlier attempts by their counters only
  · intro as bs alike
    simp only [Value.renderAll_congr alike]
  · have place : (args.set k v).take (openSlots t.toList).length = args.take k ++ v :: later := by
      rw [List.take_set, List.set_eq_take_append_cons_drop, if_pos (by simp; omega), List.take_take,
        Nat.min_eq_left (Nat.le_of_lt used)]
    have front : (Value.renderAll h attempts (args.take k)).1.length = k := by
      rw [Value.length_renderAll, List.length_take, Nat.min_eq_left (Nat.le_of_lt lt)]
    rw [ofArguments_some, List.length_set, place, Value.renderAll_append, Value.renderAll_cons,
      split _ ?_, join_zipWith_split reached front]
    · simp [String.append_assoc]
    · simp [later]
      omega

/-- **A message is its template filled place by place.** The arguments that there are open slots for
are rendered one after the other, and their texts take the places of the slots; the plain text
between them depends on the template and the number of arguments only. So another argument changes
the text of its own place: what stands in front of it stays, and so does what stands behind it,
unless later suppliers count how often they were asked. -/
theorem ofArguments_eq_filled (t : String) :
    (∀ h attempts args throwable, ofArguments h attempts (some t) args throwable =
      (⟨some (filled t args.length
          (Value.renderAll h attempts (args.take (openSlots t.toList).length)).1), args, throwable⟩,
        (Value.renderAll h attempts (args.take (openSlots t.toList).length)).2)) ∧
    (∀ count, ∃ (literals : List String) (last : String),
      literals.length = min count (openSlots t.toList).length ∧
      ∀ texts : List String, texts.length = min count (openSlots t.toList).length →
        filled t count texts = String.join (List.zipWith (· ++ ·) literals texts) ++ last) ∧
    (∀ h attempts (args : List Value) throwable k, k < args.length →
      k < (openSlots t.toList).length →
      ∃ (front : String) (back : List Attempt → String),
        (∀ as bs, Attempt.Alike as bs → back as = back bs) ∧
        ∀ v : Value, (ofArguments h attempts (some t) (args.set k v) throwable).1.text =
          some (front ++ (v.render h (Value.renderAll h attempts (args.take k)).2).1
            ++ back (v.render h (Value.renderAll h attempts (args.take k)).2).2)) :=
  ⟨fun _ _ _ _ => ofArguments_some, exists_literals t,
    fun _ _ _ _ _ lt used => exists_front_back lt used⟩

/-- Two arguments for three open slots, the first of them behind an escaped one. -/
theorem ofArguments_eq_filled_braces :
    (ofArguments Heap.empty [] (some "\\{} {} \\\\{} {}") [.int 1, .text "\\{}"] none).1.text
      = some "{} 1 \\\\{} {}" ∧
    ∃ (front : String) (back : List Attempt → String),
      (∀ as bs, Attempt.Alike as bs → back as = back bs) ∧
      ∀ v : Value,
        (ofArguments Heap.empty [] (some "\\{} {} \\\\{} {}") [.int 1, v] none).1.text
          = some (front ++ (v.render Heap.empty []).1 ++ back (v.render Heap.empty []).2) := by
  obtain ⟨whole, -, other⟩ := ofArguments_eq_filled "\\{} {} \\\\{} {}"
  refine ⟨?_, other Heap.empty [] [.int 1, .text "\\{}"] none 1 (by decide) (by decide)⟩
  rw [whole]
  decide

end Message

end Logline
