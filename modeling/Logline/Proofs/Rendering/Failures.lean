import Logline.Proofs.History.Delivery
import Logline.Proofs.Rendering.Attempts
import Logline.Proofs.Template.Meaning

/-! # Failing arguments

A conversion or supplier that fails costs its own text and one report, and nothing else. This is
told by comparison with values that are **repaired**: in these the text of a failure stands where a
conversion or supplier fails. A value and its repaired one come to the same text.

* `Value.asked` — what a value asks of its conversions and suppliers, in order
* `Value.repaired`, `Heap.repaired` — values and arrays in which nothing fails
* `Agree` — the same text after attempts that are alike
* `Value.asked_repaired`, `Value.render_repaired` — what a repaired value asks and comes to
* `World.failures_contained` — values and messages, and the reports of their failures -/

namespace Logline

/-! ## What is asked -/

/-- What a value asks that is no array and supplies no value. -/
def Value.attempt? : Value → Option Attempt
  | .display c => some (.conversion c)
  | .refused r => some (.refused r)
  | .counter name => some (.counted name)
  | _ => none

namespace Unfolding

mutual

/-- What an unfolding asks, from left to right: every occurrence of a supplier and of a conversion
once. -/
def asked : Unfolding → List Attempt
  | .leaf v => v.attempt?.toList
  | .supplied u => .supplied :: u.asked
  | .marker _ => []
  | .array _ us => askedAll us

/-- What unfoldings ask one after the other. -/
def askedAll : List Unfolding → List Attempt
  | [] => []
  | u :: us => u.asked ++ askedAll us

end

/-- Unfoldings ask one after the other. -/
theorem askedAll_eq_flatMap (us : List Unfolding) : askedAll us = us.flatMap asked := by
  induction us with
  | nil => rfl
  | cons u us ih => rw [askedAll, ih, List.flatMap_cons]

end Unfolding

/-- What is asked in turn comes behind earlier attempts, one after the other. -/
theorem attempts_inTurn {α : Type} {text : List Attempt → α → String × List Attempt}
    {asked : α → List Attempt} {xs : List α}
    (each : ∀ x ∈ xs, ∀ as, (text as x).2 = as ++ asked x) (as : List Attempt) :
    (inTurn text as xs).2 = as ++ xs.flatMap asked := by
  induction xs generalizing as with
  | nil => exact (List.append_nil as).symm
  | cons x xs ih =>
    have others := ih fun y mem => each y (List.mem_cons_of_mem x mem)
    rw [inTurn, others, each x List.mem_cons_self, List.flatMap_cons, List.append_assoc]

namespace Value

/-- A value that is no array and supplies no value asks for itself. -/
theorem attempts_render_leaf (h : Heap) {v : Value} (not_deferred : ∀ w, v = .deferred w → False)
    (not_array : ∀ id, v = .array id → False) (as : List Attempt) :
    (v.render h as).2 = as ++ v.attempt?.toList := by
  cases v with
  | deferred w => exact (not_deferred w rfl).elim
  | array id => exact (not_array id rfl).elim
  | _ =>
    simp [render, Rendering.append, appendTo, Rendering.note, Rendering.put, attempt?]

/-- The attempts after an unfolding are the earlier ones and what it asks. -/
theorem attempts_write_unfold (h : Heap) (path : List ArrayId) (v : Value) (as : List Attempt) :
    ((v.unfold h path).write h as).2 = as ++ (v.unfold h path).asked := by
  induction path, v using Value.unfold.induct h generalizing as with
  | case1 path v ih =>
    rw [unfold, Unfolding.write, ih, Unfolding.asked, List.append_assoc, List.singleton_append]
  | case2 path id on_path =>
    rw [unfold_array_of_mem on_path, Unfolding.write, Unfolding.asked, List.append_nil]
  | case3 path id fresh ih =>
    rw [unfold_array_of_not_mem fresh, Unfolding.write, Unfolding.writeAll_eq_inTurn, inTurn_map,
      Unfolding.asked, Unfolding.askedAll_eq_flatMap, List.flatMap_map]
    exact attempts_inTurn ih as
  | case4 path v not_deferred not_array =>
    rw [unfold_leaf h path not_deferred not_array, Unfolding.write, Unfolding.asked]
    exact attempts_render_leaf h not_deferred not_array as

/-- What a value asks when it is rendered alone. -/
def asked (h : Heap) (v : Value) : List Attempt := (v.unfold h []).asked

/-- What is rendered in turn asks one value after the other. -/
theorem attempts_renderAll (h : Heap) (as : List Attempt) (vs : List Value) :
    (renderAll h as vs).2 = as ++ vs.flatMap (asked h) := by
  refine attempts_inTurn (fun v _ as => ?_) as
  rw [render_eq_write]
  exact attempts_write_unfold h [] v as

end Value

/-! ## Agreement -/

/-- Two things that are made **agree** if they come out the same after attempts that are alike, and
leave attempts that are alike. -/
def Agree {α : Type} (make make' : List Attempt → α × List Attempt) : Prop :=
  ∀ as bs, Attempt.Alike as bs →
    (make as).1 = (make' bs).1 ∧ Attempt.Alike (make as).2 (make' bs).2

/-- What is made steadily agrees with itself. -/
theorem Steady.agree {α : Type} {make : List Attempt → α × List Attempt} (steady : Steady make) :
    Agree make make := by
  obtain ⟨asked, steady⟩ := steady
  intro as bs alike
  refine ⟨(steady as).2 bs alike, ?_⟩
  rw [(steady as).1, (steady bs).1]
  exact alike.append asked

namespace Agree

variable {α β : Type} {make make' : List Attempt → α × List Attempt}

/-- Things that agree go on to do so behind one more attempt. -/
theorem after (agree : Agree make make') (a : Attempt) :
    Agree (fun as => make (as ++ [a])) fun as => make' (as ++ [a]) :=
  fun _ _ alike => agree _ _ (alike.append [a])

/-- Things that agree do so when both are changed alike. -/
theorem map (agree : Agree make make') (f : α → β) :
    Agree (fun as => (f (make as).1, (make as).2)) fun as => (f (make' as).1, (make' as).2) :=
  fun as bs alike => (agree as bs alike).imp_left (congrArg f)

/-- Texts that agree one by one do so in turn. -/
theorem inTurn {text text' : List Attempt → α → String × List Attempt} {xs : List α}
    (each : ∀ x ∈ xs, Agree (fun as => text as x) fun as => text' as x) :
    Agree (fun as => Logline.inTurn text as xs) fun as => Logline.inTurn text' as xs := by
  induction xs with
  | nil => exact fun as bs alike => ⟨rfl, alike⟩
  | cons x xs ih =>
    intro as bs alike
    obtain ⟨first, alike'⟩ := each x List.mem_cons_self as bs alike
    obtain ⟨others, last⟩ := ih (fun y mem => each y (List.mem_cons_of_mem x mem)) _ _ alike'
    exact ⟨by simp only [Logline.inTurn, first, others], last⟩

end Agree

/-! ## Repaired values -/

/-- A value in which nothing fails: where a conversion or supplier would, the text of a failure
stands. -/
def Value.repaired : Value → Value
  | .display c =>
    match c.ending with
    | .done => .display c
    | .failure | .panic _ => .text "[FAILED toString()]"
  | .deferred v => .deferred v.repaired
  | .refused _ => .text "[FAILED toString()]"
  | v => v

/-- A supplier answers with the repaired copy of its value. -/
@[simp] theorem Value.repaired_deferred (v : Value) :
    (Value.deferred v).repaired = .deferred v.repaired := rfl

/-- A reference to an array stays, since the heap is repaired itself. -/
@[simp] theorem Value.repaired_array (id : ArrayId) : (Value.array id).repaired = .array id := rfl

/-- A heap whose arrays hold values in which nothing fails. -/
def Heap.repaired (h : Heap) : Heap := { h with arrays := h.arrays.map (List.map Value.repaired) }

/-- The elements of an array are repaired one by one. -/
theorem Heap.elements_repaired (h : Heap) (id : ArrayId) :
    h.repaired.elements id = (h.elements id).map Value.repaired := by
  rw [elements, elements, repaired, List.getElem?_map]
  cases h.arrays[id]? <;> rfl

/-- What fails leaves the counters alone. -/
theorem Attempt.Alike.behind_failed {as bs : List Attempt} (alike : Alike as bs) {a : Attempt}
    (failed : a.report?.isSome) : Alike as (bs ++ [a]) := by
  intro name
  cases a with
  | counted _ => cases failed
  | _ => simpa [Attempt.asks] using alike name

namespace Value

/-- A repaired value supplies a value or is an array only where the value does or is. -/
theorem repaired_leaf {v : Value} (not_deferred : ∀ w, v = .deferred w → False)
    (not_array : ∀ id, v = .array id → False) :
    (∀ w, v.repaired = .deferred w → False) ∧ ∀ id, v.repaired = .array id → False := by
  cases v with
  | deferred w => exact (not_deferred w rfl).elim
  | array id => exact (not_array id rfl).elim
  | display c => obtain ⟨written, _ | _ | p⟩ := c <;> simp [repaired]
  | _ => simp [repaired]

/-- In a repaired heap an array has the unfoldings of its repaired elements. -/
theorem unfold_array_repaired {h : Heap} {path : List ArrayId} {id : ArrayId} (fresh : id ∉ path) :
    (Value.array id).unfold h.repaired path
      = .array id ((h.elements id).map fun v => v.repaired.unfold h.repaired (id :: path)) := by
  rw [unfold_array_of_not_mem fresh, Heap.elements_repaired, List.map_map]
  rfl

/-- A repaired value asks what it asked before if that did not fail, and nothing if it did. -/
theorem attempt?_repaired (v : Value) :
    v.repaired.attempt?.toList = v.attempt?.toList.filter fun a => a.report?.isNone := by
  cases v with
  | display c => obtain ⟨written, _ | _ | p⟩ := c <;> rfl
  | _ => rfl

/-- A repaired value asks what does not fail, in the same order. -/
theorem asked_unfold_repaired (h : Heap) (path : List ArrayId) (v : Value) :
    (v.repaired.unfold h.repaired path).asked
      = (v.unfold h path).asked.filter fun a => a.report?.isNone := by
  induction path, v using Value.unfold.induct h with
  | case1 path v ih =>
    rw [repaired_deferred, unfold, unfold, Unfolding.asked, Unfolding.asked, ih]
    rfl
  | case2 path id on_path =>
    rw [repaired_array, unfold_array_of_mem on_path, unfold_array_of_mem on_path, Unfolding.asked]
    rfl
  | case3 path id fresh ih =>
    rw [repaired_array, unfold_array_repaired fresh, unfold_array_of_not_mem fresh,
      Unfolding.asked, Unfolding.asked, Unfolding.askedAll_eq_flatMap,
      Unfolding.askedAll_eq_flatMap, List.flatMap_map, List.flatMap_map, List.filter_flatMap]
    exact congrArg List.flatten (List.map_congr_left ih)
  | case4 path v not_deferred not_array =>
    obtain ⟨not_deferred', not_array'⟩ := repaired_leaf not_deferred not_array
    rw [unfold_leaf h path not_deferred not_array, unfold_leaf _ path not_deferred' not_array']
    exact attempt?_repaired v

/-- What is no array and supplies no value comes to the same text when it is repaired. -/
theorem render_leaf_repaired (h : Heap) {v : Value} (not_deferred : ∀ w, v = .deferred w → False)
    (not_array : ∀ id, v = .array id → False) :
    Agree (v.repaired.render h.repaired) (v.render h) := by
  -- what does not fail is left as it is
  have steady := (render_leaf_steady h not_deferred not_array).agree
  cases v with
  | deferred w => exact (not_deferred w rfl).elim
  | array id => exact (not_array id rfl).elim
  | display c =>
    obtain ⟨written, _ | _ | p⟩ := c
    · exact steady
    · exact fun as bs alike => ⟨rfl, alike.behind_failed rfl⟩
    · exact fun as bs alike => ⟨rfl, alike.behind_failed rfl⟩
  | refused r => exact fun as bs alike => ⟨rfl, alike.behind_failed rfl⟩
  | _ => exact steady

/-- The unfolding of a repaired value is written as that of the value is. -/
theorem write_unfold_repaired (h : Heap) (path : List ArrayId) (v : Value) :
    Agree (fun as => (v.repaired.unfold h.repaired path).write h.repaired as)
      fun as => (v.unfold h path).write h as := by
  induction path, v using Value.unfold.induct h with
  | case1 path v ih =>
    simp only [repaired_deferred, unfold, Unfolding.write]
    exact ih.after .supplied
  -- a marker asks nothing and is the same in both heaps
  | case2 path id on_path =>
    simp only [repaired_array, unfold_array_of_mem on_path, Unfolding.write]
    exact (steady_const "[...]").agree
  | case3 path id fresh ih =>
    simp only [repaired_array, unfold_array_repaired fresh, unfold_array_of_not_mem fresh,
      Unfolding.write, Unfolding.writeAll_eq_inTurn, inTurn_map]
    exact (Agree.inTurn ih).map bracketed
  | case4 path v not_deferred not_array =>
    obtain ⟨not_deferred', not_array'⟩ := repaired_leaf not_deferred not_array
    simp only [unfold_leaf h path not_deferred not_array,
      unfold_leaf _ path not_deferred' not_array', Unfolding.write]
    exact render_leaf_repaired h not_deferred not_array

/-- **A repaired value asks what does not fail.** -/
theorem asked_repaired (h : Heap) (v : Value) :
    v.repaired.asked h.repaired = (v.asked h).filter fun a => a.report?.isNone :=
  asked_unfold_repaired h [] v

/-- **A value and its repaired one come to the same text.** -/
theorem render_repaired (h : Heap) (v : Value) :
    Agree (v.repaired.render h.repaired) (v.render h) := by
  have texts := write_unfold_repaired h [] v
  simp only [← render_eq_write] at texts
  exact texts

/-- Values and their repaired ones come to the same texts, one after the other. -/
theorem renderAll_repaired (h : Heap) (as : List Attempt) (vs : List Value) :
    (renderAll h.repaired as (vs.map repaired)).1 = (renderAll h as vs).1 := by
  rw [renderAll, inTurn_map]
  exact (Agree.inTurn (fun v (_ : v ∈ vs) => v.render_repaired h) as as fun _ => rfl).1

end Value

/-! ## Reports -/

namespace World

/-- Renders a value behind a text. -/
def append (w : World) (front : String) (v : Value) : String × World :=
  w.asking fun h attempts =>
    let r := Rendering.append h ⟨front, [], attempts⟩ v
    (r.out, r.attempts)

/-- Makes a message from a template and arguments that all belong to its text. -/
def format (w : World) (template : String) (args : List Value) (throwable : Option ThrowableId) :
    Message × World :=
  w.asking fun h attempts => Message.ofArguments h attempts (some template) args throwable

/-- A world whose arrays hold values in which nothing fails. -/
def repaired (w : World) : World := { w with heap := w.heap.repaired }

/-- A world after arguments were asked: what failed was reported to the trap of the process, once
each and in order. -/
def answered (w : World) (asked : List Attempt) : World :=
  { w with
    attempts := w.attempts ++ asked
    journal := w.journal ++ (asked.filterMap Attempt.report?).map (.report w.processTrap) }

/-- What is asked behind earlier attempts is noted, and reported where it failed. -/
theorem asking_eq_answered {α : Type} (w : World) {make : Heap → List Attempt → α × List Attempt}
    {x : α} {asked : List Attempt} (made : make w.heap w.attempts = (x, w.attempts ++ asked)) :
    w.asking make = (x, w.answered asked) := by
  rw [asking_eq, made, List.drop_left]
  rfl

/-- An appended value adds its text, and the world answers what the value asks. -/
theorem append_eq (w : World) (front : String) (v : Value) :
    w.append front v
      = (front ++ (v.render w.heap w.attempts).1, w.answered (v.asked w.heap)) := by
  have closed := Rendering.append_of_closed w.heap (r := ⟨front, [], w.attempts⟩) rfl v
  have attempts := Value.attempts_write_unfold w.heap [] v w.attempts
  rw [← Value.render_eq_write] at attempts
  apply w.asking_eq_answered
  dsimp only
  rw [closed]
  exact Prod.ext rfl attempts

/-- A formatted message fills its template with rendered arguments, and the world answers what these
ask. -/
theorem format_eq (w : World) (t : String) (args : List Value) (throwable : Option ThrowableId) :
    w.format t args throwable
      = (⟨some (Template.filled t args.length (Value.renderAll w.heap w.attempts
            (args.take (Template.openSlots t.toList).length)).1), args, throwable⟩,
          w.answered ((args.take (Template.openSlots t.toList).length).flatMap
            (Value.asked w.heap))) := by
  apply w.asking_eq_answered
  rw [Message.ofArguments_some, Value.attempts_renderAll]

/-- Arguments that are left over when the open slots are filled can be any others. -/
theorem format_left_over (w : World) (t : String) (args : List Value)
    (throwable : Option ThrowableId) (other : Nat → Value → Value) :
    let count := (Template.openSlots t.toList).length
    let others := args.take count ++ (args.drop count).mapIdx other
    w.format t others throwable
      = (⟨(w.format t args throwable).1.text, others, throwable⟩,
          (w.format t args throwable).2) := by
  intro count others
  have length : others.length = args.length := by
    simp only [others, List.length_append, List.length_take, List.length_mapIdx, List.length_drop]
    omega
  have used : others.take count = args.take count := by
    rcases Nat.le_total count args.length with enough | few
    · exact List.take_left' (List.length_take_of_le enough)
    · simp [others, List.drop_eq_nil_of_le few, List.take_of_length_le few]
  rw [format_eq, format_eq, length, used]

/-- Repaired arguments come to the same text, and ask what does not fail. -/
theorem format_repaired (w : World) (t : String) (args : List Value)
    (throwable : Option ThrowableId) :
    w.repaired.format t (args.map Value.repaired) throwable
      = (⟨(w.format t args throwable).1.text, args.map Value.repaired, throwable⟩,
          w.repaired.answered (((args.take (Template.openSlots t.toList).length).flatMap
            (Value.asked w.heap)).filter fun a => a.report?.isNone)) := by
  have heap : w.repaired.heap = w.heap.repaired := rfl
  have attempts : w.repaired.attempts = w.attempts := rfl
  rw [format_eq, format_eq, heap, attempts, List.length_map, ← List.map_take,
    Value.renderAll_repaired, List.flatMap_map, List.filter_flatMap]
  simp only [Value.asked_repaired]

end World

/-- What fails is a conversion that gives up or panics, or a supplier that answers an error or
panics, and each is reported in words of its own. -/
theorem Attempt.report?_eq_some_iff (a : Attempt) (e : Error) :
    a.report? = some e ↔
      (∃ written, a = .conversion ⟨written, .failure⟩ ∧ e = Error.format) ∨
      (∃ written p, a = .conversion ⟨written, .panic p⟩ ∧
        e = (Error.ofMessage "argument conversion panicked").withDetail "panic" p.text) ∨
      (∃ cause, a = .refused (.error cause) ∧
        e = (Error.ofMessage "failed to supply argument").withCause cause.toCause) ∨
      ∃ p, a = .refused (.panic p) ∧
        e = (Error.ofMessage "argument supplier panicked").withDetail "panic" p.text := by
  constructor
  · intro reported
    cases a with
    | conversion c =>
      obtain ⟨written, _ | _ | p⟩ := c
      · cases reported
      · exact Or.inl ⟨written, rfl, (Option.some.inj reported).symm⟩
      · exact Or.inr (Or.inl ⟨written, p, rfl, (Option.some.inj reported).symm⟩)
    | supplied => cases reported
    | refused r =>
      cases r with
      | error cause =>
        exact Or.inr (Or.inr (Or.inl ⟨cause, rfl, (Option.some.inj reported).symm⟩))
      | panic p => exact Or.inr (Or.inr (Or.inr ⟨p, rfl, (Option.some.inj reported).symm⟩))
    | counted name => cases reported
  · rintro (⟨written, rfl, rfl⟩ | ⟨written, p, rfl, rfl⟩ | ⟨cause, rfl, rfl⟩ | ⟨p, rfl, rfl⟩)
    all_goals rfl

/-- **Failures are contained.** Behind any text, a value comes to the text that it comes to if every
conversion or supplier that fails is replaced by the text of a failure, and one report is sent for
each occurrence that fails, from left to right. The arguments of a message are asked one after the
other, as far as there are open slots; those that are left over are never looked at. -/
theorem World.failures_contained (w : World) :
    (∀ front v, ∃ text,
      w.append front v = (front ++ text, w.answered (v.asked w.heap)) ∧
      w.repaired.append front v.repaired = (front ++ text,
        w.repaired.answered ((v.asked w.heap).filter fun a => a.report?.isNone))) ∧
    (∀ t args throwable,
      let count := (Template.openSlots t.toList).length
      let asked := (args.take count).flatMap (Value.asked w.heap)
      ∃ text,
        w.format t args throwable = (⟨some text, args, throwable⟩, w.answered asked) ∧
        w.repaired.format t (args.map Value.repaired) throwable
          = (⟨some text, args.map Value.repaired, throwable⟩,
              w.repaired.answered (asked.filter fun a => a.report?.isNone)) ∧
        ∀ other : Nat → Value → Value,
          let others := args.take count ++ (args.drop count).mapIdx other
          w.format t others throwable = (⟨some text, others, throwable⟩, w.answered asked)) ∧
    (∀ t args,
      w.asking (fun h attempts => Message.ofArray h attempts (some t) args)
        = w.format t (Message.splitThrowable args).1 (Message.splitThrowable args).2) ∧
    ∀ (a : Attempt) (e : Error), a.report? = some e ↔
      (∃ written, a = .conversion ⟨written, .failure⟩ ∧ e = Error.format) ∨
      (∃ written p, a = .conversion ⟨written, .panic p⟩ ∧
        e = (Error.ofMessage "argument conversion panicked").withDetail "panic" p.text) ∨
      (∃ cause, a = .refused (.error cause) ∧
        e = (Error.ofMessage "failed to supply argument").withCause cause.toCause) ∨
      ∃ p, a = .refused (.panic p) ∧
        e = (Error.ofMessage "argument supplier panicked").withDetail "panic" p.text := by
  refine ⟨fun front v => ⟨_, w.append_eq front v, ?_⟩, fun t args throwable => ?_,
    fun _ _ => rfl, Attempt.report?_eq_some_iff⟩
  -- the repaired world asks what is left when the failures are taken out
  · rw [append_eq, ← Value.asked_repaired]
    exact congrArg (fun text => (front ++ text, _))
      (v.render_repaired w.heap w.attempts w.attempts fun _ => rfl).1
  · refine ⟨_, w.format_eq t args throwable, ?_, fun other => ?_⟩
    · exact (w.format_repaired t args throwable).trans (by rw [format_eq])
    · exact (w.format_left_over t args throwable other).trans (by rw [format_eq])

end Logline
