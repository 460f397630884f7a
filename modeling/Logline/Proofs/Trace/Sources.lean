import Logline.Layout.Line
import Logline.Proofs.Trace.Walk

/-! # Errors as throwables

An error is turned into a line of throwables: one for the error and one for each of its sources,
every one the cause of the one before it. A stack trace of the line is a caption for each, in that
order, and nothing else.

* `Cause.source?`, `Sources` — what lies behind an error, one source behind the other
* `Heap.InLine` — throwables of which each is the cause of the one before it
* `Trace.entries_inLine` — the entries of such throwables
* `Heap.exists_lineOf` — what comes of errors, causes and everything else that has sources -/

namespace Logline

/-! ## Sources -/

/-- The source of a cause: what its text was put in front of, or the first cause of an error. -/
def Cause.source? : Cause → Option Cause
  | .context _ inner => some inner
  | .error _ _ causes => causes.head?
  | .text _ | .io _ | .ioText _ | .format => none

/-- The source of an error is its first cause. -/
def Error.source? (e : Error) : Option Cause := e.causes.head?

/-- What is met when one goes from a source to its own source, until there is none. -/
inductive Sources {α : Type} (source? : α → Option α) : Option α → List α → Prop
  | none : Sources source? none []
  | some {a : α} {as : List α} (behind : Sources source? (source? a) as) :
      Sources source? (some a) (a :: as)

mutual

/-- The chain of a cause has the texts of the cause and of its sources. -/
theorem Cause.exists_sources (c : Cause) :
    ∃ sources, Sources Cause.source? c.source? sources ∧
      c.chain = c.display :: sources.map Cause.display := by
  cases c with
  | context message inner =>
    obtain ⟨sources, behind, chain⟩ := inner.exists_sources
    exact ⟨inner :: sources, .some behind, by rw [Cause.chain, chain, display, List.map_cons]⟩
  | error message details causes =>
    obtain ⟨sources, behind, chain⟩ := Cause.exists_sources_of_first causes
    exact ⟨sources, behind, by rw [Cause.chain, chain, display, displayAll_eq_map]⟩
  | text | io | ioText | format => exact ⟨[], .none, rfl⟩

/-- The chain of the first of some causes has the texts of what is met from there. -/
theorem Cause.exists_sources_of_first (causes : List Cause) :
    ∃ sources, Sources Cause.source? causes.head? sources ∧
      Cause.chainOfFirst causes = sources.map Cause.display := by
  cases causes with
  | nil => exact ⟨[], .none, rfl⟩
  | cons c _ =>
    obtain ⟨sources, behind, chain⟩ := c.exists_sources
    exact ⟨c :: sources, .some behind, by rw [Cause.chainOfFirst, chain, List.map_cons]⟩

end

namespace Heap

/-! ## Throwables in line -/

/-- Throwables stand **in line** under classes and texts if none of them has frames or suppressed
throwables and the cause of each is the next one. -/
def InLine (h : Heap) : List ThrowableId → List (String × String) → Prop
  | [], [] => True
  | id :: ids, (className, text) :: rest =>
    h.throwable id = ⟨className, some text, [], ids.head?, []⟩ ∧ h.InLine ids rest
  | _, _ => False

namespace InLine

variable {h h' : Heap} {id : ThrowableId} {ids : List ThrowableId}
  {captions : List (String × String)}

/-- A line begins with its first throwable, which has the first caption and the next throwable as
its cause. -/
theorem exists_of_cons (line : h.InLine (id :: ids) captions) :
    ∃ className text rest, captions = (className, text) :: rest ∧
      h.throwable id = ⟨className, some text, [], ids.head?, []⟩ ∧ h.InLine ids rest := by
  cases captions with
  | nil => exact False.elim line
  | cons caption rest => exact ⟨caption.1, caption.2, rest, rfl, line⟩

/-- Whether throwables stand in line is up to them alone. -/
theorem congr (line : h.InLine ids captions) (same : ∀ id ∈ ids, h'.throwable id = h.throwable id) :
    h'.InLine ids captions := by
  induction ids generalizing captions with
  | nil =>
    cases captions with
    | nil => trivial
    | cons => exact False.elim line
  | cons id ids ih =>
    obtain ⟨className, text, rest, rfl, first, line⟩ := line.exists_of_cons
    obtain ⟨same_first, same⟩ := List.forall_mem_cons.1 same
    exact ⟨same_first.trans first, ih line same⟩

end InLine

end Heap

namespace Trace

variable {h : Heap}

/-- A throwable without frames and suppressed throwables has its caption, and then its cause has its
turn. -/
theorem entries_of_plain {met : List ThrowableId} {id : ThrowableId} (fresh : id ∉ met)
    {className : String} {text : Option String} {cause : Option ThrowableId}
    (plain : h.throwable id = ⟨className, text, [], cause, []⟩) (label : Label)
    (enclosing : List Frame) :
    entries h met [⟨label, 0, enclosing, id⟩]
      = .caption 0 label id :: entries h (id :: met) (cause.toList.map (⟨.cause, 0, [], ·⟩)) := by
  have own : ownEntries h ⟨label, 0, enclosing, id⟩ = [.caption 0 label id] := by
    simp [ownEntries, plain, sharedEnd, sharedStart]
  have inner : inside h ⟨label, 0, enclosing, id⟩ = cause.toList.map (⟨.cause, 0, [], ·⟩) := by
    simp [inside, plain]
  rw [entries_of_not_mem fresh, own, inner, List.singleton_append, List.append_nil]

/-- The entries of causes in line are their captions: none of them is met again. -/
theorem entries_causes {ids met : List ThrowableId} {captions : List (String × String)}
    (line : h.InLine ids captions) (distinct : ids.Nodup) (fresh : ∀ id ∈ ids, id ∉ met) :
    entries h met (ids.head?.toList.map (⟨.cause, 0, [], ·⟩)) = ids.map (.caption 0 .cause) := by
  induction ids generalizing captions met with
  | nil => rw [List.head?_nil, Option.toList_none, List.map_nil, entries, List.map_nil]
  | cons id ids ih =>
    obtain ⟨className, text, rest, rfl, first, line⟩ := line.exists_of_cons
    obtain ⟨others, distinct⟩ := List.nodup_cons.1 distinct
    obtain ⟨fresh_first, fresh⟩ := List.forall_mem_cons.1 fresh
    have unmet : ∀ i ∈ ids, i ∉ id :: met := by
      intro i mem again
      rcases List.mem_cons.1 again with rfl | again
      · exact others mem
      · exact fresh i mem again
    rw [List.head?_cons, Option.toList_some, List.map_singleton, entries_of_plain fresh_first first,
      ih line distinct unmet, List.map_cons]

end Trace

namespace Heap

/-- The captions of throwables in line. -/
theorem InLine.map_caption {h : Heap} {ids : List ThrowableId} {captions : List (String × String)}
    (line : h.InLine ids captions) :
    ids.map h.caption = captions.map fun c => c.1 ++ ": " ++ c.2 := by
  induction ids generalizing captions with
  | nil =>
    cases captions with
    | nil => rfl
    | cons => exact False.elim line
  | cons id ids ih =>
    obtain ⟨className, text, rest, rfl, first, line⟩ := line.exists_of_cons
    rw [List.map_cons, List.map_cons, ih line, caption, first, Throwable.caption]

/-! ## Lines that are made -/

/-- A new throwable stands behind the earlier ones, which stay as they are. -/
theorem throwable_newThrowable (h : Heap) (t : Throwable) (id : ThrowableId) :
    (h.newThrowable t).1.throwable id
      = if id = h.throwables.length then t else h.throwable id := by
  rw [throwable, newThrowable, throwable]
  split
  · next last => rw [last, List.getElem?_concat_length, Option.getD_some]
  · next other =>
    rcases Nat.lt_or_gt_of_ne other with old | missing
    · rw [List.getElem?_append_left old]
    · rw [List.getElem?_eq_none (Nat.le_of_lt missing), List.getElem?_eq_none]
      rw [List.length_append]
      exact missing

/-- A heap with **new throwables in line**: all that existed before is as it was. -/
structure NewLine (h h' : Heap) (ids : List ThrowableId) (captions : List (String × String)) :
    Prop where
  arrays : h'.arrays = h.arrays
  throwables : h.throwables <+: h'.throwables
  new : ∀ id ∈ ids, h.throwables.length ≤ id ∧ id < h'.throwables.length
  distinct : ids.Nodup
  inLine : h'.InLine ids captions

namespace NewLine

variable {h h' : Heap} {ids : List ThrowableId} {captions : List (String × String)}

/-- An empty line needs no throwables. -/
theorem nil (h : Heap) : NewLine h h [] [] :=
  ⟨rfl, List.prefix_rfl, List.forall_mem_nil _, List.nodup_nil, trivial⟩

/-- A line grows at its head: the new throwable takes the head of the line for its cause. -/
theorem cons (new : NewLine h h' ids captions) (className text : String) :
    NewLine h (h'.newThrowable ⟨className, some text, [], ids.head?, []⟩).1
      (h'.throwables.length :: ids) ((className, text) :: captions) := by
  have length : h.throwables.length ≤ h'.throwables.length := new.throwables.length_le
  have others : ∀ id ∈ ids, id ≠ h'.throwables.length := fun id mem =>
    Nat.ne_of_lt (new.new id mem).2
  refine ⟨new.arrays, new.throwables.trans (List.prefix_append _ _), ?_,
    List.nodup_cons.2 ⟨fun mem => others _ mem rfl, new.distinct⟩, ?_, ?_⟩
  · have size : (h'.newThrowable ⟨className, some text, [], ids.head?, []⟩).1.throwables.length
        = h'.throwables.length + 1 := List.length_append
    rw [size, List.forall_mem_cons]
    exact ⟨⟨length, Nat.lt_succ_self _⟩, fun id mem =>
      ⟨(new.new id mem).1, Nat.lt_succ_of_lt (new.new id mem).2⟩⟩
  · rw [throwable_newThrowable, if_pos rfl]
  · refine new.inLine.congr fun id mem => ?_
    rw [throwable_newThrowable, if_neg (others id mem)]

end NewLine

/-- The throwables of sources are in line, in the order of the sources. -/
theorem exists_newLine_addSources (h : Heap) (sources : List String) :
    ∃ ids, NewLine h (h.addSources sources).1 ids (sources.map (sourceClass, ·)) ∧
      (h.addSources sources).2 = ids.head? := by
  induction sources with
  | nil => exact ⟨[], .nil h, rfl⟩
  | cons text rest ih =>
    obtain ⟨ids, line, head⟩ := ih
    refine ⟨_ :: ids, ?_, rfl⟩
    have longer := line.cons sourceClass text
    rw [← head] at longer
    exact longer

/-- A chain is a line: the throwable of the error and those of its sources behind it. -/
theorem exists_newLine_addChain (h : Heap) (className text : String) (sources : List String) :
    ∃ causes, NewLine h (h.addChain className text sources).1
      ((h.addChain className text sources).2 :: causes)
      ((className, text) :: sources.map (sourceClass, ·)) := by
  obtain ⟨causes, line, head⟩ := h.exists_newLine_addSources sources
  refine ⟨causes, ?_⟩
  have longer := line.cons className text
  rw [← head] at longer
  exact longer

/-! ## Errors in line -/

/-- The text of a stack trace that is a caption and then captions of causes. -/
theorem traceText_of_captions {h : Heap} {id : ThrowableId} {causes : List ThrowableId}
    (trace : h.trace id = .caption 0 .root id :: causes.map (.caption 0 .cause)) :
    Layout.Line.traceText h id = h.caption id ++ "\n"
      ++ String.join ((causes.map h.caption).map fun s => "Caused by: " ++ s ++ "\n") := by
  have root : (Trace.Entry.caption 0 .root id).line h = h.caption id ++ "\n" :=
    congrArg (· ++ "\n") String.empty_append
  have cause : Trace.Entry.line h ∘ .caption 0 .cause
      = (fun s => "Caused by: " ++ s ++ "\n") ∘ h.caption := by
    funext id
    exact congrArg (· ++ h.caption id ++ "\n") String.empty_append
  rw [Layout.Line.traceText, trace, List.map_cons, String.join_cons, root, List.map_map, cause,
    List.map_map]

/-- What comes of an error with some sources: **new throwables in line**, one for the error and one
for each source, which a stack trace shows caption by caption, whatever else is made or changed. -/
structure LineOf (h : Heap) (made : Heap × ThrowableId) (className text : String)
    (sources : List String) (causes : List ThrowableId) : Prop where
  line : NewLine h made.1 (made.2 :: causes)
    ((className, text) :: sources.map ("dyn std::error::Error", ·))
  trace : ∀ later : Heap, (∀ id ∈ made.2 :: causes, later.throwable id = made.1.throwable id) →
    later.trace made.2 = .caption 0 .root made.2 :: causes.map (.caption 0 .cause) ∧
    Layout.Line.traceText later made.2 = className ++ ": " ++ text ++ "\n"
      ++ String.join (sources.map fun s => "Caused by: dyn std::error::Error: " ++ s ++ "\n")

/-- A chain of sources becomes a line of throwables. -/
theorem exists_lineOf_addChain (h : Heap) (className text : String) (sources : List String) :
    ∃ causes, LineOf h (h.addChain className text sources) className text sources causes := by
  obtain ⟨causes, new⟩ := h.exists_newLine_addChain className text sources
  refine ⟨causes, new, fun later same => ?_⟩
  have line := new.inLine.congr same
  generalize (h.addChain className text sources).2 = id at line new
  obtain ⟨_, _, _, eq, first, rest⟩ := line.exists_of_cons
  cases eq
  obtain ⟨others, distinct⟩ := List.nodup_cons.1 new.distinct
  have fresh : ∀ i ∈ causes, i ∉ [id] := by
    intro i mem again
    rw [List.mem_singleton] at again
    exact others (again ▸ mem)
  have trace : later.trace id = .caption 0 .root id :: causes.map (.caption 0 .cause) := by
    rw [Heap.trace, Trace.entries_of_plain List.not_mem_nil first,
      Trace.entries_causes rest distinct fresh]
  have caption : later.caption id = className ++ ": " ++ text := by
    rw [Heap.caption, first, Throwable.caption]
  have source : ∀ s : String, "Caused by: " ++ (sourceClass ++ ": " ++ s) ++ "\n"
      = "Caused by: dyn std::error::Error: " ++ s ++ "\n" := by
    intro s
    simp only [← String.append_assoc]
    rfl
  refine ⟨trace, ?_⟩
  rw [traceText_of_captions trace, caption, rest.map_caption, List.map_map, List.map_map]
  simp only [Function.comp_def, source]

/-- **Errors in line.** Whatever has a class, a text and the texts of its sources comes to a line of
throwables, one for itself and one for each source in order, and so does every error and every
cause. The sources of an error are what is met from its first cause on, each with its own text. -/
theorem exists_lineOf (h : Heap) :
    (∀ className text sources, ∃ causes,
      LineOf h (h.addChain className text sources) className text sources causes) ∧
    (∀ e : Error, ∃ sources causes, Sources Cause.source? e.source? sources ∧
      LineOf h (h.addError e) "plainlog::error::Error" e.display (sources.map Cause.display)
        causes) ∧
    ∀ c : Cause, ∃ sources causes, Sources Cause.source? c.source? sources ∧
      LineOf h (h.addCause c) "anyhow::Error" c.display (sources.map Cause.display) causes := by
  refine ⟨h.exists_lineOf_addChain, fun e => ?_, fun c => ?_⟩
  · obtain ⟨sources, behind, chain⟩ := Cause.exists_sources_of_first e.causes
    obtain ⟨causes, line⟩ :=
      h.exists_lineOf_addChain errorClass e.display (sources.map Cause.display)
    refine ⟨sources, causes, behind, ?_⟩
    rw [addError, Error.sourceChain, chain]
    exact line
  · obtain ⟨sources, behind, chain⟩ := c.exists_sources
    obtain ⟨causes, line⟩ :=
      h.exists_lineOf_addChain causeClass c.display (sources.map Cause.display)
    refine ⟨sources, causes, behind, ?_⟩
    rw [addCause, chain, List.tail_cons]
    exact line

end Heap

end Logline
