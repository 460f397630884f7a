import Logline.Heap

/-! # Stack traces

A throwable and everything that it refers to is laid out as a list of **entries**: a caption and
frames for each throwable the first time that it is met, and a mark of a circle every further time.
Suppressed throwables come before the cause and are indented one step deeper than their owner; a
cause stands as deep as its owner. Frames at the end of a trace that the enclosing trace ends with
too are counted instead of listed.

* `Entry` — one entry of a trace
* `sharedEnd` — how many frames two traces have in common at their ends
* `trace` — the entries of a throwable
-/

namespace Logline

namespace Trace

/-- How a throwable is reached. -/
inductive Label where
  /-- It is the first throwable of the trace. -/
  | root
  /-- It was suppressed by its owner. -/
  | suppressed
  /-- It is the cause of its owner. -/
  | cause
  deriving DecidableEq, Repr

/-- One entry of a trace; `depth` counts the steps of indentation. -/
inductive Entry where
  /-- A throwable is met for the first time. -/
  | caption (depth : Nat) (label : Label) (id : ThrowableId)
  /-- A frame of a throwable, with its place among the throwable's frames. -/
  | frame (depth : Nat) (id : ThrowableId) (index : Nat) (frame : Frame)
  /-- So many frames are those that the enclosing trace ends with. -/
  | elided (depth : Nat) (count : Nat)
  /-- A throwable is met again. -/
  | circular (depth : Nat) (label : Label) (id : ThrowableId)
  deriving DecidableEq, Repr

/-- A throwable that is still to be laid out: how and how deep it is reached, and the frames of the
enclosing trace. -/
structure Pending where
  label : Label
  depth : Nat
  enclosing : List Frame
  id : ThrowableId

/-- How many frames two lists have in common at their beginnings. -/
def sharedStart : List Frame → List Frame → Nat
  | f :: fs, g :: gs => if f.sameAs g then sharedStart fs gs + 1 else 0
  | _, _ => 0

/-- How many frames two traces have in common at their ends. -/
def sharedEnd (fs gs : List Frame) : Nat := sharedStart fs.reverse gs.reverse

/-- No more frames are shared than there are. -/
theorem sharedStart_le_length (fs gs : List Frame) : sharedStart fs gs ≤ fs.length := by
  fun_induction sharedStart fs gs <;> simp_all

/-- No more frames are shared at the end than there are. -/
theorem sharedEnd_le_length (fs gs : List Frame) : sharedEnd fs gs ≤ fs.length := by
  simpa [sharedEnd] using sharedStart_le_length fs.reverse gs.reverse

/-- The entries of one throwable inside an enclosing trace, without what it refers to. -/
def ownEntries (h : Heap) (p : Pending) : List Entry :=
  let frames := (h.throwable p.id).frames
  let shared := sharedEnd frames p.enclosing
  let shown := frames.take (frames.length - shared)
  .caption p.depth p.label p.id
    :: shown.mapIdx (fun i f => .frame p.depth p.id i f)
    ++ if shared = 0 then [] else [.elided p.depth shared]

/-- What a throwable refers to, in the order in which it is laid out. -/
def inside (h : Heap) (p : Pending) : List Pending :=
  let t := h.throwable p.id
  t.suppressed.map (⟨.suppressed, p.depth + 1, t.frames, ·⟩)
    ++ t.cause.toList.map (⟨.cause, p.depth, t.frames, ·⟩)

/-- How many throwables have not been met. -/
def unmet (h : Heap) (met : List ThrowableId) : Nat :=
  (List.range h.throwables.length).countP fun id => !met.contains id

/-- Meeting a throwable leaves no more to meet. -/
theorem unmet_cons_le (h : Heap) (met : List ThrowableId) (id : ThrowableId) :
    unmet h (id :: met) ≤ unmet h met := by
  apply List.countP_mono_left
  simp +contextual

/-- A test that fails on a member on which another one holds, and implies that one, holds on fewer
members. -/
theorem countP_lt_countP {l : List Nat} {p q : Nat → Bool} (imp : ∀ x, q x = true → p x = true)
    {a : Nat} (mem : a ∈ l) (holds : p a = true) (fails : q a = false) :
    l.countP q < l.countP p := by
  induction l with
  | nil => cases mem
  | cons x xs ih =>
    have le : xs.countP q ≤ xs.countP p := List.countP_mono_left fun y _ => imp y
    -- the element is the first one, or it makes the difference further back
    rcases List.mem_cons.mp mem with rfl | mem
    · simp only [List.countP_cons, holds, fails]
      simp only [Bool.false_eq_true, ↓reduceIte]
      omega
    · have lt := ih mem
      simp only [List.countP_cons]
      by_cases hq : q x = true
      · simp only [hq, imp x hq, ↓reduceIte]
        omega
      · simp only [hq, Bool.false_eq_true, ↓reduceIte]
        omega

/-- Meeting a throwable for the first time leaves fewer to meet. -/
theorem unmet_cons_lt {h : Heap} {met : List ThrowableId} {id : ThrowableId}
    (present : id < h.throwables.length) (fresh : id ∉ met) :
    unmet h (id :: met) < unmet h met := by
  apply countP_lt_countP
  · simp +contextual
  · simpa using present
  · simpa using fresh
  · simp

/-- A throwable that does not exist refers to nothing. -/
theorem inside_eq_nil {h : Heap} {p : Pending} (missing : h.throwables.length ≤ p.id) :
    inside h p = [] := by
  simp [inside, Heap.throwable, List.getElem?_eq_none missing, Heap.nothing, Throwable.alone]

/-- The entries of pending throwables, in order, when some throwables have been met. -/
def entries (h : Heap) (met : List ThrowableId) : List Pending → List Entry
  | [] => []
  | p :: rest =>
    if p.id ∈ met then .circular p.depth p.label p.id :: entries h met rest
    else ownEntries h p ++ entries h (p.id :: met) (inside h p ++ rest)
termination_by pending => (unmet h met, pending.length)
decreasing_by
  · exact Prod.Lex.right _ (by simp)
  · rename_i fresh
    rcases Nat.lt_or_ge p.id h.throwables.length with present | missing
    · exact Prod.Lex.left _ _ (unmet_cons_lt present fresh)
    · rw [inside_eq_nil missing]
      rcases Nat.lt_or_eq_of_le (unmet_cons_le h met p.id) with less | same
      · exact Prod.Lex.left _ _ less
      · rw [same]
        exact Prod.Lex.right _ (by simp)

end Trace

/-- The stack trace of a throwable. -/
def Heap.trace (h : Heap) (id : ThrowableId) : List Trace.Entry :=
  Trace.entries h [] [⟨.root, 0, [], id⟩]

end Logline
