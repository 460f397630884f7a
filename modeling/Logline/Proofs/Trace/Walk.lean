import Logline.Throwable.Trace
import Mathlib.Algebra.GroupWithZero.Nat
import Mathlib.Data.List.Perm.Basic
import Mathlib.Logic.Relation

/-! # Stack traces as walks

Throwables refer to each other, and a stack trace is a walk over all of them that are reached from
the first one: every throwable has one caption, in depth-first order, and every reference is
followed once, to a caption or, where its throwable has been met before, to a mark of a circle.

* `Heap.Reaches` — which throwables are reached from one
* `Heap.DepthFirst` — the order of a depth-first walk
* `Trace.captions`, `Trace.circulars`, `Trace.mark?` — the throwables that a trace meets, and how
* `Heap.trace_walks` — a stack trace is a depth-first walk over all that is reached -/

namespace Logline

/-! ## References -/

namespace Heap

/-- A throwable **refers** to its suppressed ones and to its cause. -/
def Refers (h : Heap) (a b : ThrowableId) : Prop := b ∈ (h.throwable a).references

/-- A throwable **reaches** itself and all that is reached from what it refers to. -/
def Reaches (h : Heap) : ThrowableId → ThrowableId → Prop := Relation.ReflTransGen h.Refers

/-- The references of a throwable, each with what it is a reference to: the suppressed ones, then
the cause. -/
def labelled (h : Heap) (id : ThrowableId) : List (Trace.Label × ThrowableId) :=
  (h.throwable id).suppressed.map (.suppressed, ·) ++ (h.throwable id).cause.toList.map (.cause, ·)

/-- Labels apart, the labelled references are the references. -/
theorem map_snd_labelled (h : Heap) (id : ThrowableId) :
    (h.labelled id).map Prod.snd = (h.throwable id).references := by
  simp [labelled, Throwable.references, Function.comp_def]

/-- A throwable refers to each of its suppressed ones and to its cause. -/
theorem length_labelled (h : Heap) (id : ThrowableId) :
    (h.labelled id).length
      = (h.throwable id).suppressed.length + (h.throwable id).cause.toList.length := by
  simp [labelled]

/-- Where a depth-first walk goes on when it has met some throwables, the last one first: among
those that refer to one that has not been met it takes the one that was met last, and it goes to the
first such reference. -/
def next? (h : Heap) (met : List ThrowableId) : Option ThrowableId :=
  met.findSome? fun id => (h.throwable id).references.find? (· ∉ met)

/-- A list of throwables is in **depth-first** order, behind those that have been met, if a walk
always goes on to the next one of the list and ends with it. -/
def DepthFirst (h : Heap) (met : List ThrowableId) : List ThrowableId → Prop
  | [] => h.next? met = none
  | id :: ids => h.next? met = some id ∧ h.DepthFirst (id :: met) ids

end Heap

namespace Trace

/-! ## Marks -/

/-- The throwable that has its caption in an entry. -/
def Entry.captioned? : Entry → Option ThrowableId
  | .caption _ _ id => some id
  | _ => none

/-- The throwable that an entry meets again. -/
def Entry.circular? : Entry → Option ThrowableId
  | .circular _ _ id => some id
  | _ => none

/-- The throwable that an entry meets for the first time or again, and how it is reached. -/
def Entry.mark? : Entry → Option (Label × ThrowableId)
  | .caption _ label id | .circular _ label id => some (label, id)
  | _ => none

/-- The throwables that have a caption. -/
def captions (es : List Entry) : List ThrowableId := es.filterMap Entry.captioned?

/-- The throwables that are met again. -/
def circulars (es : List Entry) : List ThrowableId := es.filterMap Entry.circular?

/-- All throwables that are met, and how each is reached. -/
def marks (es : List Entry) : List (Label × ThrowableId) := es.filterMap Entry.mark?

/-- Captions of entries stand in the order of the entries. -/
theorem captions_append (es fs : List Entry) : captions (es ++ fs) = captions es ++ captions fs :=
  List.filterMap_append

/-- Marks of entries stand in the order of the entries. -/
theorem marks_append (es fs : List Entry) : marks (es ++ fs) = marks es ++ marks fs :=
  List.filterMap_append

/-- Every mark is a caption or a circle. -/
theorem map_snd_marks_perm (es : List Entry) :
    ((marks es).map Prod.snd).Perm (captions es ++ circulars es) := by
  induction es with
  | nil => exact .nil
  | cons e es ih =>
    cases e with
    | caption depth label id => exact ih.cons id
    | circular depth label id => exact (ih.cons id).trans List.perm_middle.symm
    | frame | elided => exact ih

/-- A mark comes from a caption or from a circle among the entries. -/
theorem exists_of_mem_marks {es : List Entry} {label : Label} {id : ThrowableId}
    (mem : (label, id) ∈ marks es) :
    id ∈ captions es ∨ ∃ before depth after, es = before ++ .circular depth label id :: after := by
  obtain ⟨e, mem, eq⟩ := List.mem_filterMap.1 mem
  cases e with
  | caption =>
    cases eq
    exact Or.inl (List.mem_filterMap.2 ⟨_, mem, rfl⟩)
  | circular depth =>
    cases eq
    obtain ⟨before, after, eq⟩ := List.append_of_mem mem
    exact Or.inr ⟨before, depth, after, eq⟩
  | frame | elided => cases eq

/-! ## The entries of pending throwables -/

section Entries

variable {h : Heap} {met : List ThrowableId} {p : Pending} {rest : List Pending}

/-- A throwable that has been met is marked as a circle, and the walk goes on with the others. -/
theorem entries_of_mem (again : p.id ∈ met) :
    entries h met (p :: rest) = .circular p.depth p.label p.id :: entries h met rest := by
  rw [entries, if_pos again]

/-- A throwable that is met for the first time has its own entries, and the walk goes on inside it.
-/
theorem entries_of_not_mem (fresh : p.id ∉ met) :
    entries h met (p :: rest)
      = ownEntries h p ++ entries h (p.id :: met) (inside h p ++ rest) := by
  rw [entries, if_neg fresh]

/-- Behind its caption a throwable has frames and a count of frames. -/
theorem filterMap_ownEntries {α : Type} {f : Entry → Option α} (h : Heap) (p : Pending)
    (frame : ∀ depth id i frame, f (.frame depth id i frame) = none)
    (elided : ∀ depth count, f (.elided depth count) = none) :
    (ownEntries h p).filterMap f = (f (.caption p.depth p.label p.id)).toList := by
  have body : ∀ e ∈ (ownEntries h p).tail, f e = none := by
    intro e mem
    simp only [ownEntries, List.cons_append, List.tail_cons, List.mem_append,
      List.mem_mapIdx] at mem
    rcases mem with ⟨i, -, rfl⟩ | mem
    · exact frame _ _ _ _
    · split at mem
      · cases mem
      · rw [List.mem_singleton.1 mem]
        exact elided _ _
  have none_behind : (ownEntries h p).tail.filterMap f = [] :=
    List.filterMap_eq_nil_iff.2 body
  have split : ownEntries h p = .caption p.depth p.label p.id :: (ownEntries h p).tail := rfl
  rw [split, List.filterMap_cons, none_behind]
  cases f (.caption p.depth p.label p.id) <;> rfl

/-- The entries of a throwable itself have its caption and no other. -/
@[simp] theorem captions_ownEntries (h : Heap) (p : Pending) :
    captions (ownEntries h p) = [p.id] :=
  filterMap_ownEntries h p (fun _ _ _ _ => rfl) (fun _ _ => rfl)

/-- The entries of a throwable itself mark no circle. -/
@[simp] theorem circulars_ownEntries (h : Heap) (p : Pending) :
    circulars (ownEntries h p) = [] :=
  filterMap_ownEntries h p (fun _ _ _ _ => rfl) (fun _ _ => rfl)

/-- The entries of a throwable itself say how it is reached. -/
@[simp] theorem marks_ownEntries (h : Heap) (p : Pending) :
    marks (ownEntries h p) = [(p.label, p.id)] :=
  filterMap_ownEntries h p (fun _ _ _ _ => rfl) (fun _ _ => rfl)

/-- A throwable that has been met gets no second caption. -/
theorem captions_entries_of_mem (again : p.id ∈ met) :
    captions (entries h met (p :: rest)) = captions (entries h met rest) := by
  rw [entries_of_mem again]
  rfl

/-- A throwable that is met for the first time has its caption before those inside it. -/
theorem captions_entries_of_not_mem (fresh : p.id ∉ met) :
    captions (entries h met (p :: rest))
      = p.id :: captions (entries h (p.id :: met) (inside h p ++ rest)) := by
  rw [entries_of_not_mem fresh, captions_append, captions_ownEntries, List.singleton_append]

/-- Throwables that are laid out one after the other have their captions in that order. -/
theorem captions_flatMap (h : Heap) (ps : List Pending) :
    captions (ps.flatMap (ownEntries h)) = ps.map Pending.id := by
  induction ps with
  | nil => rfl
  | cons p ps ih =>
    rw [List.flatMap_cons, captions_append, captions_ownEntries, ih, List.map_cons,
      List.singleton_append]

/-- What is laid out inside a throwable are its references. -/
theorem map_inside (h : Heap) (p : Pending) :
    (inside h p).map (fun q => (q.label, q.id)) = h.labelled p.id := by
  simp [inside, Heap.labelled, Function.comp_def]

/-- What is laid out inside a throwable is what it refers to. -/
theorem map_id_inside (h : Heap) (p : Pending) :
    (inside h p).map Pending.id = (h.throwable p.id).references := by
  rw [← h.map_snd_labelled, ← map_inside, List.map_map]
  rfl

/-- What is laid out inside a throwable is enclosed by its frames. -/
theorem enclosing_of_mem_inside {p q : Pending} (mem : q ∈ inside h p) :
    q.enclosing = (h.throwable p.id).frames := by
  rw [inside, List.mem_append, List.mem_map, List.mem_map] at mem
  rcases mem with ⟨id, -, rfl⟩ | ⟨id, -, rfl⟩ <;> rfl

end Entries

/-! ## Captions -/

variable {h : Heap}

/-- No throwable has two captions, and none that was met before has one. -/
theorem captions_entries_fresh (h : Heap) (met : List ThrowableId) (ps : List Pending) :
    (captions (entries h met ps)).Nodup ∧ ∀ id ∈ captions (entries h met ps), id ∉ met := by
  induction met, ps using entries.induct h with
  | case1 met => simp [entries, captions]
  | case2 met p rest again ih => rwa [captions_entries_of_mem again]
  | case3 met p rest fresh ih =>
    obtain ⟨nodup, others⟩ := ih
    rw [captions_entries_of_not_mem fresh, List.nodup_cons, List.forall_mem_cons]
    refine ⟨⟨fun mem => ?_, nodup⟩, fresh, fun id mem => ?_⟩
    · exact others p.id mem List.mem_cons_self
    · exact fun old => others id mem (List.mem_cons_of_mem _ old)

/-- Every throwable with a caption is reached from a pending one. -/
theorem reaches_of_mem_captions {met : List ThrowableId} {ps : List Pending} {id : ThrowableId}
    (mem : id ∈ captions (entries h met ps)) : ∃ p ∈ ps, h.Reaches p.id id := by
  induction met, ps using entries.induct h with
  | case1 met => simp [entries, captions] at mem
  | case2 met p rest again ih =>
    rw [captions_entries_of_mem again] at mem
    obtain ⟨q, q_mem, reaches⟩ := ih mem
    exact ⟨q, List.mem_cons_of_mem _ q_mem, reaches⟩
  | case3 met p rest fresh ih =>
    rw [captions_entries_of_not_mem fresh] at mem
    rcases List.mem_cons.1 mem with rfl | mem
    · exact ⟨p, List.mem_cons_self, .refl⟩
    · obtain ⟨q, q_mem, reaches⟩ := ih mem
      rcases List.mem_append.1 q_mem with q_mem | q_mem
      -- what is inside a throwable is what it refers to
      · have refers : h.Refers p.id q.id := by
          rw [Heap.Refers, ← map_id_inside]
          exact List.mem_map_of_mem q_mem
        exact ⟨p, List.mem_cons_self, .head refers reaches⟩
      · exact ⟨q, List.mem_cons_of_mem _ q_mem, reaches⟩

/-- A circle is marked where the throwable has been met before. -/
theorem mem_of_circular {depth : Nat} {label : Label} {id : ThrowableId} {after : List Entry}
    (met : List ThrowableId) (ps : List Pending) (before : List Entry)
    (split : entries h met ps = before ++ .circular depth label id :: after) :
    id ∈ met ∨ id ∈ captions before := by
  induction met, ps using entries.induct h generalizing before with
  | case1 met => simp [entries] at split
  | case2 met p rest again ih =>
    rw [entries_of_mem again] at split
    cases before with
    | nil =>
      cases split
      exact Or.inl again
    | cons e before =>
      obtain ⟨rfl, behind⟩ := List.cons_eq_cons.1 split
      exact ih before behind
  | case3 met p rest fresh ih =>
    rw [entries_of_not_mem fresh] at split
    -- a circle is no entry of the throwable itself, so it stands behind all of these
    have own : circulars (ownEntries h p) = [] := circulars_ownEntries h p
    obtain ⟨front, rfl, behind⟩ : ∃ front, before = ownEntries h p ++ front ∧
        entries h (p.id :: met) (inside h p ++ rest)
          = front ++ .circular depth label id :: after := by
      rcases List.append_eq_append_iff.1 split with ⟨front, eq, behind⟩ | ⟨back, eq, behind⟩
      · exact ⟨front, eq, behind⟩
      · cases back with
        | nil => exact ⟨[], by simpa using eq.symm, by simpa using behind.symm⟩
        | cons e back =>
          obtain ⟨rfl, -⟩ := List.cons_eq_cons.1 behind
          rw [eq, circulars, List.filterMap_append] at own
          simp [Entry.circular?] at own
    rw [captions_append, captions_ownEntries, List.singleton_append, List.mem_cons]
    rcases ih front behind with old | new
    · exact (List.mem_cons.1 old).elim (fun eq => Or.inr (Or.inl eq)) Or.inl
    · exact Or.inr (Or.inr new)

/-- A reference is followed wherever a throwable has its caption. -/
theorem marks_entries_perm (h : Heap) (met : List ThrowableId) (ps : List Pending) :
    (marks (entries h met ps)).Perm (ps.map (fun p => (p.label, p.id))
      ++ (captions (entries h met ps)).flatMap h.labelled) := by
  induction met, ps using entries.induct h with
  | case1 met => simp [entries, captions, marks]
  | case2 met p rest again ih =>
    rw [entries_of_mem again]
    exact ih.cons (p.label, p.id)
  | case3 met p rest fresh ih =>
    rw [entries_of_not_mem fresh, captions_append, marks_append, marks_ownEntries,
      captions_ownEntries, List.singleton_append, List.singleton_append, List.map_cons,
      List.flatMap_cons, List.cons_append]
    refine List.Perm.cons _ (ih.trans ?_)
    rw [List.map_append, map_inside, ← List.append_assoc]
    exact List.perm_append_comm.append_right _

/-! ## Order -/

/-- Pending throwables **await** their turn behind their owners, which have been met, the last one
first: those are left of the references of an owner, in order, that have not been followed, and all
that have been followed have been met. -/
inductive Await (h : Heap) (met : List ThrowableId) :
    List ThrowableId → List ThrowableId → Prop where
  | nil : Await h met [] []
  | cons {owner : ThrowableId} {owners pending : List ThrowableId}
      (followed left : List ThrowableId)
      (references : (h.throwable owner).references = followed ++ left)
      (old : ∀ id ∈ followed, id ∈ met) (others : Await h met owners pending) :
      Await h met (owner :: owners) (left ++ pending)

namespace Await

variable {met owners pending : List ThrowableId} {id : ThrowableId}

/-- At first the references of one throwable await their turn. -/
theorem start (h : Heap) (id : ThrowableId) : Await h [id] [id] (h.throwable id).references := by
  rw [← List.append_nil (h.throwable id).references]
  exact .cons [] _ rfl (List.forall_mem_nil _) .nil

/-- Whatever is met meanwhile, throwables go on to await their turn. -/
theorem meet (await : Await h met owners pending) (id : ThrowableId) :
    Await h (id :: met) owners pending := by
  induction await with
  | nil => exact .nil
  | cons followed left references old _ ih =>
    exact .cons followed left references (fun id mem => List.mem_cons_of_mem _ (old id mem)) ih

/-- The first reference that is left can be followed when its throwable has been met. -/
theorem follow (await : Await h met owners (id :: pending)) (mem : id ∈ met) :
    Await h met owners pending := by
  generalize eq : id :: pending = all at await
  induction await generalizing pending with
  | nil => cases eq
  | cons followed left references old await ih =>
    cases left with
    | nil => exact .cons followed [] references old (ih eq)
    | cons next left =>
      obtain ⟨rfl, rfl⟩ := List.cons_eq_cons.1 eq
      refine .cons (followed ++ [id]) left (by simp [references]) (fun id' mem' => ?_) await
      rcases List.mem_append.1 mem' with mem' | mem'
      · exact old id' mem'
      · rwa [List.mem_singleton.1 mem']

/-- A depth-first walk goes on to the first pending throwable that has not been met. -/
theorem findSome?_eq (await : Await h met owners pending) :
    (owners.findSome? fun id => (h.throwable id).references.find? (· ∉ met))
      = pending.find? (· ∉ met) := by
  induction await with
  | nil => rfl
  | cons followed left references old await ih =>
    have none_followed : followed.find? (· ∉ met) = none := by
      simpa using old
    rw [List.findSome?_cons, references, List.find?_append, List.find?_append, none_followed, ih,
      Option.none_or]
    cases left.find? (· ∉ met) <;> rfl

end Await

/-- Captions are in depth-first order. -/
theorem depthFirst_captions (h : Heap) (met : List ThrowableId) (ps : List Pending)
    (await : Await h met met (ps.map Pending.id)) :
    h.DepthFirst met (captions (entries h met ps)) := by
  induction met, ps using entries.induct h with
  | case1 met =>
    simpa [entries, captions, Heap.DepthFirst, Heap.next?] using await.findSome?_eq
  | case2 met p rest again ih =>
    rw [captions_entries_of_mem again]
    exact ih (await.follow again)
  | case3 met p rest fresh ih =>
    -- the first one that has not been met among those awaiting their turn
    have next : h.next? met = some p.id := by
      rw [Heap.next?, await.findSome?_eq, List.map_cons, List.find?_cons_of_pos (by simpa)]
    have others : Await h (p.id :: met) met (rest.map Pending.id) :=
      (await.meet p.id).follow List.mem_cons_self
    rw [captions_entries_of_not_mem fresh]
    refine ⟨next, ih ?_⟩
    rw [List.map_append, map_id_inside]
    exact .cons [] _ rfl (List.forall_mem_nil _) others

end Trace

/-! ## The trace of a throwable -/

namespace Heap

open Trace

/-- The captions of a trace begin with that of its throwable. -/
theorem captions_trace (h : Heap) (root : ThrowableId) :
    captions (h.trace root)
      = root :: captions (entries h [root] (inside h ⟨.root, 0, [], root⟩)) := by
  rw [trace, captions_entries_of_not_mem List.not_mem_nil, List.append_nil]

/-- The throwables of a trace are those that are reached. -/
theorem mem_captions_trace {h : Heap} {root id : ThrowableId} :
    id ∈ captions (h.trace root) ↔ h.Reaches root id := by
  constructor
  · intro mem
    obtain ⟨p, mem, reaches⟩ := reaches_of_mem_captions mem
    rwa [List.mem_singleton.1 mem] at reaches
  · intro reaches
    induction reaches with
    | refl =>
      rw [captions_trace]
      exact List.mem_cons_self
    | @tail a b _ refers ih =>
      -- a reference of a throwable with a caption is followed, to a caption or to a circle
      rw [Refers, ← map_snd_labelled] at refers
      obtain ⟨⟨label, b⟩, labelled, rfl⟩ := List.mem_map.1 refers
      have followed : (label, b) ∈ marks (h.trace root) := by
        refine (marks_entries_perm h [] _).mem_iff.2 (List.mem_append_right _ ?_)
        exact List.mem_flatMap.2 ⟨a, ih, labelled⟩
      rcases exists_of_mem_marks followed with mem | ⟨before, depth, after, split⟩
      · exact mem
      · rcases mem_of_circular _ _ _ split with old | new
        · cases old
        · rw [split, captions_append]
          exact List.mem_append_left _ new

/-- **A stack trace is a walk.** From the root it gives one caption to every throwable that is
reached, and to no other, in depth-first order. It follows the root and every reference of every
throwable that is reached once, so that circles are as many as there are references that do not lead
to a first meeting, and each is a circle to a throwable that has its caption before it. -/
theorem trace_walks (h : Heap) (root : ThrowableId) :
    (∃ others, captions (h.trace root) = root :: others ∧ h.DepthFirst [root] others) ∧
    (captions (h.trace root)).Nodup ∧
    (∀ id, id ∈ captions (h.trace root) ↔ h.Reaches root id) ∧
    (marks (h.trace root)).Perm
      ((.root, root) :: (captions (h.trace root)).flatMap h.labelled) ∧
    (circulars (h.trace root)).length + ((captions (h.trace root)).length - 1)
      = ((captions (h.trace root)).map fun id =>
          (h.throwable id).suppressed.length + (h.throwable id).cause.toList.length).sum ∧
    ∀ before depth label id after,
      h.trace root = before ++ .circular depth label id :: after → id ∈ captions before := by
  have walked : (marks (h.trace root)).Perm
      ((.root, root) :: (captions (h.trace root)).flatMap h.labelled) :=
    marks_entries_perm h [] [⟨.root, 0, [], root⟩]
  refine ⟨⟨_, captions_trace h root, depthFirst_captions h _ _ ?_⟩,
    (captions_entries_fresh h [] _).1, fun id => mem_captions_trace, walked, ?_, ?_⟩
  · rw [map_id_inside]
    exact Await.start h root
  · have length := (map_snd_marks_perm (h.trace root)).length_eq
    rw [List.length_map, walked.length_eq, List.length_cons, List.length_flatMap,
      List.length_append] at length
    simp only [length_labelled] at length
    -- the throwable itself has a caption that no reference led to
    have nonempty : 0 < (captions (h.trace root)).length := by
      rw [captions_trace]
      exact Nat.succ_pos _
    omega
  · intro before depth label id after split
    exact (mem_of_circular _ _ _ split).resolve_left List.not_mem_nil

/-- Two throwables that are each other's cause, the second one also suppressed by the first. -/
theorem trace_walks_circle :
    let h : Heap :=
      { throwables := [⟨"A", none, [], some 1, [1]⟩, ⟨"B", none, [], some 0, []⟩] }
    h.trace 0 = [.caption 0 .root 0, .caption 1 .suppressed 1, .circular 1 .cause 0]
      ++ .circular 0 .cause 1 :: [] ∧
    1 ∈ captions [.caption 0 .root 0, .caption 1 .suppressed 1, .circular 1 .cause 0] := by
  intro h
  have trace : h.trace 0 = [.caption 0 .root 0, .caption 1 .suppressed 1, .circular 1 .cause 0]
      ++ .circular 0 .cause 1 :: [] := by
    simp [h, Heap.trace, Trace.entries, Trace.ownEntries, Trace.inside, Heap.throwable,
      Trace.sharedEnd, Trace.sharedStart]
  exact ⟨trace, (trace_walks h 0).2.2.2.2.2 _ _ _ _ _ trace⟩

end Heap

end Logline
