import Logline.Proofs.Trace.CommonEnd
import Logline.Proofs.Trace.Tree

/-! # Reading stack traces

A stack trace loses nothing of throwables that form a tree. It is a list of **notices**, one for
each throwable: how deep it is indented, how it is reached, its class and message, the frames that
are shown and the count of those that are not. From the indentation and the way of being reached
alone the tree is put together again, and frames that are not shown are taken from the end of the
enclosing trace.

* `Trace.notices` — the notices of a trace
* `Trace.nest` — the trees that notices hang in
* `Trace.decode` — the throwables that notices speak of
* `Heap.decode_trace` — the stack trace of a tree is read back as that tree -/

namespace Logline

namespace Trace

/-! ## Notices -/

/-- The class and the message of a throwable. -/
structure Title where
  className : String
  message : Option String
  deriving DecidableEq, Repr

/-- A throwable without what it refers to. -/
structure Failure extends Title where
  frames : List Frame
  deriving DecidableEq, Repr

/-- What counts of a throwable when its frames are compared. -/
def Failure.bare (f : Failure) : Failure := { f with frames := f.frames.map Frame.bare }

/-- All that a trace says of one throwable. -/
structure Notice (α : Type) where
  /-- How deep it is indented. -/
  depth : Nat
  /-- How it is reached. -/
  label : Label
  /-- What is known of it. -/
  who : α
  /-- The frames that are shown. -/
  shown : List Frame
  /-- How many frames are not shown. -/
  elided : Nat
  deriving DecidableEq, Repr

/-- A notice with something made of what is known of its throwable. -/
def Notice.map {α β : Type} (f : α → β) (n : Notice α) : Notice β := { n with who := f n.who }

/-- The frames and the count in front of the first caption of a trace, and the notices from there
on. -/
def gather : List Entry → List Frame × Nat × List (Notice ThrowableId)
  | [] => ([], 0, [])
  | .caption depth label id :: es =>
    let (shown, elided, ns) := gather es
    ([], 0, ⟨depth, label, id, shown, elided⟩ :: ns)
  | .frame _ _ _ f :: es =>
    let (shown, elided, ns) := gather es
    (f :: shown, elided, ns)
  | .elided _ count :: es =>
    let (shown, _, ns) := gather es
    (shown, count, ns)
  | .circular _ _ _ :: es =>
    let (_, _, ns) := gather es
    ([], 0, ns)

/-- The notices of a trace. -/
def notices (es : List Entry) : List (Notice ThrowableId) := (gather es).2.2

/-- The notice of a throwable that is laid out. -/
def noticeOf (h : Heap) (p : Pending) : Notice ThrowableId :=
  let frames := (h.throwable p.id).frames
  let shared := sharedEnd frames p.enclosing
  ⟨p.depth, p.label, p.id, frames.take (frames.length - shared), shared⟩

/-- Frames in front of a trace are gathered in front of its frames. -/
theorem gather_frames (depth : Nat) (id : ThrowableId) (place : Nat → Nat) (fs : List Frame)
    (es : List Entry) :
    gather (fs.mapIdx (fun i f => .frame depth id (place i) f) ++ es)
      = (fs ++ (gather es).1, (gather es).2) := by
  induction fs generalizing place with
  | nil => rfl
  | cons f fs ih =>
    rw [List.mapIdx_cons, List.cons_append, gather, ih fun i => place (i + 1)]
    rfl

/-- The entries of a throwable itself are gathered into its notice. -/
theorem gather_ownEntries (h : Heap) (p : Pending) {es : List Entry}
    {ns : List (Notice ThrowableId)} (behind : gather es = ([], 0, ns)) :
    gather (ownEntries h p ++ es) = ([], 0, noticeOf h p :: ns) := by
  have elided : ∀ shared : Nat,
      gather ((if shared = 0 then [] else [.elided p.depth shared]) ++ es) = ([], shared, ns) := by
    intro shared
    split
    · next none => rw [List.nil_append, behind, none]
    · rw [List.singleton_append, gather, behind]
  have shown : ∀ (fs : List Frame) (es : List Entry),
      gather (fs.mapIdx (fun i f => .frame p.depth p.id i f) ++ es)
        = (fs ++ (gather es).1, (gather es).2) :=
    gather_frames p.depth p.id fun i => i
  rw [ownEntries, List.cons_append, List.cons_append, List.append_assoc, gather, shown, elided,
    List.append_nil, noticeOf]

/-- The notices of throwables that are laid out one after the other. -/
theorem gather_flatMap (h : Heap) (ps : List Pending) :
    gather (ps.flatMap (ownEntries h)) = ([], 0, ps.map (noticeOf h)) := by
  induction ps with
  | nil => rfl
  | cons p ps ih => rw [List.flatMap_cons, gather_ownEntries h p ih, List.map_cons]

/-! ## Trees -/

section Nesting

variable {α : Type}

/-- Whether a tree hangs below a notice as a suppressed one. -/
def Notice.suppresses (n : Notice α) (t : Tree (Notice α)) : Bool :=
  t.own.depth = n.depth + 1 ∧ t.own.label = .suppressed

/-- Whether a tree hangs below a notice as its cause. -/
def Notice.causedBy (n : Notice α) (t : Tree (Notice α)) : Bool :=
  t.own.depth = n.depth ∧ t.own.label = .cause

/-- What hangs below a notice as a suppressed one, in logical form. -/
theorem Notice.suppresses_iff {n : Notice α} {t : Tree (Notice α)} :
    n.suppresses t = true ↔ t.own.depth = n.depth + 1 ∧ t.own.label = .suppressed := by
  simp [suppresses]

/-- What hangs below a notice as its cause, in logical form. -/
theorem Notice.causedBy_iff {n : Notice α} {t : Tree (Notice α)} :
    n.causedBy t = true ↔ t.own.depth = n.depth ∧ t.own.label = .cause := by
  simp [causedBy]

/-- Trees with a notice in front of them, which takes those that hang below it. -/
def adopt (n : Notice α) (trees : List (Tree (Notice α))) : List (Tree (Notice α)) :=
  let ss := trees.takeWhile n.suppresses
  match trees.dropWhile n.suppresses with
  | [] => [.node n ss none]
  | t :: rest => if n.causedBy t then .node n ss (some t) :: rest else .node n ss none :: t :: rest

/-- The trees that notices hang in. -/
def nest (ns : List (Notice α)) : List (Tree (Notice α)) := ns.foldr adopt []

/-- A tree of notices is **layered** if suppressed ones are indented one step more than their owner
and causes as much as it, and both are labelled as what they are. -/
def Layered : Tree (Notice α) → Prop
  | .node n ss c =>
    (∀ s ∈ ss, n.suppresses s) ∧ (∀ s ∈ c, n.causedBy s) ∧
      (∀ s ∈ ss, Layered s) ∧ ∀ s ∈ c, Layered s

/-- Trees **keep off** a depth if the first one does not hang below a notice of that depth. -/
def KeepOff (depth : Nat) (trees : List (Tree (Notice α))) : Prop :=
  ∀ t ∈ trees.head?, t.own.depth < depth ∨ t.own.depth = depth ∧ t.own.label = .suppressed

/-- A list is split where a property stops to hold. -/
theorem takeWhile_dropWhile_of_stop {β : Type} {p : β → Bool} {as bs : List β}
    (all : ∀ a ∈ as, p a) (stops : ∀ b ∈ bs.head?, p b = false) :
    (as ++ bs).takeWhile p = as ∧ (as ++ bs).dropWhile p = bs := by
  rw [List.takeWhile_append_of_pos all, List.dropWhile_append_of_pos all]
  cases bs with
  | nil => exact ⟨List.append_nil as, rfl⟩
  | cons b bs => simp [stops b rfl]

/-- A notice takes back the trees that hang below it. -/
theorem adopt_eq {n : Notice α} {ss : List (Tree (Notice α))} {c : Option (Tree (Notice α))}
    {trees : List (Tree (Notice α))} (suppressed : ∀ s ∈ ss, n.suppresses s)
    (cause : ∀ s ∈ c, n.causedBy s) (off : KeepOff n.depth trees) :
    adopt n (ss ++ (c.toList ++ trees)) = .node n ss c :: trees := by
  have free : ∀ t ∈ trees.head?, n.suppresses t = false ∧ n.causedBy t = false := by
    intro t mem
    rcases off t mem with less | ⟨same, label⟩
    · simp only [Notice.suppresses, Notice.causedBy, decide_eq_false_iff_not]
      omega
    · simp [Notice.suppresses, Notice.causedBy, same, label]
  -- neither the cause nor a tree behind it is one of the suppressed ones
  have stops : ∀ t ∈ (c.toList ++ trees).head?, n.suppresses t = false := by
    cases c with
    | none => exact fun t mem => (free t mem).1
    | some u =>
      intro t mem
      cases mem
      simp [Notice.suppresses, (Notice.causedBy_iff.1 (cause u rfl)).1]
  obtain ⟨taken, left⟩ := takeWhile_dropWhile_of_stop suppressed stops
  rw [adopt, taken, left]
  cases c with
  | some u => simp [cause u rfl]
  | none =>
    cases trees with
    | nil => rfl
    | cons t rest => simp [(free t rfl).2]

/-- Trees that keep off a depth keep off the next one too. -/
theorem KeepOff.succ {depth : Nat} {trees : List (Tree (Notice α))} (off : KeepOff depth trees) :
    KeepOff (depth + 1) trees := by
  intro t mem
  have := off t mem
  omega

/-- Notices of suppressed trees side by side are put together to these. -/
theorem foldr_adopt_flatMap {depth : Nat} {ss trees : List (Tree (Notice α))}
    (side_by_side : ∀ s ∈ ss, s.own.depth = depth ∧ s.own.label = .suppressed)
    (each : ∀ s ∈ ss, ∀ trees, KeepOff depth trees → s.toList.foldr adopt trees = s :: trees)
    (off : KeepOff depth trees) :
    (ss.flatMap Tree.toList).foldr adopt trees = ss ++ trees := by
  induction ss with
  | nil => rfl
  | cons s ss ih =>
    obtain ⟨-, others⟩ := List.forall_mem_cons.1 side_by_side
    -- what stands behind a suppressed tree is another one, or keeps off
    have behind : KeepOff depth (ss ++ trees) := by
      cases ss with
      | nil => exact off
      | cons s' ss =>
        intro t mem
        cases mem
        exact Or.inr (others s' List.mem_cons_self)
    rw [List.flatMap_cons, List.foldr_append,
      ih others (fun s mem => each s (List.mem_cons_of_mem _ mem)),
      each s List.mem_cons_self _ behind, List.cons_append]

/-- Notices of a tree are put together to the tree. -/
theorem foldr_adopt {t : Tree (Notice α)} (layered : Layered t) {trees : List (Tree (Notice α))}
    (off : KeepOff t.own.depth trees) : t.toList.foldr adopt trees = t :: trees := by
  induction t using Tree.induct generalizing trees with
  | step t ih =>
    cases t with
    | node n ss c =>
      rw [Layered] at layered
      obtain ⟨suppressed, cause, ss_layered, c_layered⟩ := layered
      rw [Tree.own] at off
      have behind : (c.toList.flatMap Tree.toList).foldr adopt trees = c.toList ++ trees := by
        cases c with
        | none => rfl
        | some u =>
          have same_depth := (Notice.causedBy_iff.1 (cause u rfl)).1
          simpa using ih u (Tree.mem_children.2 (Or.inr rfl)) (c_layered u rfl) (same_depth ▸ off)
      -- the cause stands between, and is indented less than a suppressed one
      have off_suppressed : KeepOff (n.depth + 1) (c.toList ++ trees) := by
        cases c with
        | none => exact off.succ
        | some u =>
          intro t mem
          cases mem
          have same_depth := (Notice.causedBy_iff.1 (cause u rfl)).1
          omega
      have side_by_side : ∀ s ∈ ss, s.own.depth = n.depth + 1 ∧ s.own.label = .suppressed :=
        fun s mem => Notice.suppresses_iff.1 (suppressed s mem)
      have each : ∀ s ∈ ss, ∀ trees, KeepOff (n.depth + 1) trees →
          s.toList.foldr adopt trees = s :: trees := by
        intro s mem trees off
        exact ih s (Tree.mem_children.2 (Or.inl mem)) (ss_layered s mem)
          ((side_by_side s mem).1 ▸ off)
      rw [Tree.toList_eq, Tree.own, Tree.children, List.flatMap_append, List.foldr_cons,
        List.foldr_append, behind, foldr_adopt_flatMap side_by_side each off_suppressed,
        adopt_eq suppressed cause off]

/-- The notices of a tree hang in that tree. -/
theorem nest_toList {t : Tree (Notice α)} (layered : Layered t) : nest t.toList = [t] :=
  foldr_adopt layered (by simp [KeepOff])

end Nesting

example : nest [⟨0, .root, "A", [], 0⟩, ⟨1, .suppressed, "B", [], 0⟩, ⟨1, .cause, "C", [], 0⟩,
      ⟨0, .cause, "D", [], 0⟩]
    = [.node ⟨0, .root, "A", [], 0⟩
        [.node ⟨1, .suppressed, "B", [], 0⟩ [] (some (.node ⟨1, .cause, "C", [], 0⟩ [] none))]
        (some (.node ⟨0, .cause, "D", [], 0⟩ [] none))] := rfl

/-! ## Decoding -/

/-- All frames of a throwable, from its notice and the frames of the enclosing trace. -/
def Notice.frames {α : Type} (n : Notice α) (enclosing : List Frame) : List Frame :=
  n.shown ++ enclosing.drop (enclosing.length - n.elided)

/-- A tree of throwables from a tree of notices inside an enclosing trace. -/
def restore : Tree (Notice Title) → List Frame → Tree Failure :=
  Tree.fold fun n ss c enclosing =>
    .node ⟨n.who, n.frames enclosing⟩ (ss.map (· (n.frames enclosing)))
      (c.map (· (n.frames enclosing)))

/-- The frames of the root are restored first, and the trees below it against these. -/
theorem restore_node (n : Notice Title) (ss : List (Tree (Notice Title)))
    (c : Option (Tree (Notice Title))) (enclosing : List Frame) :
    restore (.node n ss c) enclosing
      = .node ⟨n.who, n.frames enclosing⟩ (ss.map (restore · (n.frames enclosing)))
          (c.map (restore · (n.frames enclosing))) := by
  rw [restore, Tree.fold_node, List.map_map, Option.map_map]
  rfl

/-- The throwables that notices speak of, if they are those of one tree. -/
def decode (ns : List (Notice Title)) : Option (Tree Failure) :=
  match nest ns with
  | [t] => some (restore t [])
  | _ => none

end Trace

namespace Heap

open Trace

variable {h : Heap}

/-- The class and the message of a throwable. -/
def title (h : Heap) (id : ThrowableId) : Title :=
  ⟨(h.throwable id).className, (h.throwable id).message⟩

/-- A throwable without what it refers to. -/
def failure (h : Heap) (id : ThrowableId) : Failure := ⟨h.title id, (h.throwable id).frames⟩

/-- A notice and the enclosing trace, up to what does not count, give all frames. -/
theorem frames_noticeOf (p : Pending) {enclosing : List Frame}
    (same : enclosing.map Frame.bare = p.enclosing.map Frame.bare) :
    ((noticeOf h p).frames enclosing).map Frame.bare
      = (h.throwable p.id).frames.map Frame.bare := by
  have length : enclosing.length = p.enclosing.length := by
    simpa using congrArg List.length same
  have common := (isGreatest_sharedEnd (h.throwable p.id).frames p.enclosing).1
  rw [Notice.frames, noticeOf, List.map_append, List.map_drop, same, ← List.map_drop, length,
    ← common.drop_bare, ← List.map_append, List.take_append_drop]

/-- The notices of a tree that is spread out are restored to the frames of its throwables. -/
theorem restore_spread {t : Trace.Tree Pending} (spread : t.Spread h) {enclosing : List Frame}
    (same : enclosing.map Frame.bare = t.own.enclosing.map Frame.bare) :
    (restore (t.map fun p => (noticeOf h p).map h.title) enclosing).map Failure.bare
      = t.map fun p => (h.failure p.id).bare := by
  induction t using Trace.Tree.induct generalizing enclosing with
  | step t ih =>
    cases t with
    | node p ss c =>
      have frames := frames_noticeOf (h := h) p same
      -- the frames of the root are restored, and the trees below it are compared with these
      have each : ∀ s, s ∈ (Trace.Tree.node p ss c).children →
          (restore (s.map fun p => (noticeOf h p).map h.title)
            (((noticeOf h p).map h.title).frames enclosing)).map Failure.bare
              = s.map fun p => (h.failure p.id).bare := by
        intro s mem
        refine ih s mem (spread.of_mem_children mem) ?_
        rw [spread.enclosing_of_mem_children mem]
        exact frames
      simp only [Trace.Tree.map_node, restore_node, List.map_map, Option.map_map]
      congr 1
      · rw [Failure.bare, failure, Failure.bare, ← frames]
        rfl
      · exact List.map_congr_left fun s mem => each s (Trace.Tree.mem_children.2 (Or.inl mem))
      · exact Option.map_congr fun s mem => each s (Trace.Tree.mem_children.2 (Or.inr mem))

/-- The notices of a tree are layered. -/
theorem layered_of_spread {t : Trace.Tree Pending} (spread : t.Spread h) :
    Layered (t.map fun p => (noticeOf h p).map h.title) := by
  induction t using Trace.Tree.induct with
  | step t ih =>
    cases t with
    | node p ss c =>
      rw [Trace.Tree.map_node, Layered]
      refine ⟨?_, ?_, ?_, ?_⟩
      · intro s' mem'
        obtain ⟨s, mem, rfl⟩ := List.mem_map.1 mem'
        rw [Notice.suppresses_iff, Trace.Tree.own_map]
        exact spread.own_suppressed mem
      · intro s' mem'
        obtain ⟨s, mem, rfl⟩ := Option.map_eq_some_iff.1 mem'
        rw [Notice.causedBy_iff, Trace.Tree.own_map]
        exact spread.own_cause mem
      · intro s' mem'
        obtain ⟨s, mem, rfl⟩ := List.mem_map.1 mem'
        have child : s ∈ (Trace.Tree.node p ss c).children := Trace.Tree.mem_children.2 (Or.inl mem)
        exact ih s child (spread.of_mem_children child)
      · intro s' mem'
        obtain ⟨s, mem, rfl⟩ := Option.map_eq_some_iff.1 mem'
        have child : s ∈ (Trace.Tree.node p ss c).children := Trace.Tree.mem_children.2 (Or.inr mem)
        exact ih s child (spread.of_mem_children child)

/-- **Stack traces lose nothing.** Where no throwable is reached by two paths, a throwable unfolds
to a tree, and what its stack trace says of each throwable is read back as this tree, up to the
files of frames and whether their methods are native. In particular what is shown of the frames of
an enclosed throwable is the beginning of them, and what is counted is the longest end that they
have in common with the frames of its owner. -/
theorem decode_trace (h : Heap) (root : ThrowableId) (single : h.SinglePaths root) :
    ∃ t : Trace.Tree ThrowableId, t.own = root ∧ t.Unfolds h ∧
      (decode ((notices (h.trace root)).map (Notice.map h.title))).map (Trace.Tree.map Failure.bare)
        = some ((t.map h.failure).map Failure.bare) ∧
      ∀ owner id, h.Reaches root owner → h.Refers owner id →
        ∃ n ∈ notices (h.trace root), n.who = id ∧ n.shown <+: (h.throwable id).frames ∧
          n.shown.length + n.elided = (h.throwable id).frames.length ∧
          IsGreatest {k | CommonEnd (h.throwable id).frames (h.throwable owner).frames k}
            n.elided := by
  obtain ⟨t, own, spread, trace⟩ := exists_trace_eq single
  have all : notices (h.trace root) = t.toList.map (noticeOf h) := by
    rw [notices, trace, gather_flatMap]
  refine ⟨t.map Pending.id, by rw [Trace.Tree.own_map, own], spread.unfolds, ?_, ?_⟩
  · have tree : (t.toList.map (noticeOf h)).map (Notice.map h.title)
        = (t.map fun p => (noticeOf h p).map h.title).toList := by
      rw [Trace.Tree.toList_map, List.map_map]
      rfl
    rw [all, tree, decode, nest_toList (layered_of_spread spread), Option.map_some,
      restore_spread spread (by rw [own]), Trace.Tree.map_map, Trace.Tree.map_map]
    rfl
  · intro owner id reached refers
    rw [← mem_captions_trace, trace, captions_flatMap] at reached
    obtain ⟨q, q_mem, rfl⟩ := List.mem_map.1 reached
    rw [Refers, ← map_id_inside] at refers
    obtain ⟨p, p_mem, rfl⟩ := List.mem_map.1 refers
    refine ⟨noticeOf h p, ?_, rfl, List.take_prefix _ _, ?_, ?_⟩
    · rw [all]
      exact List.mem_map_of_mem (spread.mem_toList_of_mem_inside q_mem p_mem)
    · have le := sharedEnd_le_length (h.throwable p.id).frames p.enclosing
      simp only [noticeOf, List.length_take]
      omega
    · rw [← enclosing_of_mem_inside p_mem]
      exact isGreatest_sharedEnd _ _

/-- A throwable with a suppressed one, which has a cause of its own, and a cause all of whose frames
are shared. -/
theorem decode_trace_cause_below_suppressed :
    let f : Frame := ⟨"app", "main", some "main.rs", some 3, false⟩
    let g : Frame := ⟨"app", "run", none, some 7, true⟩
    let h : Heap :=
      { throwables := [⟨"A", some "a", [g, f], some 2, [1]⟩, ⟨"B", none, [g], some 3, []⟩,
        ⟨"C", some "c", [{ f with file := none }], none, []⟩, ⟨"D", some "d", [], none, []⟩] }
    h.SinglePaths 0 ∧ ∃ t : Trace.Tree ThrowableId, t.own = 0 ∧ t.Unfolds h ∧
      (decode ((notices (h.trace 0)).map (Notice.map h.title))).map (Trace.Tree.map Failure.bare)
        = some ((t.map h.failure).map Failure.bare) ∧
      ∃ n ∈ notices (h.trace 0), n.who = 2 ∧ n.shown.length + n.elided = 1 := by
  intro f g h
  have leads : ∀ path id, h.follow 0 path = some id →
      (path = [] ∧ id = 0) ∨ (path = [0] ∧ id = 1) ∨ (path = [1] ∧ id = 2) ∨
        (path = [0, 0] ∧ id = 3) := by
    intro path id leads
    match path with
    | [] => exact Or.inl ⟨rfl, (Option.some.inj leads).symm⟩
    | [0] => exact Or.inr (Or.inl ⟨rfl, (Option.some.inj leads).symm⟩)
    | 0 :: 0 :: path =>
      obtain ⟨rfl, rfl⟩ := follow_eq_some_of_leaf (h := h) 3 rfl leads
      exact Or.inr (Or.inr (Or.inr ⟨rfl, rfl⟩))
    | 1 :: path =>
      obtain ⟨rfl, rfl⟩ := follow_eq_some_of_leaf (h := h) 2 rfl leads
      exact Or.inr (Or.inr (Or.inl ⟨rfl, rfl⟩))
    | 0 :: (i + 1) :: path => cases leads
    | (i + 2) :: path => cases leads
  have single : h.SinglePaths 0 := by
    intro path path' id first second
    rcases leads path id first with h | h | h | h <;>
      rcases leads path' id second with h' | h' | h' | h' <;> simp_all
  obtain ⟨t, own, unfolds, reads, enclosed⟩ := decode_trace h 0 single
  have refers : h.Refers 0 2 := by
    simp [h, Refers, throwable, Throwable.references]
  obtain ⟨n, mem, who, -, length, -⟩ := enclosed 0 2 .refl refers
  exact ⟨single, t, own, unfolds, reads, n, mem, who, length⟩

end Heap

end Logline
