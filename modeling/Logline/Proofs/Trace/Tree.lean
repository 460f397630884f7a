import Logline.Proofs.Trace.Walk
import Mathlib.Data.List.Nodup

/-! # Throwables that form trees

Where no throwable is reached by two paths, a throwable and all that it reaches form a tree, and its
stack trace lists the nodes of the tree, each before what it refers to.

* `Tree` — trees whose nodes have suppressed ones and perhaps a cause
* `Tree.toList` — the nodes of a tree, each before those below it
* `Heap.SinglePaths` — no throwable is reached by two paths
* `Tree.Spread` — a tree of what is laid out for a throwable
* `Heap.exists_spread` — single paths give a tree
* `Trace.entries_eq_flatMap` — the entries of a tree -/

namespace Logline

namespace Trace

/-- A tree of what belongs to a throwable, to its suppressed ones and to its cause. -/
inductive Tree (α : Type) where
  | node (own : α) (suppressed : List (Tree α)) (cause : Option (Tree α))

namespace Tree

variable {α β : Type}

/-- What belongs to the root. -/
def own : Tree α → α
  | node a _ _ => a

/-- The trees below the root, the suppressed ones first. -/
def children : Tree α → List (Tree α)
  | node _ ss c => ss ++ c.toList

/-- The trees below the root are those of the suppressed ones and of the cause. -/
theorem mem_children {a : α} {ss : List (Tree α)} {c : Option (Tree α)} {t : Tree α} :
    t ∈ (node a ss c).children ↔ t ∈ ss ∨ t ∈ c := by
  rw [children, List.mem_append, Option.mem_toList, Option.mem_def]

/-- The trees below the root are smaller. -/
theorem sizeOf_lt_of_mem_children {s t : Tree α} (mem : s ∈ t.children) :
    sizeOf s < sizeOf t := by
  cases t with
  | node a ss c =>
    rw [node.sizeOf_spec]
    rcases mem_children.1 mem with mem | mem
    · have less := List.sizeOf_lt_of_mem mem
      omega
    · cases mem
      rw [Option.some.sizeOf_spec]
      omega

/-- A property of trees holds if every tree has it whose children have it. -/
theorem induct {P : Tree α → Prop} (step : ∀ t, (∀ s ∈ t.children, P s) → P t) (t : Tree α) :
    P t :=
  step t fun s _ => induct step s
termination_by sizeOf t
decreasing_by exact sizeOf_lt_of_mem_children ‹_›

/-- Goes over a tree from the leaves to the root. -/
def fold (step : α → List β → Option β → β) : Tree α → β
  | node a ss c => step a (ss.map fun s => fold step s) (c.attach.map fun ⟨s, _⟩ => fold step s)

/-- Going over a tree ends at the root, with what has become of the trees below it. -/
theorem fold_node (step : α → List β → Option β → β) (a : α) (ss : List (Tree α))
    (c : Option (Tree α)) :
    fold step (node a ss c) = step a (ss.map (fold step)) (c.map (fold step)) := by
  rw [fold]
  simp

/-- A tree with something made of what belongs to each node. -/
def map (f : α → β) : Tree α → Tree β := fold fun a ss c => node (f a) ss c

/-- A node is changed together with the trees below it. -/
theorem map_node (f : α → β) (a : α) (ss : List (Tree α)) (c : Option (Tree α)) :
    map f (node a ss c) = node (f a) (ss.map (map f)) (c.map (map f)) :=
  fold_node _ a ss c

/-- What belongs to the root is changed as well. -/
theorem own_map (f : α → β) (t : Tree α) : (t.map f).own = f t.own := by
  cases t
  rw [map_node, own, own]

/-- The trees below the root are changed one by one. -/
theorem children_map (f : α → β) (t : Tree α) : (t.map f).children = t.children.map (map f) := by
  cases t with
  | node a ss c => cases c <;> simp [map_node, children]

/-- Changing a tree twice is changing it once. -/
theorem map_map {γ : Type} (g : β → γ) (f : α → β) (t : Tree α) :
    (t.map f).map g = t.map (g ∘ f) := by
  induction t using induct with
  | step t ih =>
    cases t with
    | node a ss c =>
      simp only [map_node, List.map_map, Option.map_map, Function.comp_apply]
      congr 1
      · exact List.map_congr_left fun s mem => ih s (mem_children.2 (Or.inl mem))
      · exact Option.map_congr fun s mem => ih s (mem_children.2 (Or.inr mem))

/-- What belongs to the nodes of a tree, each before what belongs to the nodes below it. -/
def toList : Tree α → List α := fold fun a ss c => a :: (ss.flatten ++ c.getD [])

/-- The root comes before all that is below it. -/
theorem toList_eq (t : Tree α) : t.toList = t.own :: t.children.flatMap toList := by
  cases t with
  | node a ss c =>
    rw [toList, fold_node]
    cases c <;> simp [List.flatMap_def, own, children]

/-- A changed tree has the changed nodes in the same order. -/
theorem toList_map (f : α → β) (t : Tree α) : (t.map f).toList = t.toList.map f := by
  induction t using induct with
  | step t ih =>
    rw [toList_eq, toList_eq, own_map, children_map, List.flatMap_map, List.map_cons,
      List.map_flatMap]
    congr 1
    exact List.flatMap_congr ih

/-- The root is one of the nodes. -/
theorem own_mem_toList (t : Tree α) : t.own ∈ t.toList := by
  rw [toList_eq]
  exact List.mem_cons_self

/-- A tree of pending throwables is **spread** out from its root if each throwable has below it what
is laid out inside it, the suppressed ones apart from the cause. -/
def Spread (h : Heap) : Tree Pending → Prop
  | node p ss c =>
    ss.map own = (h.throwable p.id).suppressed.map
        (⟨.suppressed, p.depth + 1, (h.throwable p.id).frames, ·⟩) ∧
      c.map own = (h.throwable p.id).cause.map (⟨.cause, p.depth, (h.throwable p.id).frames, ·⟩) ∧
      (∀ s ∈ ss, Spread h s) ∧ ∀ s ∈ c, Spread h s

/-- A tree of throwables **unfolds** its root if each throwable has its suppressed ones and its
cause below it. -/
def Unfolds (h : Heap) : Tree ThrowableId → Prop
  | node id ss c =>
    ss.map own = (h.throwable id).suppressed ∧ c.map own = (h.throwable id).cause ∧
      (∀ s ∈ ss, Unfolds h s) ∧ ∀ s ∈ c, Unfolds h s

namespace Spread

variable {h : Heap} {t : Tree Pending}

/-- The roots below the root are what is laid out inside it. -/
theorem map_own_children (spread : t.Spread h) : t.children.map own = inside h t.own := by
  cases t with
  | node p ss c =>
    rw [Spread] at spread
    obtain ⟨suppressed, cause, -, -⟩ := spread
    have cause_toList : c.toList.map own = (c.map own).toList := by
      cases c <;> rfl
    rw [children, List.map_append, suppressed, cause_toList, cause, own, inside]
    cases (h.throwable p.id).cause <;> rfl

/-- The trees below the root stand at the places of its references. -/
theorem reference (spread : t.Spread h) {i : Nat} {s : Tree Pending}
    (place : t.children[i]? = some s) :
    (h.throwable t.own.id).references[i]? = some s.own.id := by
  rw [← map_id_inside, ← spread.map_own_children, List.map_map, List.getElem?_map, place]
  rfl

/-- What is below the root is laid out against the frames of the root. -/
theorem enclosing_of_mem_children (spread : t.Spread h) {s : Tree Pending}
    (mem : s ∈ t.children) : s.own.enclosing = (h.throwable t.own.id).frames := by
  refine enclosing_of_mem_inside ?_
  rw [← spread.map_own_children]
  exact List.mem_map_of_mem mem

/-- A suppressed one is indented one step more than its owner. -/
theorem own_suppressed {p : Pending} {ss : List (Tree Pending)} {c : Option (Tree Pending)}
    (spread : (node p ss c).Spread h) {s : Tree Pending} (mem : s ∈ ss) :
    s.own.depth = p.depth + 1 ∧ s.own.label = .suppressed := by
  rw [Spread] at spread
  have own : s.own ∈ ss.map Tree.own := List.mem_map_of_mem mem
  rw [spread.1] at own
  obtain ⟨id, -, own⟩ := List.mem_map.1 own
  rw [← own]
  exact ⟨rfl, rfl⟩

/-- A cause is indented as much as its owner. -/
theorem own_cause {p : Pending} {ss : List (Tree Pending)} {c : Option (Tree Pending)}
    (spread : (node p ss c).Spread h) {s : Tree Pending} (mem : s ∈ c) :
    s.own.depth = p.depth ∧ s.own.label = .cause := by
  rw [Spread] at spread
  have own : s.own ∈ c.map Tree.own := Option.mem_map_of_mem _ mem
  rw [spread.2.1] at own
  obtain ⟨id, -, own⟩ := Option.map_eq_some_iff.1 own
  rw [← own]
  exact ⟨rfl, rfl⟩

/-- The trees below the root are spread out too. -/
theorem of_mem_children (spread : t.Spread h) {s : Tree Pending} (mem : s ∈ t.children) :
    s.Spread h := by
  cases t with
  | node p ss c =>
    rw [Spread] at spread
    rcases mem_children.1 mem with mem | mem
    · exact spread.2.2.1 s mem
    · exact spread.2.2.2 s mem

/-- The nodes of a tree are all that is laid out inside a node. -/
theorem mem_toList_of_mem_inside (spread : t.Spread h) {p q : Pending} (q_mem : q ∈ t.toList)
    (p_mem : p ∈ inside h q) : p ∈ t.toList := by
  induction t using Tree.induct with
  | step t ih =>
    rw [toList_eq] at q_mem ⊢
    refine List.mem_cons_of_mem _ (List.mem_flatMap.2 ?_)
    rcases List.mem_cons.1 q_mem with rfl | q_mem
    · rw [← spread.map_own_children] at p_mem
      obtain ⟨s, s_mem, rfl⟩ := List.mem_map.1 p_mem
      exact ⟨s, s_mem, s.own_mem_toList⟩
    · obtain ⟨s, s_mem, q_mem⟩ := List.mem_flatMap.1 q_mem
      exact ⟨s, s_mem, ih s s_mem (spread.of_mem_children s_mem) q_mem⟩

/-- What is laid out for a throwable unfolds it. -/
theorem unfolds (spread : t.Spread h) : (t.map Pending.id).Unfolds h := by
  induction t using Tree.induct with
  | step t ih =>
    cases t with
    | node p ss c =>
      have each : ∀ s, s ∈ ss ∨ s ∈ c → (s.map Pending.id).Unfolds h := fun s mem =>
        ih s (mem_children.2 mem) (spread.of_mem_children (mem_children.2 mem))
      have owns : (fun t : Tree Pending => (t.map Pending.id).own) = fun t => t.own.id :=
        funext (own_map Pending.id)
      rw [Spread] at spread
      rw [map_node, Unfolds]
      refine ⟨?_, ?_, ?_, ?_⟩
      · have ids := congrArg (List.map Pending.id) spread.1
        simpa [Function.comp_def, owns] using ids
      · have id := congrArg (Option.map Pending.id) spread.2.1
        simpa [Function.comp_def, owns] using id
      · intro s' mem'
        obtain ⟨s, mem, rfl⟩ := List.mem_map.1 mem'
        exact each s (Or.inl mem)
      · intro s' mem'
        obtain ⟨s, mem, rfl⟩ := Option.map_eq_some_iff.1 mem'
        exact each s (Or.inr mem)

end Spread

end Tree

end Trace

/-! ## Paths -/

namespace Heap

open Trace

variable {h : Heap} {id other root : ThrowableId}

/-- Where a path leads from a throwable. A path names the place of the reference that it takes at
each throwable. -/
def follow (h : Heap) : ThrowableId → List Nat → Option ThrowableId
  | id, [] => some id
  | id, i :: path => (h.throwable id).references[i]?.bind fun next => h.follow next path

/-- A path is followed piece by piece. -/
theorem follow_append (h : Heap) (id : ThrowableId) (path path' : List Nat) :
    h.follow id (path ++ path') = (h.follow id path).bind fun next => h.follow next path' := by
  induction path generalizing id with
  | nil => rfl
  | cons i path ih =>
    rw [List.cons_append, follow, follow, Option.bind_assoc]
    simp only [ih]

/-- A path is followed reference by reference. -/
theorem follow_cons {i : Nat} (place : (h.throwable id).references[i]? = some other)
    (path : List Nat) : h.follow id (i :: path) = h.follow other path := by
  rw [follow, place, Option.bind_some]

/-- Without references no path leads on. -/
theorem follow_eq_some_of_leaf (id : ThrowableId) (leaf : (h.throwable id).references = [])
    {path : List Nat} (leads : h.follow id path = some other) : path = [] ∧ other = id := by
  cases path with
  | nil => exact ⟨rfl, (Option.some.inj leads).symm⟩
  | cons i path => simp [follow, leaf] at leads

/-- A throwable has **single paths** if no throwable is reached from it by two paths. -/
def SinglePaths (h : Heap) (root : ThrowableId) : Prop :=
  ∀ path path' id, h.follow root path = some id → h.follow root path' = some id → path = path'

/-- Where single paths lead to all that a throwable reaches, so they do from what it refers to. -/
theorem SinglePaths.of_place {i : Nat} (single : h.SinglePaths id)
    (place : (h.throwable id).references[i]? = some other) : h.SinglePaths other := by
  intro path path' id' leads leads'
  have same : i :: path = i :: path' :=
    single _ _ id' (by rwa [follow_cons place]) (by rwa [follow_cons place])
  exact (List.cons_eq_cons.1 same).2

/-- Trees for all members of a list are a list of trees. -/
theorem exists_trees {α : Type} {P : Trace.Tree α → Prop} {as : List α}
    (each : ∀ a ∈ as, ∃ t : Trace.Tree α, t.own = a ∧ P t) :
    ∃ ts : List (Trace.Tree α), ts.map Trace.Tree.own = as ∧ ∀ t ∈ ts, P t := by
  induction as with
  | nil => exact ⟨[], rfl, List.forall_mem_nil _⟩
  | cons a as ih =>
    obtain ⟨first, others⟩ := List.forall_mem_cons.1 each
    obtain ⟨t, rfl, holds⟩ := first
    obtain ⟨ts, rfl, all⟩ := ih others
    exact ⟨t :: ts, rfl, List.forall_mem_cons.2 ⟨holds, all⟩⟩

/-- Single paths never come back to a throwable on the way, so that they end, and what is laid out
along them is a tree. The throwables on the way are those in `above`. -/
theorem exists_spread_below (p : Pending) (above : List ThrowableId) (single : h.SinglePaths p.id)
    (on_way : ∀ a ∈ above, ∃ path ≠ [], h.follow a path = some p.id) :
    ∃ t : Trace.Tree Pending, t.own = p ∧ t.Spread h := by
  induction unmet : unmet h above using Nat.strongRecOn generalizing p above with
  | _ n ih =>
    -- a throwable that is met on the way to itself would have two paths
    have fresh : p.id ∉ above := by
      intro mem
      obtain ⟨path, nonempty, leads⟩ := on_way p.id mem
      exact nonempty (single path [] p.id leads rfl)
    have each : ∀ q ∈ inside h p, ∃ t : Trace.Tree Pending, t.own = q ∧ t.Spread h := by
      intro q mem
      have present : p.id < h.throwables.length := by
        by_contra missing
        rw [inside_eq_nil (Nat.le_of_not_lt missing)] at mem
        cases mem
      have refers : q.id ∈ (h.throwable p.id).references := by
        rw [← map_id_inside]
        exact List.mem_map_of_mem mem
      obtain ⟨i, place⟩ := List.mem_iff_getElem?.1 refers
      have less : Trace.unmet h (p.id :: above) < n := unmet ▸ unmet_cons_lt present fresh
      refine ih _ less q (p.id :: above) (single.of_place place) (fun a mem => ?_) rfl
      rcases List.mem_cons.1 mem with rfl | mem
      · exact ⟨[i], List.cons_ne_nil _ _, follow_cons place []⟩
      · obtain ⟨path, -, leads⟩ := on_way a mem
        refine ⟨path ++ [i], by simp, ?_⟩
        rw [follow_append, leads, Option.bind_some]
        exact follow_cons place []
    rw [inside] at each
    obtain ⟨ss, suppressed, spread⟩ :=
      exists_trees fun q mem => each q (List.mem_append_left _ mem)
    obtain ⟨cs, cause, spread'⟩ :=
      exists_trees fun q mem => each q (List.mem_append_right _ mem)
    -- a throwable has one cause at most
    have at_most_one : cs.head?.map Trace.Tree.own
        = (h.throwable p.id).cause.map (⟨.cause, p.depth, (h.throwable p.id).frames, ·⟩) := by
      rw [← List.head?_map, cause]
      cases (h.throwable p.id).cause <;> rfl
    refine ⟨.node p ss cs.head?, rfl, ?_⟩
    rw [Trace.Tree.Spread]
    exact ⟨suppressed, at_most_one, spread, fun t mem => spread' t (List.mem_of_mem_head? mem)⟩

/-- A throwable with single paths is laid out as a tree. -/
theorem exists_spread (single : h.SinglePaths root) :
    ∃ t : Trace.Tree Pending, t.own = ⟨.root, 0, [], root⟩ ∧ t.Spread h :=
  exists_spread_below ⟨.root, 0, [], root⟩ [] single (List.forall_mem_nil _)

/-- Every node of a tree is at the end of a path. -/
theorem exists_follow {t : Trace.Tree Pending} (spread : t.Spread h) {q : Pending}
    (mem : q ∈ t.toList) : ∃ path, h.follow t.own.id path = some q.id := by
  induction t using Trace.Tree.induct with
  | step t ih =>
    rw [Trace.Tree.toList_eq] at mem
    rcases List.mem_cons.1 mem with rfl | mem
    · exact ⟨[], rfl⟩
    · obtain ⟨s, s_mem, mem⟩ := List.mem_flatMap.1 mem
      obtain ⟨i, place⟩ := List.mem_iff_getElem?.1 s_mem
      obtain ⟨path, leads⟩ := ih s s_mem (spread.of_mem_children s_mem) mem
      exact ⟨i :: path, by rw [follow_cons (spread.reference place), leads]⟩

/-- No throwable has two nodes in a tree of single paths. -/
theorem nodup_toList {t : Trace.Tree Pending} (spread : t.Spread h)
    (single : h.SinglePaths t.own.id) :
    (t.toList.map Pending.id).Nodup := by
  induction t using Trace.Tree.induct with
  | step t ih =>
    -- a node below the child at some place is at the end of a path that begins with that place
    have exists_path : ∀ {i : Nat} {s : Trace.Tree Pending}, t.children[i]? = some s →
        ∀ id ∈ s.toList.map Pending.id, ∃ path, h.follow t.own.id (i :: path) = some id := by
      intro i s place id mem
      obtain ⟨q, q_mem, rfl⟩ := List.mem_map.1 mem
      obtain ⟨path, leads⟩ :=
        exists_follow (spread.of_mem_children (List.mem_of_getElem? place)) q_mem
      exact ⟨path, by rw [follow_cons (spread.reference place), leads]⟩
    rw [Trace.Tree.toList_eq, List.map_cons, List.map_flatMap, List.nodup_cons, List.nodup_flatMap]
    refine ⟨fun mem => ?_, fun s mem => ?_, ?_⟩
    · obtain ⟨s, s_mem, mem⟩ := List.mem_flatMap.1 mem
      obtain ⟨i, place⟩ := List.mem_iff_getElem?.1 s_mem
      obtain ⟨path, leads⟩ := exists_path place _ mem
      exact List.cons_ne_nil _ _ (single _ [] _ leads rfl)
    · obtain ⟨i, place⟩ := List.mem_iff_getElem?.1 mem
      exact ih s mem (spread.of_mem_children mem) (single.of_place (spread.reference place))
    · rw [List.pairwise_iff_getElem]
      intro i j i_lt j_lt lt id mem mem'
      obtain ⟨path, leads⟩ := exists_path (List.getElem?_eq_getElem i_lt) id mem
      obtain ⟨path', leads'⟩ := exists_path (List.getElem?_eq_getElem j_lt) id mem'
      have same := (List.cons_eq_cons.1 (single _ _ _ leads leads')).1
      omega

end Heap

namespace Trace

/-- The entries of trees are those of their nodes, if no throwable has two nodes and none has been
met. -/
theorem entries_eq_flatMap {h : Heap} (met : List ThrowableId) (ts : List (Tree Pending))
    (spread : ∀ t ∈ ts, t.Spread h) (nodup : ((ts.flatMap Tree.toList).map Pending.id).Nodup)
    (fresh : ∀ p ∈ ts.flatMap Tree.toList, p.id ∉ met) :
    entries h met (ts.map Tree.own) = (ts.flatMap Tree.toList).flatMap (ownEntries h) := by
  generalize eq : ts.map Tree.own = ps
  induction met, ps using entries.induct h generalizing ts with
  | case1 met =>
    rw [List.map_eq_nil_iff.1 eq, entries]
    rfl
  -- no node of a tree has been met
  | case2 met p rest again ih =>
    obtain ⟨t, ts, rfl, rfl, rfl⟩ := List.map_eq_cons_iff.1 eq
    exact absurd again (fresh _ (List.mem_append_left _ t.own_mem_toList))
  | case3 met p rest new ih =>
    obtain ⟨t, ts, rfl, rfl, rfl⟩ := List.map_eq_cons_iff.1 eq
    have pending : (t.children ++ ts).map Tree.own = inside h t.own ++ ts.map Tree.own := by
      rw [List.map_append, (spread t List.mem_cons_self).map_own_children]
    have nodes : (t :: ts).flatMap Tree.toList
        = t.own :: (t.children ++ ts).flatMap Tree.toList := by
      rw [List.flatMap_cons, Tree.toList_eq, List.cons_append, List.flatMap_append]
    rw [nodes, List.map_cons, List.nodup_cons] at nodup
    rw [nodes, List.forall_mem_cons] at fresh
    rw [entries_of_not_mem new, nodes, List.flatMap_cons,
      ih (t.children ++ ts) ?_ nodup.2 ?_ pending]
    · intro s mem
      rcases List.mem_append.1 mem with mem | mem
      · exact (spread t List.mem_cons_self).of_mem_children mem
      · exact spread s (List.mem_cons_of_mem _ mem)
    -- the nodes below are other ones than the root
    · intro q mem old
      rcases List.mem_cons.1 old with same | old
      · exact nodup.1 (same ▸ List.mem_map_of_mem mem)
      · exact fresh.2 q mem old

end Trace

namespace Heap

open Trace

/-- The trace of a throwable with single paths lists the nodes of a tree. -/
theorem exists_trace_eq {h : Heap} {root : ThrowableId} (single : h.SinglePaths root) :
    ∃ t : Trace.Tree Pending, t.own = ⟨.root, 0, [], root⟩ ∧ t.Spread h ∧
      h.trace root = t.toList.flatMap (ownEntries h) := by
  obtain ⟨t, own, spread⟩ := exists_spread single
  have nodup := nodup_toList spread (by rwa [own])
  refine ⟨t, own, spread, ?_⟩
  have entries := entries_eq_flatMap [] [t] (by simpa) (by simpa) (by simp)
  rwa [List.map_singleton, own, List.flatMap_singleton] at entries

end Heap

end Logline
