import Logline.Layout.Line
import Logline.Proofs.Trace.Tree

/-! # The paths of a walk

A walk reaches a throwable from one that it met before, by one of its references. So every throwable
that is met, for the first time or again, stands at the end of a path from the first one, and the
entries that tell of it are indented by the suppressed references on that path.

* `Heap.suppressedSteps` — how many suppressed references a path takes
* `Trace.Visit` — a throwable that is met, with the path by which it is reached
* `Heap.walk` — the visits of a stack trace, in order
* `Heap.flatMap_entries_walk` — a stack trace is made of the entries of its visits
* `Heap.placed_of_mem_walk` — where the path of a visit leads, and how deep
* `Heap.exists_owner_of_walk` — the path of a visit goes on from that of a visit before
* `Heap.traceLines`, `Heap.traceText_eq` — the lines of a stack trace, by its visits -/

namespace Logline

namespace Heap

/-- How many suppressed references a path takes; a path names the place of the reference that it
takes at each throwable, and the suppressed ones come first. -/
def suppressedSteps (h : Heap) : ThrowableId → List Nat → Nat
  | _, [] => 0
  | id, i :: path =>
    (if i < (h.throwable id).suppressed.length then 1 else 0)
      + ((h.throwable id).references[i]?.map fun next => h.suppressedSteps next path).getD 0

/-- One more step on a path. -/
theorem suppressedSteps_concat {h : Heap} {root owner : ThrowableId} {path : List Nat}
    (leads : h.follow root path = some owner) (i : Nat) :
    h.suppressedSteps root (path ++ [i]) = h.suppressedSteps root path
      + if i < (h.throwable owner).suppressed.length then 1 else 0 := by
  induction path generalizing root with
  | nil =>
    obtain rfl : root = owner := Option.some.inj leads
    rw [List.nil_append, suppressedSteps, suppressedSteps]
    cases (h.throwable root).references[i]? <;> simp [suppressedSteps]
  | cons j path ih =>
    rw [follow] at leads
    obtain ⟨next, place, leads⟩ := Option.bind_eq_some_iff.1 leads
    rw [List.cons_append, suppressedSteps, suppressedSteps, place, Option.map_some, Option.map_some,
      Option.getD_some, Option.getD_some, ih leads]
    omega

end Heap

namespace Trace

/-- How far an entry is indented. -/
def Entry.depth : Entry → Nat
  | .caption depth _ _ | .frame depth _ _ _ | .elided depth _ | .circular depth _ _ => depth

/-- The line of an entry without its indentation. -/
def Entry.body (h : Heap) : Entry → String
  | .caption _ label id => label.text ++ h.caption id ++ "\n"
  | .frame _ _ _ f => "\tat " ++ f.text ++ "\n"
  | .elided _ count => "\t... " ++ toString count ++ " more\n"
  | .circular _ label id => label.text ++ circularMark (h.caption id) ++ "\n"

/-- A line is indented by the depth of its entry. -/
theorem Entry.line_eq (h : Heap) (e : Entry) : e.line h = tabs e.depth ++ e.body h := by
  cases e <;> simp [line, depth, body, String.append_assoc]

/-- The entries of a throwable itself are indented as much as it is. -/
theorem depth_of_mem_ownEntries {h : Heap} {p : Pending} {e : Entry} (mem : e ∈ ownEntries h p) :
    e.depth = p.depth := by
  simp only [ownEntries, List.cons_append, List.mem_cons, List.mem_append, List.mem_mapIdx] at mem
  rcases mem with rfl | ⟨i, -, rfl⟩ | mem
  · rfl
  · rfl
  · split at mem
    · cases mem
    · rw [List.mem_singleton.1 mem]
      rfl

/-- A throwable that a walk meets: the path by which it is reached from the first throwable, how it
is to be laid out, and whether it was met before. -/
structure Visit where
  path : List Nat
  pending : Pending
  again : Bool

/-- The entries of a visit: a mark of a circle where the throwable was met before. -/
def Visit.entries (h : Heap) (v : Visit) : List Entry :=
  if v.again then [.circular v.pending.depth v.pending.label v.pending.id]
  else ownEntries h v.pending

/-- The entries of a visit are indented as much as its throwable is. -/
theorem Visit.depth_of_mem_entries {h : Heap} {v : Visit} {e : Entry} (mem : e ∈ v.entries h) :
    e.depth = v.pending.depth := by
  rw [Visit.entries] at mem
  split at mem
  · rw [List.mem_singleton.1 mem]
    rfl
  · exact depth_of_mem_ownEntries mem

/-- What a throwable at the end of a path refers to, each at the end of a path that is one step
longer. -/
def below (h : Heap) (path : List Nat) (p : Pending) : List (List Nat × Pending) :=
  (inside h p).mapIdx fun i q => (path ++ [i], q)

/-- Paths apart, what is visited below a throwable is what is laid out inside it. -/
@[simp] theorem map_snd_below (h : Heap) (path : List Nat) (p : Pending) :
    (below h path p).map Prod.snd = inside h p := by
  simp [below, List.mapIdx_eq_zipIdx_map, Function.comp_def]

/-- The visits of pending throwables, in order, when some throwables have been met. -/
def visits (h : Heap) (met : List ThrowableId) : List (List Nat × Pending) → List Visit
  | [] => []
  | (path, p) :: rest =>
    if p.id ∈ met then ⟨path, p, true⟩ :: visits h met rest
    else ⟨path, p, false⟩ :: visits h (p.id :: met) (below h path p ++ rest)
termination_by pending => (unmet h met, pending.length)
decreasing_by
  · exact Prod.Lex.right _ (by simp)
  · rename_i fresh
    rcases Nat.lt_or_ge p.id h.throwables.length with present | missing
    · exact Prod.Lex.left _ _ (unmet_cons_lt present fresh)
    · rw [below, inside_eq_nil missing]
      rcases Nat.lt_or_eq_of_le (unmet_cons_le h met p.id) with less | same
      · exact Prod.Lex.left _ _ less
      · rw [same]
        exact Prod.Lex.right _ (by simp)

section Visits

variable {h : Heap} {root : ThrowableId} {met : List ThrowableId}

/-- The entries of pending throwables are those of their visits. -/
theorem flatMap_entries_visits (h : Heap) (met : List ThrowableId)
    (ps : List (List Nat × Pending)) :
    (visits h met ps).flatMap (Visit.entries h) = entries h met (ps.map Prod.snd) := by
  induction met, ps using visits.induct h with
  | case1 met => simp [visits, entries]
  | case2 met path p rest again ih =>
    rw [visits, if_pos again, List.map_cons, entries_of_mem again, List.flatMap_cons, ih]
    rfl
  | case3 met path p rest fresh ih =>
    rw [visits, if_neg fresh, List.map_cons, entries_of_not_mem fresh, List.flatMap_cons, ih,
      List.map_append, map_snd_below]
    rfl

/-- A pending throwable is **placed** by a path if the path leads to it, and it is as deep as there
are suppressed references on the path. -/
structure Placed (h : Heap) (root : ThrowableId) (path : List Nat) (p : Pending) : Prop where
  leads : h.follow root path = some p.id
  depth : p.depth = h.suppressedSteps root path

/-- What a throwable refers to stands at the places of its references; the suppressed ones are one
step deeper. -/
theorem getElem?_inside {p q : Pending} {i : Nat} (place : (inside h p)[i]? = some q) :
    (h.throwable p.id).references[i]? = some q.id ∧
      q.depth = p.depth + if i < (h.throwable p.id).suppressed.length then 1 else 0 := by
  refine ⟨by rw [← map_id_inside, List.getElem?_map, place]; rfl, ?_⟩
  rw [inside, List.getElem?_append, List.length_map] at place
  split at place
  · rename_i suppressed
    obtain ⟨id, -, rfl⟩ := List.mem_map.1 (List.mem_of_getElem? place)
    rw [if_pos suppressed]
  · rename_i not_suppressed
    obtain ⟨id, -, rfl⟩ := List.mem_map.1 (List.mem_of_getElem? place)
    rw [if_neg not_suppressed]
    rfl

/-- **One step.** What a placed throwable refers to is placed by paths that are one step longer. -/
theorem Placed.below {path : List Nat} {p : Pending} (placed : Placed h root path p)
    {q : List Nat × Pending} (mem : q ∈ below h path p) : Placed h root q.1 q.2 := by
  rw [Trace.below, List.mem_mapIdx] at mem
  obtain ⟨i, bound, rfl⟩ := mem
  obtain ⟨refers, depth⟩ := getElem?_inside (List.getElem?_eq_getElem bound)
  refine ⟨?_, ?_⟩
  · rw [Heap.follow_append, placed.leads, Option.bind_some]
    exact Heap.follow_cons refers []
  · rw [depth, Heap.suppressedSteps_concat placed.leads, placed.depth]

/-- **The whole walk.** All visits are placed by their paths. -/
theorem placed_of_mem_visits (h : Heap) (root : ThrowableId) (met : List ThrowableId)
    (ps : List (List Nat × Pending)) (placed : ∀ p ∈ ps, Placed h root p.1 p.2) :
    ∀ v ∈ visits h met ps, Placed h root v.path v.pending := by
  induction met, ps using visits.induct h with
  | case1 met => simp [visits]
  | case2 met path p rest again ih =>
    obtain ⟨first, others⟩ := List.forall_mem_cons.1 placed
    rw [visits, if_pos again]
    exact List.forall_mem_cons.2 ⟨first, ih others⟩
  | case3 met path p rest fresh ih =>
    obtain ⟨first, others⟩ := List.forall_mem_cons.1 placed
    rw [visits, if_neg fresh]
    refine List.forall_mem_cons.2 ⟨first, ih ?_⟩
    exact List.forall_mem_append.2 ⟨fun q mem => first.below mem, others⟩

/-- A visit was pending at the start, or its path goes on from that of a visit before it that met
its throwable for the first time. -/
theorem exists_owner_of_visits (h : Heap) (met : List ThrowableId) (ps : List (List Nat × Pending))
    {before after : List Visit} {v : Visit} (split : visits h met ps = before ++ v :: after) :
    (v.path, v.pending) ∈ ps ∨ ∃ owner ∈ before, owner.again = false ∧
      (v.path, v.pending) ∈ below h owner.path owner.pending := by
  induction met, ps using visits.induct h generalizing before with
  | case1 met => simp [visits] at split
  | case2 met path p rest again ih =>
    rw [visits, if_pos again] at split
    rcases List.cons_eq_append_iff.1 split with ⟨rfl, first⟩ | ⟨before, rfl, behind⟩
    · cases first
      exact Or.inl List.mem_cons_self
    · rcases ih behind with pending | ⟨owner, mem, owns⟩
      · exact Or.inl (List.mem_cons_of_mem _ pending)
      · exact Or.inr ⟨owner, List.mem_cons_of_mem _ mem, owns⟩
  | case3 met path p rest fresh ih =>
    rw [visits, if_neg fresh] at split
    rcases List.cons_eq_append_iff.1 split with ⟨rfl, first⟩ | ⟨before, rfl, behind⟩
    · cases first
      exact Or.inl List.mem_cons_self
    · rcases ih behind with pending | ⟨owner, mem, owns⟩
      · rcases List.mem_append.1 pending with refers | pending
        · exact Or.inr ⟨_, List.mem_cons_self, rfl, refers⟩
        · exact Or.inl (List.mem_cons_of_mem _ pending)
      · exact Or.inr ⟨owner, List.mem_cons_of_mem _ mem, owns⟩

end Visits

end Trace

namespace Heap

open Trace

/-- The visits of the stack trace of a throwable. -/
def walk (h : Heap) (root : ThrowableId) : List Visit := visits h [] [([], ⟨.root, 0, [], root⟩)]

/-- A stack trace is made of the entries of its visits. -/
theorem flatMap_entries_walk (h : Heap) (root : ThrowableId) :
    (h.walk root).flatMap (Visit.entries h) = h.trace root :=
  flatMap_entries_visits h [] _

/-- The path of a visit leads to its throwable, and its entries are as deep as there are suppressed
references on the path. -/
theorem placed_of_mem_walk {h : Heap} {root : ThrowableId} {v : Visit} (mem : v ∈ h.walk root) :
    Placed h root v.path v.pending := by
  refine placed_of_mem_visits h root [] _ ?_ v mem
  exact List.forall_mem_singleton.2 ⟨rfl, rfl⟩

/-- The first visit is that of the first throwable, with the empty path. The path of every other
visit goes on from that of a visit before it, which met its throwable for the first time. -/
theorem exists_owner_of_walk {h : Heap} {root : ThrowableId} {before after : List Visit} {v : Visit}
    (split : h.walk root = before ++ v :: after) :
    before = [] ∧ v.path = [] ∨
      ∃ owner ∈ before, owner.again = false ∧ ∃ i, v.path = owner.path ++ [i] := by
  have owned : ∀ {owner : Visit}, (v.path, v.pending) ∈ below h owner.path owner.pending →
      ∃ i, v.path = owner.path ++ [i] := by
    intro owner refers
    rw [below, List.mem_mapIdx] at refers
    obtain ⟨i, bound, eq⟩ := refers
    exact ⟨i, (congrArg Prod.fst eq).symm⟩
  rw [walk, visits, if_neg List.not_mem_nil, List.append_nil] at split
  rcases List.cons_eq_append_iff.1 split with ⟨rfl, first⟩ | ⟨before, rfl, behind⟩
  · cases first
    exact Or.inl ⟨rfl, rfl⟩
  · refine Or.inr ?_
    rcases exists_owner_of_visits h _ _ behind with refers | ⟨owner, mem, fresh, refers⟩
    · exact ⟨_, List.mem_cons_self, rfl, owned refers⟩
    · exact ⟨owner, List.mem_cons_of_mem _ mem, fresh, owned refers⟩

/-- The lines of a stack trace: every line that tells of a visit begins with a tab for each
suppressed reference on the path of the visit. -/
def traceLines (h : Heap) (root : ThrowableId) : List String :=
  (h.walk root).flatMap fun v =>
    (v.entries h).map fun e => tabs (h.suppressedSteps root v.path) ++ e.body h

/-- The text of a trace is its lines one behind the other. -/
theorem traceText_eq (h : Heap) (root : ThrowableId) :
    Layout.Line.traceText h root = String.join (h.traceLines root) := by
  rw [Layout.Line.traceText, ← flatMap_entries_walk, List.map_flatMap, traceLines]
  congr 1
  refine List.flatMap_congr fun v mem => List.map_congr_left fun e mem' => ?_
  rw [Entry.line_eq, Visit.depth_of_mem_entries mem', (placed_of_mem_walk mem).depth]

end Heap

end Logline
