import Logline.Proofs.Trace.CommonEnd
import Logline.Proofs.Trace.Walk
import Mathlib.Data.List.Count
import Mathlib.Data.List.Nodup

/-! # Throwables that a trace tells of without captions

Where only frames and circles of a stack trace are shown, a throwable is told of by its first frame
or where it is met again. One that is met once, and whose frames are all counted instead of listed,
is not told of at all.

* `Trace.Entry.Tells` — the entries that tell of a throwable
* `Heap.Silent` — a throwable that is met once and has no frames of its own
* `Heap.exists_tells_iff` — a trace tells of all other throwables
* `Heap.withMessage` — a heap in which a throwable has another message -/

namespace Logline

namespace Trace

/-- An entry **tells** of a throwable if it is its first frame or meets it again. -/
def Entry.Tells (id : ThrowableId) : Entry → Prop
  | .frame _ owner index _ => owner = id ∧ index = 0
  | .circular _ _ again => again = id
  | .caption _ _ _ | .elided _ _ => False

variable {h : Heap} {id : ThrowableId}

/-- The own entries of a throwable tell of it if not all of its frames are counted. -/
theorem exists_tells_ownEntries_iff {p : Pending} :
    (∃ e ∈ ownEntries h p, e.Tells id) ↔
      p.id = id ∧
        sharedEnd (h.throwable p.id).frames p.enclosing < (h.throwable p.id).frames.length := by
  constructor
  · rintro ⟨e, mem, tells⟩
    simp only [ownEntries, List.cons_append, List.mem_cons, List.mem_append,
      List.mem_mapIdx] at mem
    rcases mem with rfl | ⟨i, bound, rfl⟩ | mem
    · exact tells.elim
    · refine ⟨tells.1, ?_⟩
      rw [List.length_take] at bound
      omega
    · split at mem
      · cases mem
      · rw [List.mem_singleton.1 mem] at tells
        exact tells.elim
  · rintro ⟨rfl, some_shown⟩
    -- some frames are shown, and so is the first one
    have bound : 0 < ((h.throwable p.id).frames.take ((h.throwable p.id).frames.length
        - sharedEnd (h.throwable p.id).frames p.enclosing)).length := by
      rw [List.length_take]
      omega
    have first : ∃ f, Entry.frame p.depth p.id 0 f ∈ ownEntries h p := by
      simp only [ownEntries, List.cons_append, List.mem_cons, List.mem_append, List.mem_mapIdx]
      exact ⟨_, Or.inr (Or.inl ⟨0, bound, rfl⟩)⟩
    obtain ⟨f, mem⟩ := first
    exact ⟨_, mem, rfl, rfl⟩

/-- The throwables that are selected from the entries of one kind. -/
theorem mem_filterMap_of_kind {es : List Entry} {f : Entry → Option ThrowableId}
    {kind : Nat → Label → Entry}
    (selects : ∀ e, f e = some id ↔ ∃ depth label, e = kind depth label) :
    id ∈ es.filterMap f ↔ ∃ depth label, kind depth label ∈ es := by
  simp only [List.mem_filterMap, selects]
  constructor
  · rintro ⟨e, mem, depth, label, rfl⟩
    exact ⟨depth, label, mem⟩
  · rintro ⟨depth, label, mem⟩
    exact ⟨_, mem, depth, label, rfl⟩

/-- A throwable has a caption if there is an entry of that kind. -/
theorem mem_captions {es : List Entry} :
    id ∈ captions es ↔ ∃ depth label, Entry.caption depth label id ∈ es :=
  mem_filterMap_of_kind fun e => by cases e <;> simp [Entry.captioned?]

/-- A throwable is met again if there is an entry of that kind. -/
theorem mem_circulars {es : List Entry} :
    id ∈ circulars es ↔ ∃ depth label, Entry.circular depth label id ∈ es :=
  mem_filterMap_of_kind fun e => by cases e <;> simp [Entry.circular?]

/-- An entry meets a throwable again or is one of the own entries of a throwable, which are all
there; that throwable was pending at the start or is inside one with a caption. -/
theorem circular_or_own_of_mem (met : List ThrowableId) (ps : List Pending) {e : Entry}
    (mem : e ∈ entries h met ps) :
    (∃ depth label again, e = .circular depth label again) ∨
    ∃ p, e ∈ ownEntries h p ∧ ownEntries h p ⊆ entries h met ps ∧
      (p ∈ ps ∨ ∃ owner, owner.id ∈ captions (entries h met ps) ∧ p ∈ inside h owner) := by
  induction met, ps using entries.induct h with
  | case1 met => simp [entries] at mem
  | case2 met p rest again ih =>
    rw [captions_entries_of_mem again]
    rw [entries_of_mem again] at mem ⊢
    rcases List.mem_cons.1 mem with rfl | mem
    · exact Or.inl ⟨_, _, _, rfl⟩
    · refine (ih mem).imp_right ?_
      rintro ⟨q, own, all, place⟩
      exact ⟨q, own, List.subset_cons_of_subset _ all, place.imp_left (List.mem_cons_of_mem _)⟩
  | case3 met p rest fresh ih =>
    rw [captions_entries_of_not_mem fresh]
    rw [entries_of_not_mem fresh] at mem ⊢
    rcases List.mem_append.1 mem with own | mem
    · exact Or.inr ⟨p, own, List.subset_append_left _ _, Or.inl List.mem_cons_self⟩
    · refine (ih mem).imp_right ?_
      rintro ⟨q, own, all, place⟩
      refine ⟨q, own, List.subset_append_of_subset_right _ all, ?_⟩
      -- what was pending behind `p` was pending before or is inside `p`, which has its caption now
      rcases place with pending | ⟨owner, caption, reference⟩
      · rcases List.mem_append.1 pending with reference | pending
        · exact Or.inr ⟨p, List.mem_cons_self, reference⟩
        · exact Or.inl (List.mem_cons_of_mem _ pending)
      · exact Or.inr ⟨owner, List.mem_cons_of_mem _ caption, reference⟩

end Trace

namespace Heap

open Trace

variable {h : Heap} {root id : ThrowableId}

/-! ## References -/

/-- A reference of `owner` is the **only reference** to a throwable among those of all throwables
that are reached. -/
structure OnlyReference (h : Heap) (root owner id : ThrowableId) : Prop where
  inner : id ≠ root
  reached : h.Reaches root owner
  once : (h.throwable owner).references.count id = 1
  only : ∀ a, h.Reaches root a → h.Refers a id → a = owner

/-- All references of the throwables of a trace. -/
def allReferences (h : Heap) (root : ThrowableId) : List ThrowableId :=
  (captions (h.trace root)).flatMap fun a => (h.throwable a).references

/-- A throwable is met again by every reference but the one that led to its caption. -/
theorem count_circulars (reached : h.Reaches root id) (inner : id ≠ root) :
    (circulars (h.trace root)).count id + 1 = (h.allReferences root).count id := by
  -- captions and circles together are the root and all references
  have walked : (captions (h.trace root) ++ circulars (h.trace root)).Perm
      (root :: h.allReferences root) := by
    refine (map_snd_marks_perm _).symm.trans ?_
    have followed := (marks_entries_perm h [] [⟨.root, 0, [], root⟩]).map Prod.snd
    rwa [List.map_append, List.map_flatMap, funext h.map_snd_labelled] at followed
  have caption : (captions (h.trace root)).count id = 1 :=
    List.count_eq_one_of_mem (captions_entries_fresh h [] _).1 (mem_captions_trace.2 reached)
  have count := walked.count_eq id
  rw [List.count_append, caption, List.count_cons_of_ne inner.symm] at count
  omega

/-- Lists have a member once between them if one of them has it once and no other one has it. -/
theorem count_flatMap_eq_one_iff {l : List ThrowableId} (nodup : l.Nodup)
    (f : ThrowableId → List ThrowableId) (b : ThrowableId) :
    (l.flatMap f).count b = 1 ↔
      ∃ a ∈ l, (f a).count b = 1 ∧ ∀ a' ∈ l, b ∈ f a' → a' = a := by
  -- what one element contributes, and what the others do
  have split : ∀ a ∈ l,
      (l.flatMap f).count b = (f a).count b + ((l.erase a).flatMap f).count b := by
    intro a mem
    rw [((List.perm_cons_erase mem).flatMap_right f).count_eq, List.flatMap_cons,
      List.count_append]
  constructor
  · intro once
    have some_has : b ∈ l.flatMap f := by
      rw [← List.count_pos_iff, once]
      exact Nat.zero_lt_one
    obtain ⟨a, mem, has⟩ := List.mem_flatMap.1 some_has
    have here : 0 < (f a).count b := List.count_pos_iff.2 has
    rw [split a mem] at once
    have none_other : b ∉ (l.erase a).flatMap f := List.count_eq_zero.1 (by omega)
    refine ⟨a, mem, by omega, fun a' place has => ?_⟩
    by_contra other
    exact none_other (List.mem_flatMap.2 ⟨a', (List.mem_erase_of_ne other).2 place, has⟩)
  · rintro ⟨a, mem, once, only⟩
    have none_other : b ∉ (l.erase a).flatMap f := by
      intro some_has
      obtain ⟨a', place, has⟩ := List.mem_flatMap.1 some_has
      obtain ⟨other, place⟩ := nodup.mem_erase_iff.1 place
      exact other (only a' place has)
    rw [split a mem, once, List.count_eq_zero.2 none_other]

/-- A throwable other than the root has only one reference to it if it is listed once among all
references. -/
theorem exists_onlyReference_iff (inner : id ≠ root) :
    (∃ owner, h.OnlyReference root owner id) ↔ (h.allReferences root).count id = 1 := by
  have nodup : (captions (h.trace root)).Nodup := (captions_entries_fresh h [] _).1
  rw [allReferences, count_flatMap_eq_one_iff nodup]
  constructor
  · rintro ⟨owner, -, reached, once, only⟩
    exact ⟨owner, mem_captions_trace.2 reached, once,
      fun a mem refers => only a (mem_captions_trace.1 mem) refers⟩
  · rintro ⟨owner, mem, once, only⟩
    exact ⟨owner, inner, mem_captions_trace.1 mem, once,
      fun a reached refers => only a (mem_captions_trace.2 reached) refers⟩

/-! ## Silent throwables -/

/-- A throwable is **silent** if a single reference leads to it and all its frames are at the end of
the trace of the throwable that refers to it too; in particular if it has no frames. -/
def Silent (h : Heap) (root id : ThrowableId) : Prop :=
  ∃ owner, h.OnlyReference root owner id ∧
    CommonEnd (h.throwable id).frames (h.throwable owner).frames (h.throwable id).frames.length

/-- An own entry of an inner throwable stands inside a throwable that refers to it. -/
theorem exists_owner_of_mem {p : Pending} (inner : p.id ≠ root)
    (place : p ∈ [(⟨.root, 0, [], root⟩ : Pending)] ∨
      ∃ owner, owner.id ∈ captions (h.trace root) ∧ p ∈ inside h owner) :
    ∃ owner, h.Reaches root owner ∧ h.Refers owner p.id ∧
      p.enclosing = (h.throwable owner).frames := by
  rcases place with pending | ⟨owner, caption, reference⟩
  · rw [List.mem_singleton.1 pending] at inner
    exact absurd rfl inner
  · refine ⟨owner.id, mem_captions_trace.1 caption, ?_, enclosing_of_mem_inside reference⟩
    rw [Refers, ← map_id_inside]
    exact List.mem_map_of_mem reference

/-- A throwable that is reached has its own entries in the trace, inside one that refers to it. -/
theorem exists_ownEntries_subset (reached : h.Reaches root id) (inner : id ≠ root) :
    ∃ p, p.id = id ∧ ownEntries h p ⊆ h.trace root ∧
      ∃ owner, h.Reaches root owner ∧ h.Refers owner id ∧
        p.enclosing = (h.throwable owner).frames := by
  obtain ⟨depth, label, mem⟩ := mem_captions.1 (mem_captions_trace.2 reached)
  rcases circular_or_own_of_mem [] _ mem with ⟨_, _, _, eq⟩ | ⟨p, own, all, place⟩
  · cases eq
  · have own_caption : id ∈ captions (ownEntries h p) := mem_captions.2 ⟨depth, label, own⟩
    rw [captions_ownEntries, List.mem_singleton] at own_caption
    subst own_caption
    exact ⟨p, rfl, all, exists_owner_of_mem inner place⟩

/-- A trace tells of the throwables that it reaches, apart from the silent ones, which it does not
tell of. -/
theorem exists_tells_iff (reached : h.Reaches root id) (inner : id ≠ root) :
    (∃ e ∈ h.trace root, e.Tells id) ↔ ¬ h.Silent root id := by
  have count := count_circulars reached inner
  constructor
  · rintro ⟨e, mem, tells⟩ ⟨owner, only, common⟩
    -- it is met once only, so that it is its first frame that tells of it
    rw [(exists_onlyReference_iff inner).1 ⟨owner, only⟩] at count
    have never_again : id ∉ circulars (h.trace root) := List.count_eq_zero.1 (by omega)
    rcases circular_or_own_of_mem [] _ mem with ⟨depth, label, again, rfl⟩ | ⟨p, own, -, place⟩
    · cases tells
      exact never_again (mem_circulars.2 ⟨depth, label, mem⟩)
    · obtain ⟨rfl, some_shown⟩ := exists_tells_ownEntries_iff.1 ⟨e, own, tells⟩
      obtain ⟨owner', reached', refers, enclosing⟩ := exists_owner_of_mem inner place
      rw [enclosing, only.only owner' reached' refers,
        sharedEnd_eq_length_iff.2 common] at some_shown
      exact Nat.lt_irrefl _ some_shown
  · intro not_silent
    by_contra untold
    -- it is never met again, so that one reference leads to it; and no frame of it is shown
    have never_again : (circulars (h.trace root)).count id = 0 := by
      refine List.count_eq_zero.2 fun mem => ?_
      obtain ⟨depth, label, mem⟩ := mem_circulars.1 mem
      exact untold ⟨_, mem, rfl⟩
    rw [never_again] at count
    obtain ⟨owner, only⟩ := (exists_onlyReference_iff inner).2 count.symm
    obtain ⟨p, rfl, all, owner', reached', refers, enclosing⟩ :=
      exists_ownEntries_subset reached inner
    refine not_silent ⟨owner, only, ?_⟩
    rw [← sharedEnd_eq_length_iff, ← only.only owner' reached' refers, ← enclosing]
    by_contra less
    have some_shown := Nat.lt_of_le_of_ne (sharedEnd_le_length _ _) less
    obtain ⟨e, own, tells⟩ := exists_tells_ownEntries_iff.2 ⟨rfl, some_shown⟩
    exact untold ⟨e, all own, tells⟩

end Heap

/-! ## Other messages -/

/-- A throwable without its message. -/
def Throwable.wordless (t : Throwable) : Throwable := { t with message := none }

/-- Throwables are the same without their messages if all else is. -/
theorem Throwable.wordless_eq_wordless {t u : Throwable} :
    t.wordless = u.wordless ↔
      t.className = u.className ∧ t.frames = u.frames ∧ t.cause = u.cause ∧
        t.suppressed = u.suppressed := by
  rw [wordless, wordless, mk.injEq]
  simp

/-- Entries are the same for throwables that are the same without their messages. -/
theorem Trace.entries_congr {h h' : Heap}
    (same : ∀ k, (h.throwable k).wordless = (h'.throwable k).wordless)
    (met : List ThrowableId) (ps : List Pending) : entries h met ps = entries h' met ps := by
  simp only [Throwable.wordless_eq_wordless] at same
  induction met, ps using entries.induct h with
  | case1 met => rw [entries, entries]
  | case2 met p rest again ih => rw [entries_of_mem again, entries_of_mem again, ih]
  | case3 met p rest fresh ih =>
    obtain ⟨-, frames, cause, suppressed⟩ := same p.id
    have own : ownEntries h p = ownEntries h' p := by rw [ownEntries, ownEntries, frames]
    have references : inside h p = inside h' p := by
      simp only [inside, frames, suppressed, cause]
    rw [entries_of_not_mem fresh, entries_of_not_mem fresh, own, ih, references]

namespace Heap

/-- A heap in which a throwable has another message, or none. -/
def withMessage (h : Heap) (id : ThrowableId) (message : Option String) : Heap :=
  { h with throwables := h.throwables.modify id ({ · with message }) }

/-- A new message for one throwable leaves the others as they are. -/
theorem throwable_withMessage_of_ne {h : Heap} {id k : ThrowableId} (other : k ≠ id)
    (message : Option String) : (h.withMessage id message).throwable k = h.throwable k := by
  simp only [throwable, withMessage, List.getElem?_modify_ne _ _ other.symm]

/-- A new message changes nothing but messages. -/
theorem wordless_throwable_withMessage (h : Heap) (id : ThrowableId) (message : Option String)
    (k : ThrowableId) :
    ((h.withMessage id message).throwable k).wordless = (h.throwable k).wordless := by
  by_cases same : k = id
  · subst same
    simp only [throwable, withMessage, List.getElem?_modify_eq]
    cases h.throwables[k]? <;> rfl
  · rw [throwable_withMessage_of_ne same]

/-- A trace does not depend on messages. -/
theorem trace_withMessage (h : Heap) (id : ThrowableId) (message : Option String)
    (root : ThrowableId) : (h.withMessage id message).trace root = h.trace root :=
  Trace.entries_congr (h.wordless_throwable_withMessage id message) [] _

end Heap

end Logline
