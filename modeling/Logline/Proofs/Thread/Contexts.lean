import Logline.Proofs.Charset.ByteOrder
import Logline.Thread
import Mathlib.Data.List.Induction

/-! # Diagnostic contexts

A context is changed by **calls**, which put a text under a key, take a key away, or take all keys
away. Whatever the calls were, its keys are in increasing order, and under a key stands what was put
there last, if nothing took it away since. Calls that other threads make are of no account.

* `Context.Call`, `Context.after` — calls, and the context that they leave
* `Context.Sorted` — contexts in order
* `Context.Live` — what was put under a key last
* `Context.mem_after_iff` — a context holds what is live
* `Diagnostics.own`, `Diagnostics.after_eq` — the contexts of threads that make calls -/

namespace Logline

namespace Context

/-! ## Calls -/

/-- A call that changes a context. -/
inductive Call where
  /-- It puts a text under a key. -/
  | insert (key value : String)
  /-- It takes a key away. -/
  | remove (key : String)
  /-- It takes all keys away. -/
  | clear
  deriving DecidableEq, Repr

namespace Call

/-- A context after a call. -/
def apply : Call → Context → Context
  | .insert key value, c => Context.insert key value c
  | .remove key, c => Context.erase key c
  | .clear, _ => []

/-- Whether a call is about a key. -/
def about (key : String) : Call → Bool
  | .insert k _ | .remove k => k == key
  | .clear => true

end Call

/-- The context that calls leave. -/
def after (calls : List Call) : Context := calls.foldl (fun c call => call.apply c) []

/-- The calls are made one after the other. -/
theorem after_concat (calls : List Call) (call : Call) :
    after (calls ++ [call]) = call.apply (after calls) := by
  rw [after, List.foldl_append]
  rfl

/-- A text is **live** under a key after calls if the last call about the key put it there. -/
def Live (calls : List Call) (key value : String) : Prop :=
  ∃ before later, calls = before ++ .insert key value :: later ∧
    ∀ call ∈ later, call.about key = false

/-- Before any call no binding is live. -/
theorem not_live_nil (key value : String) : ¬ Live [] key value := by
  rintro ⟨before, later, split, -⟩
  simp at split

/-- One more call either makes a text live or leaves it so. -/
theorem live_concat_iff {calls : List Call} {call : Call} {key value : String} :
    Live (calls ++ [call]) key value
      ↔ call = .insert key value ∨ call.about key = false ∧ Live calls key value := by
  constructor
  · rintro ⟨before, later, split, silent⟩
    -- the last of all calls put the text there, or is one of those behind that call
    rcases List.eq_nil_or_concat later with rfl | ⟨later, last, rfl⟩
    · have same := List.append_inj_right' split rfl
      exact .inl (List.singleton_inj.1 same)
    · rw [List.concat_eq_append] at split silent
      rw [← List.cons_append, ← List.append_assoc] at split
      obtain ⟨rfl, same⟩ := List.append_inj' split rfl
      obtain rfl : call = last := List.singleton_inj.1 same
      obtain ⟨silent, quiet⟩ := List.forall_mem_append.1 silent
      exact .inr ⟨quiet call List.mem_cons_self, before, later, rfl, silent⟩
  · rintro (rfl | ⟨quiet, before, later, rfl, silent⟩)
    · exact ⟨calls, [], rfl, fun c mem => absurd mem List.not_mem_nil⟩
    · exact ⟨before, later ++ [call], by simp,
        List.forall_mem_append.2 ⟨silent, List.forall_mem_singleton.2 quiet⟩⟩

/-! ## Order -/

/-- A context is **sorted** if its keys increase, so that no key is in it twice. -/
def Sorted (c : Context) : Prop := c.Pairwise fun a b => a.1 < b.1

/-- A key with a new text is in a sorted context, and all other keys are as before. -/
theorem mem_insert_iff {c : Context} (sorted : c.Sorted) (key value : String)
    {e : String × String} : e ∈ insert key value c ↔ e = (key, value) ∨ e.1 ≠ key ∧ e ∈ c := by
  induction c with
  | nil => simp [insert]
  | cons first rest ih =>
    obtain ⟨k, v⟩ := first
    obtain ⟨least, sorted⟩ := List.pairwise_cons.1 sorted
    rw [insert]
    split_ifs with less same
    · -- the key stands nowhere in the context
      have absent : ∀ x ∈ (k, v) :: rest, x.1 ≠ key := by
        intro x mem
        rcases List.mem_cons.1 mem with rfl | mem
        · exact ne_of_gt less
        · exact ne_of_gt (lt_trans less (least x mem))
      rw [List.mem_cons]
      exact or_congr_right ⟨fun mem => ⟨absent e mem, mem⟩, And.right⟩
    · -- it stands at the head, and so nowhere else
      subst same
      have others : ∀ x ∈ rest, x.1 ≠ key := fun x mem => ne_of_gt (least x mem)
      rw [List.mem_cons, List.mem_cons]
      refine or_congr_right ⟨fun mem => ⟨others e mem, .inr mem⟩, ?_⟩
      rintro ⟨other, rfl | mem⟩
      · exact absurd rfl other
      · exact mem
    · -- it belongs behind the head, which stays
      have kept : e = (k, v) → e.1 ≠ key := by
        rintro rfl
        exact Ne.symm same
      rw [List.mem_cons, ih sorted, List.mem_cons]
      tauto

/-- Erasing a key takes away its bindings and no others. -/
theorem mem_erase_iff {c : Context} (key : String) {e : String × String} :
    e ∈ erase key c ↔ e.1 ≠ key ∧ e ∈ c := by
  rw [erase, List.mem_filter, bne_iff_ne, and_comm]

/-- A context stays sorted with one more binding. -/
theorem sorted_insert {c : Context} (sorted : c.Sorted) (key value : String) :
    (insert key value c).Sorted := by
  induction c with
  | nil => exact List.pairwise_singleton _ _
  | cons first rest ih =>
    obtain ⟨k, v⟩ := first
    obtain ⟨least, sorted'⟩ := List.pairwise_cons.1 sorted
    rw [insert]
    -- in front of the first binding, in its place, or behind it
    split_ifs with less same
    · refine List.pairwise_cons.2 ⟨fun x mem => ?_, sorted⟩
      rcases List.mem_cons.1 mem with rfl | mem
      · exact less
      · exact lt_trans less (least x mem)
    · subst same
      exact List.pairwise_cons.2 ⟨least, sorted'⟩
    · refine List.pairwise_cons.2 ⟨fun x mem => ?_, ih sorted'⟩
      rcases (mem_insert_iff sorted' key value).1 mem with rfl | ⟨-, mem⟩
      · exact lt_of_le_of_ne (not_lt.1 less) (Ne.symm same)
      · exact least x mem

/-- **One call.** A sorted context stays sorted. -/
theorem sorted_apply {c : Context} (sorted : c.Sorted) (call : Call) : (call.apply c).Sorted := by
  cases call with
  | insert key value => exact sorted_insert sorted key value
  | remove key => exact sorted.sublist List.filter_sublist
  | clear => exact List.Pairwise.nil

/-- **One call.** What is in a sorted context is what the call put there, and what it is not
about. -/
theorem mem_apply_iff {c : Context} (sorted : c.Sorted) (call : Call) {key value : String} :
    (key, value) ∈ call.apply c
      ↔ call = .insert key value ∨ call.about key = false ∧ (key, value) ∈ c := by
  cases call with
  | insert k v =>
    rw [Call.apply, mem_insert_iff sorted, Call.about, beq_eq_false_iff_ne, Prod.mk.injEq,
      Call.insert.injEq, eq_comm (a := key), eq_comm (a := value), ne_comm]
  | remove k =>
    rw [Call.apply, mem_erase_iff, Call.about, beq_eq_false_iff_ne, ne_comm]
    simp
  | clear => simp [Call.apply, Call.about]

/-- **Any calls.** The context that they leave is sorted. -/
theorem sorted_after (calls : List Call) : (after calls).Sorted := by
  induction calls using List.reverseRecOn with
  | nil => exact List.Pairwise.nil
  | append_singleton calls call ih =>
    rw [after_concat]
    exact sorted_apply ih call

/-- **Any calls.** The context that they leave holds what is live. -/
theorem mem_after_iff (calls : List Call) {key value : String} :
    (key, value) ∈ after calls ↔ Live calls key value := by
  induction calls using List.reverseRecOn with
  | nil => exact iff_of_false List.not_mem_nil (not_live_nil key value)
  | append_singleton calls call ih =>
    rw [after_concat, mem_apply_iff (sorted_after calls), live_concat_iff, ih]

/-- A context is empty if nothing is live. -/
theorem after_eq_nil_iff (calls : List Call) :
    after calls = [] ↔ ∀ key value, ¬ Live calls key value := by
  rw [List.eq_nil_iff_forall_not_mem, Prod.forall]
  exact forall_congr' fun key => forall_congr' fun value => not_congr (mem_after_iff calls)

/-- The keys of a sorted context increase byte by byte, too. -/
theorem Sorted.pairwise_bytes {c : Context} (sorted : c.Sorted) :
    (c.map Prod.fst).Pairwise fun k l => Charset.encode .utf8 k < Charset.encode .utf8 l :=
  List.pairwise_map.2 (sorted.imp Charset.encode_utf8_lt)

end Context

/-! ## Threads -/

namespace Diagnostics

/-- The contexts of all threads after calls that threads made. -/
def after (calls : List (Thread × Context.Call)) : Diagnostics :=
  calls.foldl (fun d c => d.update c.1 c.2.apply) empty

/-- The calls that one thread made. -/
def own (t : Thread) (calls : List (Thread × Context.Call)) : List Context.Call :=
  calls.filterMap fun c => if c.1.number = t.number then some c.2 else none

/-- **Threads do not disturb each other.** The context of a thread is what its own calls leave. -/
theorem after_eq (calls : List (Thread × Context.Call)) (t : Thread) :
    after calls t.number = Context.after (own t calls) := by
  induction calls using List.reverseRecOn with
  | nil => rfl
  | append_singleton calls c ih =>
    obtain ⟨u, call⟩ := c
    have last : after (calls ++ [(u, call)]) = (after calls).update u call.apply := by
      rw [after, List.foldl_append]
      rfl
    rw [last, own, List.filterMap_append]
    by_cases same : t.number = u.number
    · rw [same, update_same, ← same, ih, List.filterMap_cons, if_pos same.symm,
        List.filterMap_nil, Context.after_concat]
      rfl
    · rw [update_of_ne _ _ same, ih, List.filterMap_cons, if_neg (Ne.symm same),
        List.filterMap_nil, List.append_nil]
      rfl

end Diagnostics

end Logline
