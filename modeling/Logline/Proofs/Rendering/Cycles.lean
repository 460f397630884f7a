import Logline.Proofs.Rendering.Unfolding
import Mathlib.Logic.Relation

/-! # Cycles of object arrays

Object arrays may hold one another in circles and may be shared. In the unfolding of a value an
array is a marker exactly where it stands inside itself, so a heap without circles has no markers,
and brackets are nested no deeper than there are arrays, but for the brackets of a marker.

* `Heap.Acyclic` — no array is reached from itself
* `Unfolding.Occurs` — the places of an unfolding, with the arrays around them
* `Unfolding.nesting` — how deep the brackets of arrays are nested
* `Rendering.append_unfolds` — a value is rendered along its paths -/

namespace Logline

/-! ## Arrays that hold arrays -/

namespace Heap

/-- An array **holds** another one if one of its elements is or supplies it. -/
def Holds (h : Heap) (a b : ArrayId) : Prop := ∃ v ∈ h.elements a, v.array? = some b

/-- A heap is **acyclic** if no array is reached from itself. -/
def Acyclic (h : Heap) : Prop := ∀ id, ¬ Relation.TransGen h.Holds id id

/-- A heap is acyclic if its arrays hold only arrays that were made after them. -/
theorem acyclic_of_lt {h : Heap} (later : ∀ a b, h.Holds a b → a < b) : h.Acyclic := by
  have lt : ∀ a b, Relation.TransGen h.Holds a b → a < b := by
    intro a b reached
    induction reached with
    | single holds => exact later _ _ holds
    | tail _ holds ih => exact Nat.lt_trans ih (later _ _ holds)
  intro id reached
  exact Nat.lt_irrefl id (lt id id reached)

end Heap

/-- A value **reaches** the array that it is or supplies and all that this one reaches. -/
def Value.Reaches (h : Heap) (v : Value) (id : ArrayId) : Prop :=
  ∃ first, v.array? = some first ∧ Relation.ReflTransGen h.Holds first id

namespace Value

variable {h : Heap} {v : Value} {id a : ArrayId}

/-- An array that is held on the way from another one is reached from it. -/
theorem reaches_array (reached : Relation.ReflTransGen h.Holds a id) :
    (Value.array a).Reaches h id :=
  ⟨a, rfl, reached⟩

/-- What an element reaches is reached from the array. -/
theorem Reaches.of_mem (mem : v ∈ h.elements a) (reached : v.Reaches h id) :
    Relation.TransGen h.Holds a id := by
  obtain ⟨first, is_first, reached⟩ := reached
  exact Relation.TransGen.head' ⟨v, mem, is_first⟩ reached

/-- Only the arrays that a value reaches matter on a path. -/
theorem unfold_congr {path path' : List ArrayId}
    (alike : ∀ id, v.Reaches h id → (id ∈ path ↔ id ∈ path')) :
    v.unfold h path = v.unfold h path' := by
  induction path, v using Value.unfold.induct h generalizing path' with
  | case1 path v ih => rw [unfold, unfold, ih alike]
  | case2 path a on_path =>
    have on_path' := (alike a (reaches_array .refl)).1 on_path
    rw [unfold_array_of_mem on_path, unfold_array_of_mem on_path']
  | case3 path a fresh ih =>
    have fresh' : a ∉ path' := fun on_path' => fresh ((alike a (reaches_array .refl)).2 on_path')
    rw [unfold_array_of_not_mem fresh, unfold_array_of_not_mem fresh']
    congr 1
    refine List.map_congr_left fun v mem => ih v mem fun id reached => ?_
    have from_a : (Value.array a).Reaches h id := reaches_array (reached.of_mem mem).to_reflTransGen
    rw [List.mem_cons, List.mem_cons, alike id from_a]
  | case4 path v not_deferred not_array =>
    rw [unfold, unfold] <;> assumption

/-- In an acyclic heap elements look inside their array as they look alone. -/
theorem unfold_array_of_acyclic (acyclic : h.Acyclic) (a : ArrayId) :
    (Value.array a).unfold h [] = .array a ((h.elements a).map (Value.unfold h [])) := by
  rw [unfold_array_of_not_mem (List.not_mem_nil)]
  congr 1
  refine List.map_congr_left fun v mem => unfold_congr fun id reached => ?_
  have other : id ≠ a := by
    rintro rfl
    exact acyclic id (reached.of_mem mem)
  simp [other]

end Value

/-! ## Places of an unfolding -/

namespace Unfolding

/-- One unfolding **occurs** in another below certain arrays, the innermost first. -/
inductive Occurs : Unfolding → List ArrayId → Unfolding → Prop where
  | here (u : Unfolding) : Occurs u [] u
  | supplied {u w : Unfolding} {path : List ArrayId} (inside : Occurs u path w) :
      Occurs (.supplied u) path w
  | element {u w : Unfolding} {path : List ArrayId} {id : ArrayId} {us : List Unfolding}
      (mem : u ∈ us) (inside : Occurs u path w) : Occurs (.array id us) (path ++ [id]) w

/-- What occurs in the unfolding of a value is the unfolding of a value there, on the path that is
continued by the arrays around it; and these reach what stands inside them. -/
theorem Occurs.exists_value {h : Heap} {outer path : List ArrayId} {v : Value} {u : Unfolding}
    (occurs : (v.unfold h outer).Occurs path u) :
    ∃ w : Value, u = w.unfold h (path ++ outer) ∧ (∀ b, w.array? = some b → v.Reaches h b) ∧
      ∀ a ∈ path, ∀ b, w.array? = some b → Relation.TransGen h.Holds a b := by
  induction outer, v using Value.unfold.induct h generalizing path with
  | case1 outer v ih =>
    rw [Value.unfold] at occurs
    cases occurs with
    | here => exact ⟨.deferred v, by rw [Value.unfold]; rfl, fun b eq => ⟨b, eq, .refl⟩, by simp⟩
    | supplied inside => exact ih inside
  | case2 outer id on_path =>
    rw [Value.unfold_array_of_mem on_path] at occurs
    cases occurs with
    | here =>
      refine ⟨.array id, ?_, fun b eq => ⟨b, eq, .refl⟩, by simp⟩
      rw [List.nil_append, Value.unfold_array_of_mem on_path]
  | case3 outer id fresh ih =>
    rw [Value.unfold_array_of_not_mem fresh] at occurs
    cases occurs with
    | here =>
      refine ⟨.array id, ?_, fun b eq => ⟨b, eq, .refl⟩, by simp⟩
      rw [List.nil_append, Value.unfold_array_of_not_mem fresh]
    -- below an element the path is longer by the array, which holds what is found there
    | element mem inside =>
      obtain ⟨v, v_mem, rfl⟩ := List.mem_map.1 mem
      obtain ⟨w, eq, reached, around⟩ := ih v v_mem inside
      refine ⟨w, by rw [eq, List.append_assoc]; rfl, fun b is_b => ?_, fun a a_mem b is_b => ?_⟩
      · exact Value.reaches_array ((reached b is_b).of_mem v_mem).to_reflTransGen
      · rcases List.mem_append.1 a_mem with a_mem | a_mem
        · exact around a a_mem b is_b
        · rw [List.mem_singleton.1 a_mem]
          exact (reached b is_b).of_mem v_mem
  | case4 outer v not_deferred not_array =>
    have leaf : v.unfold h outer = .leaf v := by rw [Value.unfold] <;> assumption
    rw [leaf] at occurs
    cases occurs with
    | here => exact ⟨v, leaf.symm, fun b eq => ⟨b, eq, .refl⟩, by simp⟩

/-- An array occurs as a marker where it is among the arrays around it, and with its elements where
it is not. -/
theorem Occurs.of_unfold {h : Heap} {outer path : List ArrayId} {v : Value} {u : Unfolding}
    (occurs : (v.unfold h outer).Occurs path u) :
    (∀ w, u = .leaf w → w.array? = none) ∧ (∀ id, u = .marker id → id ∈ path ++ outer) ∧
      ∀ id us, u = .array id us → id ∉ path ++ outer ∧
        us = (h.elements id).map (Value.unfold h (id :: (path ++ outer))) := by
  obtain ⟨w, rfl, -, -⟩ := occurs.exists_value
  rcases w.unfold_cases h (path ++ outer) with
    ⟨w', -, eq⟩ | ⟨a, -, on_path, eq⟩ | ⟨a, -, fresh, eq⟩ | ⟨no_array, eq⟩ <;> rw [eq]
  · simp
  · simpa using on_path
  · simpa using fresh
  · simpa using no_array

/-- In an acyclic heap nothing occurs as a marker. -/
theorem Occurs.ne_marker {h : Heap} (acyclic : h.Acyclic) {path : List ArrayId} {v : Value}
    {u : Unfolding} (occurs : (v.unfold h []).Occurs path u) (id : ArrayId) : u ≠ .marker id := by
  rintro rfl
  obtain ⟨w, eq, -, around⟩ := occurs.exists_value
  rcases w.unfold_cases h (path ++ []) with
    ⟨w', -, eq'⟩ | ⟨a, is_array, on_path, eq'⟩ | ⟨a, -, -, eq'⟩ | ⟨-, eq'⟩ <;> rw [eq'] at eq <;>
    cases eq
  -- the marker stands for an array around it, which therefore reaches itself
  rw [List.append_nil] at on_path
  exact acyclic id (around id on_path id (by rw [is_array]; rfl))

/-! ## Brackets -/

mutual

/-- How deep the brackets of arrays and markers are nested. -/
def nesting : Unfolding → Nat
  | .leaf _ => 0
  | .supplied u => u.nesting
  | .marker _ => 1
  | .array _ us => nestingAll us + 1

/-- How deep brackets are nested in one of some unfoldings. -/
def nestingAll : List Unfolding → Nat
  | [] => 0
  | u :: us => max u.nesting (nestingAll us)

end

/-- Unfoldings are nested no deeper than each of them. -/
theorem nestingAll_le {us : List Unfolding} {n : Nat} (le : ∀ u ∈ us, u.nesting ≤ n) :
    nestingAll us ≤ n := by
  induction us with
  | nil => exact Nat.zero_le n
  | cons u us ih =>
    rw [nestingAll]
    have first := le u List.mem_cons_self
    have others := ih fun w mem => le w (List.mem_cons_of_mem u mem)
    omega

/-- Brackets are nested once for each array that is not on the path, and once more for a marker. -/
theorem nesting_unfold_le (h : Heap) (path : List ArrayId) (v : Value) :
    (v.unfold h path).nesting ≤ h.unopened path + 1 := by
  induction path, v using Value.unfold.induct h with
  | case1 path v ih =>
    rw [Value.unfold, nesting]
    exact ih
  | case2 path id on_path =>
    rw [Value.unfold_array_of_mem on_path, nesting]
    omega
  | case3 path id fresh ih =>
    rw [Value.unfold_array_of_not_mem fresh, nesting]
    -- one array fewer is left to enter
    have elements : nestingAll ((h.elements id).map (Value.unfold h (id :: path)))
        ≤ h.unopened path := by
      apply nestingAll_le
      intro u mem
      obtain ⟨v, v_mem, rfl⟩ := List.mem_map.1 mem
      have inner := ih v v_mem
      have less := Heap.unopened_cons_lt fresh v_mem
      omega
    omega
  | case4 path v not_deferred not_array =>
    rw [Value.unfold, nesting]
    · omega
    · exact not_deferred
    · exact not_array

end Unfolding

/-- **Rendering along paths.** Whatever array a value reaches, it is rendered, and appended is the
text of its unfolding on the path of the open arrays, which are the same afterwards. There an array
is a marker exactly where it is one of the arrays around it, brackets are nested at most once more
than there are arrays, and in an acyclic heap there are no markers: each array looks everywhere as
it looks alone. -/
theorem Rendering.append_unfolds (h : Heap) (v : Value) :
    (∀ r : Rendering, r.append h v =
      ⟨r.out ++ ((v.unfold h r.opened).write h r.attempts).1, r.opened,
        ((v.unfold h r.opened).write h r.attempts).2⟩) ∧
    (∀ outer path u, (v.unfold h outer).Occurs path u →
      (∀ w, u = .leaf w → w.array? = none) ∧ (∀ id, u = .marker id → id ∈ path ++ outer) ∧
      ∀ id us, u = .array id us → id ∉ path ++ outer ∧
        us = (h.elements id).map (Value.unfold h (id :: (path ++ outer)))) ∧
    (∀ path, (v.unfold h path).nesting ≤ h.arrays.length + 1) ∧
    (h.Acyclic →
      (∀ path id, ¬ (v.unfold h []).Occurs path (.marker id)) ∧
      ∀ id, (Value.array id).unfold h []
        = .array id ((h.elements id).map (Value.unfold h []))) := by
  refine ⟨fun r => append_eq_extend r v, fun outer path u occurs => occurs.of_unfold,
    fun path => ?_, fun acyclic => ⟨fun path id occurs => ?_, fun id => ?_⟩⟩
  · have nested := Unfolding.nesting_unfold_le h path v
    have bounded := h.unopened_le_length path
    omega
  · exact occurs.ne_marker acyclic id rfl
  · exact Value.unfold_array_of_acyclic acyclic id

/-- An array that holds another one twice, once through a supplier. -/
theorem Rendering.append_unfolds_siblings :
    let h : Heap := { arrays := [[.array 1, .deferred (.array 1)], [.int 1]] }
    h.Acyclic ∧ ∀ path id, ¬ ((Value.array 0).unfold h []).Occurs path (.marker id) := by
  intro h
  have later : ∀ a b, h.Holds a b → a < b := by
    rintro (_ | _ | a) b ⟨v, mem, is_b⟩
    · have holds_one : ∀ v ∈ h.elements 0, v.array? = some 1 := by
        simp [h, Heap.elements, Value.array?]
      have eq := (holds_one v mem).symm.trans is_b
      cases eq
      exact Nat.zero_lt_one
    · have holds_none : ∀ v ∈ h.elements 1, v.array? = none := by
        simp [h, Heap.elements, Value.array?]
      rw [holds_none v mem] at is_b
      cases is_b
    · simp [h, Heap.elements] at mem
  have acyclic := Heap.acyclic_of_lt later
  exact ⟨acyclic, ((append_unfolds h (.array 0)).2.2.2 acyclic).1⟩

example : ((Value.array 0).render { arrays := [[.array 1, .deferred (.array 1)], [.int 1]] } []).1
    = "[[1], [1]]" := by decide

example : ((Value.array 0).render { arrays := [[.array 1], [.array 0]] } []).1 = "[[[...]]]" := by
  decide

end Logline
