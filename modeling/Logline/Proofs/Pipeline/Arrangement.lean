import Logline.Proofs.Layout.LineRecord
import Logline.Proofs.Layout.Segments
import Mathlib.Data.List.Permutation

/-! # The order in which layouts run

A pipeline runs each of its layouts once, in increasing order, and layouts of one order as they were
given. So lists that differ only in how layouts of different orders are mixed lay out every event
alike, and a list that is in order already is run as it stands, that of a configuration among them.

* `Layout.InOrder` — lists of layouts in order
* `Layout.Keeps` — the layouts of a list in another sequence, those of one order as before
* `Pipeline.keeps_arrangeRuns`, `Pipeline.arrange_of_keeps` — a pipeline runs its layouts in such a
  sequence, and does not see which one it was given
* `Pipeline.render_ofLayouts` — what the pipeline of a list of layouts lays out -/

namespace Logline

namespace Layout

/-- Orders with one number are one order. -/
theorem Order.eq_of_index_eq {o o' : Order} (eq : o.index = o'.index) : o = o' := by
  have place := o.all_getElem?_index
  rw [eq, o'.all_getElem?_index] at place
  exact (Option.some.inj place).symm

/-- Layouts are **in order** if their orders do not decrease. -/
def InOrder (ls : List Layout) : Prop := ls.Pairwise fun a b => a.order.index ≤ b.order.index

/-- A sequence of layouts with their places in a list **keeps** to the list if it has each of its
places once, and those of layouts of one order from the front to the back. -/
structure Keeps (ls : List Layout) (runs : List (Layout × Nat)) : Prop where
  once : runs.Perm ls.zipIdx
  kept : runs.Pairwise fun a b => a.1.order = b.1.order → a.2 < b.2

/-- A list keeps to itself. -/
theorem keeps_zipIdx (ls : List Layout) : Keeps ls ls.zipIdx := by
  have places : (ls.zipIdx.map Prod.snd).Pairwise (· < ·) := by
    rw [List.zipIdx_map_snd]
    exact List.pairwise_lt_range'
  refine ⟨.refl _, (List.pairwise_map.1 places).imp ?_⟩
  intro a b before _
  exact before

end Layout

namespace Pipeline

open Layout

variable {ls : List Layout} {runs : List (Layout × Nat)}

/-! ## Layouts with their places -/

/-- A stable sort puts members in order, and ties keep every relation in which they stood. -/
theorem pairwise_mergeSort_of_ties {α : Type} {le : α → α → Bool}
    (trans : ∀ a b c, le a b = true → le b c = true → le a c = true)
    (total : ∀ a b, (le a b || le b a) = true) {R : α → α → Prop} {as : List α}
    (ties : as.Pairwise fun a b => le a b = true → le b a = true → R a b) :
    (as.mergeSort le).Pairwise fun a b => le a b = true ∧ (le b a = true → R a b) := by
  -- the members with their places are in order by these, where they are tied
  have places : (as.zipIdx.mergeSort (List.zipIdxLE le)).Pairwise fun p q => p.2 ≠ q.2 := by
    have nodup : (as.zipIdx.map Prod.snd).Nodup := by
      rw [List.zipIdx_map_snd]
      exact List.nodup_range'
    have perm := (List.mergeSort_perm as.zipIdx (List.zipIdxLE le)).map Prod.snd
    exact List.pairwise_map.1 (perm.nodup_iff.2 nodup)
  rw [← List.mergeSort_zipIdx, List.pairwise_map]
  refine (places.and (List.pairwise_mergeSort (List.zipIdxLE_trans trans)
    (List.zipIdxLE_total total) _)).imp_of_mem ?_
  rintro ⟨a, i⟩ ⟨b, j⟩ mem mem' ⟨ne, before⟩
  rw [(List.mergeSort_perm _ _).mem_iff] at mem mem'
  obtain ⟨bound, rfl⟩ := List.getElem?_eq_some_iff.1 (List.mk_mem_zipIdx_iff_getElem?.1 mem)
  obtain ⟨bound', rfl⟩ := List.getElem?_eq_some_iff.1 (List.mk_mem_zipIdx_iff_getElem?.1 mem')
  rw [List.zipIdxLE] at before
  split at before
  next first =>
    refine ⟨first, fun tied => ?_⟩
    rw [if_pos tied, decide_eq_true_eq] at before
    exact List.pairwise_iff_getElem.1 ties i j bound bound' (Nat.lt_of_le_of_ne before ne) first
      tied
  next => cases before

/-- Layouts with their places, arranged by the orders of the layouts. -/
def arrangeRuns (runs : List (Layout × Nat)) : List (Layout × Nat) :=
  runs.mergeSort fun r r' => r.1.order.le r'.1.order

/-- Layouts may be arranged before or after their places are forgotten. -/
theorem map_arrangeRuns (runs : List (Layout × Nat)) :
    (arrangeRuns runs).map Prod.fst = arrange (runs.map Prod.fst) :=
  List.map_mergeSort fun _ _ _ _ => rfl

/-- Layouts are arranged by their orders, and those of one order by their places. -/
theorem pairwise_arrangeRuns (keeps : Keeps ls runs) :
    (arrangeRuns runs).Pairwise fun a b => a.1.order.index < b.1.order.index ∨
      a.1.order.index = b.1.order.index ∧ a.2 < b.2 := by
  have ties : runs.Pairwise fun a b => a.1.order.le b.1.order = true →
      b.1.order.le a.1.order = true → a.2 < b.2 :=
    keeps.kept.imp fun before le le' =>
      before (Order.eq_of_index_eq (Nat.le_antisymm (Order.le_iff.1 le) (Order.le_iff.1 le')))
  refine (pairwise_mergeSort_of_ties (fun a b c => Order.le_trans a.1.order b.1.order c.1.order)
    (fun a b => Order.le_total a.1.order b.1.order) ties).imp fun before => ?_
  rw [Order.le_iff, Order.le_iff] at before
  omega

/-- Arranged layouts keep to the list that they are from. -/
theorem keeps_arrangeRuns (keeps : Keeps ls runs) : Keeps ls (arrangeRuns runs) where
  once := (List.mergeSort_perm runs _).trans keeps.once
  kept := (pairwise_arrangeRuns keeps).imp fun before eq => by
    rw [eq] at before
    omega

/-- However layouts of different orders are mixed, they are arranged alike. -/
theorem arrange_of_keeps (keeps : Keeps ls runs) : arrange (runs.map Prod.fst) = arrange ls := by
  have same : arrangeRuns runs = arrangeRuns ls.zipIdx := by
    -- of two layouts with places only one can come before the other
    refine List.Perm.eq_of_pairwise (fun a b _ _ before after => ?_) (pairwise_arrangeRuns keeps)
      (pairwise_arrangeRuns (keeps_zipIdx ls)) ?_
    · omega
    · exact (keeps_arrangeRuns keeps).once.trans (List.mergeSort_perm _ _).symm
  rw [← map_arrangeRuns, same, map_arrangeRuns, List.zipIdx_map_fst]

/-- Arranged layouts are in order. -/
theorem inOrder_arrange (ls : List Layout) : InOrder (arrange ls) :=
  (List.pairwise_mergeSort (fun a b c => Order.le_trans a.order b.order c.order)
    (fun a b => Order.le_total a.order b.order) ls).imp Order.le_iff.1

/-! ## Configurations -/

/-- The layouts of a configuration are made in order. -/
theorem inOrder_layoutsOf (c : Config) (start : Environment) : InOrder (layoutsOf c start) := by
  rw [layoutsOf, InOrder]
  cases c.format with
  | text => exact List.pairwise_map.2 (Line.pairwise_ofConfig c start)
  | json => exact List.pairwise_map.2 (Object.pairwise_ofConfig c start)

/-- A pipeline of JSON objects begins with the opening brace, runs the comma of a member directly
before that member, and ends with the throwable and the closing brace. -/
theorem layouts_build_json [Calendar.Formatter] {c : Config} (format : c.format = .json)
    (start : Environment) :
    (build c start).1.layouts =
      (Object.opening :: Object.separated (Object.members c start)
        ++ [Object.throwable, Object.closing]).map .object := by
  rw [layouts_build (inOrder_layoutsOf c start), layoutsOf, format, Object.ofConfig]

/-! ## Runs -/

/-- A pipeline of custom layouts runs its layouts, one after the other, and stays as it is. -/
theorem render_ofLayouts_eq (ls : List Layout) (s : Surroundings) (e : Event) :
    (ofLayouts ls).render s e = (addAll { s with time := "" } (arrange ls) e, ofLayouts ls) := rfl

/-- **A pipeline runs every layout of its list once, in increasing order, and layouts of one order
as they stand in the list**; each adds its text to the event as the one before has left it. What it
lays out does not depend on how layouts of different orders are mixed in the list, and layouts that
are in order already stay in their places: so do those of every configuration. -/
theorem render_ofLayouts [Calendar.Formatter] (ls : List Layout) :
    (∃ runs, Keeps ls runs ∧ InOrder (runs.map Prod.fst) ∧ ∀ s e, (ofLayouts ls).render s e =
      (runs.foldl (fun e r => e.append (r.1.text { s with time := "" } e)) e, ofLayouts ls)) ∧
    (∀ runs, Keeps ls runs →
      ∀ s e, (ofLayouts (runs.map Prod.fst)).render s e = (ofLayouts ls).render s e) ∧
    (InOrder ls → (ofLayouts ls).layouts = ls) ∧
    (∀ c start, InOrder (layoutsOf c start) ∧ (build c start).1.layouts = layoutsOf c start) ∧
    ∀ c start, c.format = .json → (build c start).1.layouts =
      (Object.opening :: Object.separated (Object.members c start)
        ++ [Object.throwable, Object.closing]).map .object := by
  -- places only break ties, so that the sequence is what the pipeline runs
  have arranged : (arrangeRuns ls.zipIdx).map Prod.fst = arrange ls := by
    rw [map_arrangeRuns, List.zipIdx_map_fst]
  refine ⟨⟨arrangeRuns ls.zipIdx, keeps_arrangeRuns (keeps_zipIdx ls), ?_, fun s e => ?_⟩,
    fun runs keeps s e => ?_, arrange_eq_self, fun c start => ⟨inOrder_layoutsOf c start, ?_⟩,
    fun c start format => layouts_build_json format start⟩
  · rw [arranged]
    exact inOrder_arrange ls
  · rw [render_ofLayouts_eq, ← arranged, addAll, List.foldl_map]
  · rw [ofLayouts, arrange_of_keeps keeps, ← ofLayouts]
  · exact layouts_build (inOrder_layoutsOf c start)

/-- A message that shows what is in front of it, given before a time and two levels or behind
them. -/
theorem render_ofLayouts_four :
    let message := Layout.custom .message fun e => "m(" ++ e.buffer ++ ")"
    let level (text : String) := Layout.custom .level fun _ => text
    let time := Layout.custom .dateTime fun _ => "t"
    let s : Surroundings := ⟨[], ⟨0, none⟩, [], Heap.empty⟩
    let e : Event := .ofText "test" .info none none 0
    Keeps [message, level "a", time, level "b"]
      [(level "a", 1), (time, 2), (level "b", 3), (message, 0)] ∧
    ((ofLayouts [message, level "a", time, level "b"]).render s e).1 = e.append "tabm(tab)" ∧
    ((ofLayouts [level "a", time, level "b", message]).render s e).1 = e.append "tabm(tab)" := by
  intro message level time s e
  have keeps : Keeps [message, level "a", time, level "b"]
      [(level "a", 1), (time, 2), (level "b", 3), (message, 0)] := by
    constructor
    · have turned : ([(message, 0)] ++ [(level "a", 1), (time, 2), (level "b", 3)]).Perm _ :=
        List.perm_append_comm
      exact turned.symm
    · simp [Layout.order, message, level, time]
  have record : ((ofLayouts [message, level "a", time, level "b"]).render s e).1
      = e.append "tabm(tab)" := by cbv
  exact ⟨keeps, record, (congrArg Prod.fst
    ((@render_ofLayouts .verbatim [message, level "a", time, level "b"]).2.1 _ keeps s
      e)).trans record⟩

end Pipeline

end Logline
