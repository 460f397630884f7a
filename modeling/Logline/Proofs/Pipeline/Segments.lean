import Logline.Proofs.Pipeline.Cell

/-! # Pipelines of segments

Segments stand in order as they are made, and they look at an event but not at what was added to it.
So a pipeline of segments adds their texts, one after the other, to whatever is there.

* `Layout.Blind` — a layout that does not look at what was added
* `Pipeline.addAll_of_blind` — what such layouts add
* `Pipeline.render_after_of_blind` — what the pipeline of a configuration adds -/

namespace Logline

/-- What is shown under a condition has at most one key. -/
theorem map_shown_sublist {α β : Type} (f : α → β) (condition : Bool) (a : α) :
    ((if condition then [a] else []).map f).Sublist [f a] := by
  cases condition with
  | false => exact List.nil_sublist _
  | true => exact List.Sublist.refl _

/-- What is shown where there is something to show has at most one key. -/
theorem map_toList_sublist {α β γ : Type} {f : β → γ} {g : α → β} {key : γ}
    (same : ∀ a, f (g a) = key) (o : Option α) : ((o.toList.map g).map f).Sublist [key] := by
  cases o with
  | none => exact List.nil_sublist _
  | some a =>
    obtain rfl := same a
    exact List.Sublist.refl _

/-- A layout is **blind** if what it adds to an event does not depend on what was added before. -/
def Layout.Blind (s : Layout.Scene) (l : Layout) : Prop :=
  ∀ (e : Event) (buffer : String), l.text s { e with buffer } = l.text s e

namespace Pipeline

/-- Blind layouts add their texts, one after the other. -/
theorem addAll_of_blind {s : Layout.Scene} {ls : List Layout} (blind : ∀ l ∈ ls, l.Blind s)
    (e : Event) : addAll s ls e = e.append (String.join (ls.map (Layout.text s e))) := by
  induction ls generalizing e with
  | nil => exact (Event.append_empty e).symm
  | cons l ls ih =>
    obtain ⟨-, others⟩ := List.forall_mem_cons.1 blind
    have step : addAll s (l :: ls) e = addAll s ls (e.append (l.text s e)) := rfl
    -- the other layouts see the event with a longer buffer, which they do not look at
    have texts : ls.map (Layout.text s (e.append (l.text s e))) = ls.map (Layout.text s e) :=
      List.map_congr_left fun l' mem => others l' mem e _
    rw [step, ih others, texts, Event.append_append, List.map_cons, String.join_cons]

/-- Layouts that are in order stay in their places. -/
theorem arrange_eq_self {ls : List Layout}
    (sorted : ls.Pairwise fun a b => a.order.index ≤ b.order.index) : arrange ls = ls :=
  List.mergeSort_of_pairwise (sorted.imp Layout.Order.le_iff.2)

/-- Layouts that are made in order stay as they were made. -/
theorem layouts_build [Calendar.Formatter] {c : Config} {e : Environment}
    (sorted : (layoutsOf c e).Pairwise fun a b => a.order.index ≤ b.order.index) :
    (build c e).1.layouts = layoutsOf c e := by
  rw [fst_build]
  exact arrange_eq_self sorted

/-- The pipeline of a configuration adds the texts of its segments, whatever it laid out before. -/
theorem render_after_of_blind [Calendar.Formatter] {Segment : Type} {c : Config}
    {start : Environment} {segments : List Segment} {layout : Segment → Layout}
    (layouts : layoutsOf c start = segments.map layout)
    (sorted : segments.Pairwise fun a b => (layout a).order.index ≤ (layout b).order.index)
    (blind : ∀ s segment, (layout segment).Blind s)
    (earlier : List (Layout.Surroundings × Event)) (s : Layout.Surroundings) (e : Event) :
    (((build c start).1.after earlier).render s e).1 = e.append (String.join (segments.map
      fun segment =>
        (layout segment).text { s with time := (build c start).1.timeText e.millis } e)) := by
  -- segments in order are not moved
  have stay : (build c start).1.layouts = segments.map layout := by
    rw [layouts_build, layouts]
    rw [layouts]
    exact List.pairwise_map.2 sorted
  have all_blind : ∀ s, ∀ l ∈ segments.map layout, l.Blind s := by
    intro s l mem
    obtain ⟨segment, -, rfl⟩ := List.mem_map.1 mem
    exact blind s segment
  rw [render_after, render_eq_layOut (build_sound c start), layOut, stay,
    addAll_of_blind (all_blind _), List.map_map]
  rfl

end Pipeline

end Logline
