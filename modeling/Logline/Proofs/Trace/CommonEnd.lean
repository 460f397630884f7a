import Logline.Throwable.Trace
import Mathlib.Data.List.Forall2
import Mathlib.Order.Bounds.Basic

/-! # Common ends of traces

Frames at the end of a trace that the enclosing trace ends with too are counted instead of listed.
The count is the greatest possible one.

* `Frame.bare` — what counts of a frame when it is compared
* `Trace.CommonEnd` — how many frames two traces have in common at their ends
* `Trace.isGreatest_sharedEnd` — the frames that are counted are the longest common end -/

namespace Logline

/-- What counts of a frame when it is compared with another one. -/
def Frame.bare (f : Frame) : Frame := { f with file := none, native := false }

/-- Frames count as the same if what is compared of them is. -/
theorem Frame.bare_eq_bare {f g : Frame} : f.bare = g.bare ↔ f.sameAs g = true := by
  rw [Frame.sameAs_iff, bare, bare, Frame.mk.injEq]
  simp

namespace Trace

/-- Two lists of frames **have so many frames in common** at their beginnings. -/
def CommonStart (fs gs : List Frame) (n : Nat) : Prop :=
  ∃ s t, s <+: fs ∧ t <+: gs ∧ List.Forall₂ (fun f g => f.sameAs g = true) s t ∧ s.length = n

/-- Two lists of frames **have so many frames in common** at their ends. -/
def CommonEnd (fs gs : List Frame) (n : Nat) : Prop :=
  ∃ s t, s <:+ fs ∧ t <:+ gs ∧ List.Forall₂ (fun f g => f.sameAs g = true) s t ∧ s.length = n

/-- Read backwards, a common start is a common end. -/
theorem commonStart_reverse {fs gs : List Frame} {n : Nat} :
    CommonStart fs.reverse gs.reverse n ↔ CommonEnd fs gs n := by
  constructor
  · rintro ⟨s, t, s_start, t_start, same, length⟩
    refine ⟨s.reverse, t.reverse, ?_, ?_, List.forall₂_reverse_iff.2 same, by simpa⟩
    · rwa [← List.reverse_prefix, List.reverse_reverse]
    · rwa [← List.reverse_prefix, List.reverse_reverse]
  · rintro ⟨s, t, s_end, t_end, same, length⟩
    exact ⟨s.reverse, t.reverse, List.reverse_prefix.2 s_end, List.reverse_prefix.2 t_end,
      List.forall₂_reverse_iff.2 same, by simpa⟩

/-- The shared start is the longest common start. -/
theorem isGreatest_sharedStart (fs gs : List Frame) :
    IsGreatest {n | CommonStart fs gs n} (sharedStart fs gs) := by
  induction fs, gs using sharedStart.induct with
  | case1 f fs g gs same ih =>
    obtain ⟨⟨s, t, s_start, t_start, all_same, length⟩, greatest⟩ := ih
    rw [sharedStart, if_pos same]
    refine ⟨⟨f :: s, g :: t, List.cons_prefix_cons.2 ⟨rfl, s_start⟩,
      List.cons_prefix_cons.2 ⟨rfl, t_start⟩, .cons same all_same, by simp [length]⟩, ?_⟩
    rintro n ⟨s, t, s_start, t_start, all_same, rfl⟩
    cases all_same with
    | nil => exact Nat.zero_le _
    | cons head tail =>
      exact Nat.succ_le_succ (greatest ⟨_, _, (List.cons_prefix_cons.1 s_start).2,
        (List.cons_prefix_cons.1 t_start).2, tail, rfl⟩)
  | case2 f fs g gs differ =>
    rw [sharedStart, if_neg differ]
    refine ⟨⟨[], [], List.nil_prefix, List.nil_prefix, .nil, rfl⟩, ?_⟩
    rintro n ⟨s, t, s_start, t_start, all_same, rfl⟩
    cases all_same with
    | nil => exact Nat.le_refl 0
    | cons head tail =>
      obtain ⟨rfl, -⟩ := List.cons_prefix_cons.1 s_start
      obtain ⟨rfl, -⟩ := List.cons_prefix_cons.1 t_start
      exact absurd head differ
  -- one of the two has ended
  | case3 fs gs empty =>
    rw [sharedStart]
    · refine ⟨⟨[], [], List.nil_prefix, List.nil_prefix, .nil, rfl⟩, ?_⟩
      rintro n ⟨s, t, s_start, t_start, all_same, rfl⟩
      cases all_same with
      | nil => exact Nat.le_refl 0
      | cons head tail =>
        cases fs with
        | nil => simp at s_start
        | cons f fs =>
          cases gs with
          | nil => simp at t_start
          | cons g gs => exact (empty f fs g gs rfl rfl).elim
    · exact empty

/-- The frames that are not shown are the longest common end. -/
theorem isGreatest_sharedEnd (fs gs : List Frame) :
    IsGreatest {n | CommonEnd fs gs n} (sharedEnd fs gs) := by
  rw [sharedEnd]
  simpa only [commonStart_reverse] using isGreatest_sharedStart fs.reverse gs.reverse

/-- What ends two traces counts the same in both. -/
theorem CommonEnd.drop_bare {fs gs : List Frame} {n : Nat} (common : CommonEnd fs gs n) :
    (fs.drop (fs.length - n)).map Frame.bare = (gs.drop (gs.length - n)).map Frame.bare := by
  obtain ⟨s, t, s_end, t_end, same, rfl⟩ := common
  rw [← List.suffix_iff_eq_drop.1 s_end, same.length_eq, ← List.suffix_iff_eq_drop.1 t_end]
  clear s_end t_end
  induction same with
  | nil => rfl
  | cons head _ ih => rw [List.map_cons, List.map_cons, Frame.bare_eq_bare.2 head, ih]

/-- All frames are shared if they are a common end. -/
theorem sharedEnd_eq_length_iff {fs gs : List Frame} :
    sharedEnd fs gs = fs.length ↔ CommonEnd fs gs fs.length := by
  obtain ⟨common, greatest⟩ := isGreatest_sharedEnd fs gs
  constructor
  · intro all
    rwa [all] at common
  · exact fun all => Nat.le_antisymm (sharedEnd_le_length fs gs) (greatest all)

end Trace

end Logline
