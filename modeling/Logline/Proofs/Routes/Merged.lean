import Logline.Logger.Builder

/-! # Merged routes

Routes that a builder makes have one sink for each identity, whatever sinks it was given and in
whatever order: a sink whose identity is there already is merged into the one that is there.

* `Routes.Merged` — identities are distinct, and every level has a sink
* `Builder.allRoutes_merged` — a builder's routes are merged
* `Routes.Merged.writer?_build` — a router writes the records of a level to the level's sink -/

namespace Logline

/-- Routes are **merged** if no two sinks have one identity and every level's place is the place of
a sink. -/
structure Routes.Merged (r : Routes) : Prop where
  distinct : r.sinks.Pairwise fun a b => a.id.same b.id = false
  bounded : ∀ level, r.places level < r.sinks.length

namespace Routes

/-- Routes to one sink are merged. -/
theorem ofSink_merged (s : Sink) : (ofSink s).Merged := by
  refine ⟨?_, fun level => ?_⟩
  · exact List.pairwise_singleton _ s
  · exact Nat.zero_lt_one

/-- A level that is given a sink whose identity is known goes to the sink that is there. -/
theorem route_of_known {r : Routes} {s : Sink} {i : Nat} (known : r.place? s.id = some i)
    (level : Level) : r.route level s = { r with places := r.places.set level i } := by
  rw [route, known]

/-- A level that is given a sink with a new identity goes to that sink. -/
theorem route_of_new {r : Routes} {s : Sink} (new : r.place? s.id = none) (level : Level) :
    r.route level s
      = { r with others := r.others ++ [s], places := r.places.set level r.sinks.length } := by
  rw [route, new]

/-- Places stay below a count if the new one is below it. -/
theorem set_lt {places : Level.Map Nat} {count i : Nat} (bounded : ∀ level, places level < count)
    (lt : i < count) (level m : Level) : places.set level i m < count := by
  by_cases same : m = level
  · rw [same, Level.Map.set_same]
    exact lt
  · rw [Level.Map.set_of_ne _ _ same]
    exact bounded m

/-- Giving a level a sink keeps routes merged. -/
theorem Merged.route {r : Routes} (merged : r.Merged) (level : Level) (s : Sink) :
    (r.route level s).Merged := by
  cases place : r.place? s.id with
  | some i =>
    rw [route_of_known place]
    rw [place?, List.findIdx?_eq_some_iff_getElem] at place
    exact ⟨merged.distinct, set_lt merged.bounded place.1 level⟩
  | none =>
    rw [route_of_new place]
    -- the new sink is unlike every sink that is there
    rw [place?, List.findIdx?_eq_none_iff] at place
    have sinks : (⟨r.first, r.others ++ [s], r.places.set level r.sinks.length⟩ : Routes).sinks
        = r.sinks ++ [s] := rfl
    have longer : ∀ i ≤ r.sinks.length, i < (r.sinks ++ [s]).length := by
      intro i le
      rw [List.length_append]
      exact Nat.lt_succ_of_le le
    refine ⟨?_, ?_⟩
    · rw [sinks, List.pairwise_append]
      refine ⟨merged.distinct, List.pairwise_singleton _ s, fun a mem b mem_b => ?_⟩
      rw [List.mem_singleton.1 mem_b]
      exact place a mem
    · rw [sinks]
      exact set_lt (fun m => longer _ (Nat.le_of_lt (merged.bounded m)))
        (longer _ (Nat.le_refl _)) level

namespace Merged

variable {r : Routes} (merged : r.Merged)

include merged

/-- Sinks with one identity are one sink. -/
theorem eq_of_same {a b : Sink} (mem_a : a ∈ r.sinks) (mem_b : b ∈ r.sinks)
    (same : a.id.same b.id = true) : a = b := by
  obtain ⟨i, hi, rfl⟩ := List.getElem_of_mem mem_a
  obtain ⟨j, hj, rfl⟩ := List.getElem_of_mem mem_b
  have apart := List.pairwise_iff_getElem.1 merged.distinct
  rcases Nat.lt_trichotomy i j with lt | eq | gt
  · rw [apart i j hi hj lt] at same
    cases same
  · subst eq
    rfl
  · have same := SinkId.same_symm same
    rw [apart j i hj hi gt] at same
    cases same

/-- At the place of a level stands its sink. -/
theorem getElem?_places (level : Level) : r.sinks[r.places level]? = some (r.sink level) := by
  rw [sink, List.getElem?_eq_getElem (merged.bounded level), Option.getD_some]

/-- The sink of a level is one of the sinks. -/
theorem sink_mem (level : Level) : r.sink level ∈ r.sinks :=
  List.mem_of_getElem? (merged.getElem?_places level)

/-- The records of a level are written to the level's sink. -/
theorem writer?_build (charset : Charset) (trap : Trap) (level : Level) :
    (Router.build r charset trap).writer? level = some ⟨r.sink level, charset, trap⟩ := by
  rw [Router.build, Router.writer?, List.getElem?_map, merged.getElem?_places, Option.map_some]

end Merged

end Routes

/-- A builder's routes are merged. -/
theorem Builder.allRoutes_merged (b : Builder) : b.allRoutes.Merged := by
  have all : ∀ (given : List (Level × Sink)) (r : Routes), r.Merged →
      (given.foldl (fun r p => r.route p.1 p.2) r).Merged := by
    intro given
    induction given with
    | nil => exact fun r merged => merged
    | cons p given ih => exact fun r merged => ih _ (merged.route p.1 p.2)
  exact all b.routes _ (Routes.ofSink_merged b.sink)

end Logline
