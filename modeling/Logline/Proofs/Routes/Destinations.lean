import Logline.Proofs.Routes.Merged
import Mathlib.Data.List.Induction
import Mathlib.Logic.Relation

/-! # Where the records of a level go

Which sink the records of a level go to is told from the calls that a builder got: from the last one
that routes the level, or from the last default sink where none does. Of the sinks with one identity
the first one is kept, and the default sink comes before the others.

* `Builder.Call`, `Builder.ofCalls` — what a builder is given, call by call
* `Builder.destination` — the sink that was given last for a level
* `Builder.offered` — all sinks that were given, in order
* `Routes.Serves` — routes that lead to the identities asked for, by the first sinks that have them
* `Builder.Exchange` — two calls about different things change places
* `Builder.routes_ofCalls` — the routes and the router that come of any calls -/

namespace Logline

/-! ## Calls of a builder -/

namespace Builder

/-- What a call of a builder is about. -/
inductive Part where
  | config
  /-- The sink of the levels without a route. -/
  | sink
  /-- The route of a level. -/
  | level (level : Level)
  | trap
  deriving DecidableEq

/-- A call of a builder. -/
inductive Call where
  | config (c : Config)
  | sink (s : Sink)
  | route (level : Level) (s : Sink)
  | trap (t : Trap)

namespace Call

/-- What a call is about. -/
def part : Call → Part
  | .config _ => .config
  | .sink _ => .sink
  | .route level _ => .level level
  | .trap _ => .trap

/-- The sink that a call gives. -/
def sink? : Call → Option Sink
  | .sink s | .route _ s => some s
  | .config _ | .trap _ => none

/-- The sink that a call routes a level to. -/
def routed? : Call → Option Sink
  | .route _ s => some s
  | .config _ | .sink _ | .trap _ => none

end Call

/-- A builder after a call. -/
def call (b : Builder) : Call → Builder
  | .config c => b.withConfig c
  | .sink s => b.withSink s
  | .route level s => b.route level s
  | .trap t => b.withTrap t

/-- A builder after some calls. -/
def ofCalls (stderr : Sink) (calls : List Call) : Builder := calls.foldl call (standard stderr)

/-- The sink that was given last for something, where one was. -/
def lastSink? (calls : List Call) (p : Part) : Option Sink :=
  (calls.filter (·.part = p)).getLast?.bind Call.sink?

/-- The default sink that was given last, `stderr` where none was. -/
def defaultSink (stderr : Sink) (calls : List Call) : Sink := (lastSink? calls .sink).getD stderr

/-- The sink that was given last for a level, the default sink where none was. -/
def destination (stderr : Sink) (calls : List Call) (level : Level) : Sink :=
  (lastSink? calls (.level level)).getD (defaultSink stderr calls)

/-- The sinks that levels can go to, in order: the default sink and those of all routes. -/
def offered (stderr : Sink) (calls : List Call) : List Sink :=
  defaultSink stderr calls :: calls.filterMap Call.routed?

/-- Calls of the builder are made one after the other. -/
theorem ofCalls_concat (stderr : Sink) (calls : List Call) (c : Call) :
    ofCalls stderr (calls ++ [c]) = (ofCalls stderr calls).call c := by
  rw [ofCalls, List.foldl_append]
  rfl

/-- One more call decides what it is about and nothing else. -/
theorem lastSink?_concat (calls : List Call) (c : Call) (p : Part) :
    lastSink? (calls ++ [c]) p = if c.part = p then c.sink? else lastSink? calls p := by
  by_cases about : c.part = p
  · simp [lastSink?, about]
  · simp [lastSink?, about]

/-- The default sink is the one of the last call that set it. -/
theorem sink_ofCalls (stderr : Sink) (calls : List Call) :
    (ofCalls stderr calls).sink = defaultSink stderr calls := by
  induction calls using List.reverseRecOn with
  | nil => rfl
  | append_singleton calls c ih =>
    rw [ofCalls_concat, defaultSink, lastSink?_concat]
    cases c with
    | sink s => rfl
    | config | route | trap => exact ih

end Builder

/-! ## Routes that serve -/

namespace Routes

/-- Routes **serve** the sinks that were offered if they lead every level to the identity that was
asked for, and keep of the sinks with one identity the first that was offered. -/
structure Serves (r : Routes) (offered : List Sink) (asked : Level.Map Sink) : Prop where
  merged : r.Merged
  first : ∀ id, (r.sinks.find? fun s => s.id.same id) = offered.find? fun s => s.id.same id
  served : ∀ level, (r.sink level).id.same (asked level).id = true

/-- Routes to one sink serve that sink at every level. -/
theorem ofSink_serves (s : Sink) : (ofSink s).Serves [s] fun _ => s :=
  ⟨ofSink_merged s, fun _ => rfl, fun _ => SinkId.same_refl _⟩

/-- A level that is given a sink goes to the identity of that sink. -/
theorem sink_route_same (r : Routes) (level : Level) (s : Sink) :
    ((r.route level s).sink level).id.same s.id = true := by
  cases place : r.place? s.id with
  | some i =>
    rw [route_of_known place]
    show ((r.sinks[r.places.set level i level]?).getD r.first).id.same s.id = true
    rw [place?, List.findIdx?_eq_some_iff_getElem] at place
    obtain ⟨lt, same, -⟩ := place
    rw [Level.Map.set_same, List.getElem?_eq_getElem lt]
    exact same
  | none =>
    rw [route_of_new place]
    show (((r.sinks ++ [s])[r.places.set level r.sinks.length level]?).getD r.first).id.same s.id
      = true
    simp

/-- The sinks with an identity, after a level was given a sink: those that were there come first. -/
theorem find?_sinks_route (r : Routes) (level : Level) (s : Sink) (id : SinkId) :
    ((r.route level s).sinks.find? fun t => t.id.same id)
      = (r.sinks ++ [s]).find? fun t => t.id.same id := by
  cases place : r.place? s.id with
  | none => rw [route_of_new place]; rfl
  | some i =>
    rw [route_of_known place, List.find?_append]
    show (r.sinks.find? fun t => t.id.same id) = _
    by_cases same : s.id.same id = true
    · -- the sink that is merged into has the identity too
      rw [place?, List.findIdx?_eq_some_iff_getElem] at place
      obtain ⟨lt, known, -⟩ := place
      have found : (r.sinks.find? fun t => t.id.same id).isSome = true :=
        List.find?_isSome.2 ⟨r.sinks[i], List.getElem_mem lt, SinkId.same_trans known same⟩
      rw [Option.or_of_isSome found]
    · simp [same]

namespace Merged

variable {r : Routes} (merged : r.Merged)

include merged

/-- The other levels go where they went before. -/
theorem sink_route_of_ne {level m : Level} (other : m ≠ level) (s : Sink) :
    (r.route level s).sink m = r.sink m := by
  cases place : r.place? s.id with
  | some i =>
    rw [route_of_known place]
    show (r.sinks[r.places.set level i m]?).getD r.first = r.sink m
    rw [Level.Map.set_of_ne _ _ other, sink]
  | none =>
    rw [route_of_new place]
    show ((r.sinks ++ [s])[r.places.set level r.sinks.length m]?).getD r.first = r.sink m
    rw [Level.Map.set_of_ne _ _ other, List.getElem?_append_left (merged.bounded m), sink]

/-- Levels have one place if and only if their sinks have one identity. -/
theorem places_eq_iff (a b : Level) :
    r.places a = r.places b ↔ (r.sink a).id.same (r.sink b).id = true := by
  constructor
  · intro eq
    rw [sink, sink, eq]
    exact SinkId.same_refl _
  · intro same
    have sinks : r.sink a = r.sink b :=
      merged.eq_of_same (merged.sink_mem a) (merged.sink_mem b) same
    have apart := List.pairwise_iff_getElem.1 merged.distinct
    have place := fun level => List.getElem?_eq_some_iff.1 (merged.getElem?_places level)
    obtain ⟨lt_a, at_a⟩ := place a
    obtain ⟨lt_b, at_b⟩ := place b
    by_contra ne
    -- one sink cannot stand in two places
    rcases Nat.lt_or_gt_of_ne ne with lt | gt
    · have differ := apart _ _ lt_a lt_b lt
      rw [at_a, at_b, sinks, SinkId.same_refl] at differ
      cases differ
    · have differ := apart _ _ lt_b lt_a gt
      rw [at_a, at_b, sinks, SinkId.same_refl] at differ
      cases differ

/-- An identity that a sink has is the identity of one sink. -/
theorem countP_same {id : SinkId} {s : Sink} (mem : s ∈ r.sinks) (same : s.id.same id = true) :
    (r.sinks.countP fun t => t.id.same id) = 1 := by
  obtain ⟨before, after, split⟩ := List.mem_iff_append.1 mem
  have distinct := merged.distinct
  rw [split, List.pairwise_append, List.pairwise_cons] at distinct
  obtain ⟨-, ⟨behind, -⟩, ahead⟩ := distinct
  have none_before : (before.countP fun t => t.id.same id) = 0 := by
    refine List.countP_eq_zero.2 fun t t_mem t_same => ?_
    have differ := ahead t t_mem s List.mem_cons_self
    rw [SinkId.same_trans t_same (SinkId.same_symm same)] at differ
    cases differ
  have none_after : (after.countP fun t => t.id.same id) = 0 := by
    refine List.countP_eq_zero.2 fun t t_mem t_same => ?_
    have differ := behind t t_mem
    rw [SinkId.same_trans same (SinkId.same_symm t_same)] at differ
    cases differ
  rw [split, List.countP_append, List.countP_cons, none_before, none_after, if_pos same]

end Merged

namespace Serves

variable {r : Routes} {offered : List Sink} {asked : Level.Map Sink}

/-- **One route.** The new sink is offered behind the others, and its level asks for it. -/
theorem route (serves : r.Serves offered asked) (level : Level) (s : Sink) :
    (r.route level s).Serves (offered ++ [s]) (asked.set level s) := by
  refine ⟨serves.merged.route level s, fun id => ?_, fun m => ?_⟩
  · rw [find?_sinks_route, List.find?_append, List.find?_append, serves.first id]
  · by_cases eq : m = level
    · subst eq
      rw [Level.Map.set_same]
      exact sink_route_same r m s
    · rw [Level.Map.set_of_ne _ _ eq, serves.merged.sink_route_of_ne eq]
      exact serves.served m

/-- Levels go to one sink if and only if they ask for one identity. -/
theorem same_iff (serves : r.Serves offered asked) (a b : Level) :
    (r.sink a).id.same (r.sink b).id = true ↔ (asked a).id.same (asked b).id = true := by
  have at_a := serves.served a
  have at_b := serves.served b
  constructor
  · intro same
    exact SinkId.same_trans (SinkId.same_trans (SinkId.same_symm at_a) same) at_b
  · intro same
    exact SinkId.same_trans (SinkId.same_trans at_a same) (SinkId.same_symm at_b)

/-- Every sink that was offered has the identity of one sink. -/
theorem countP_same (serves : r.Serves offered asked) {s : Sink} (mem : s ∈ offered) :
    (r.sinks.countP fun t => t.id.same s.id) = 1 := by
  have offers : (offered.find? fun t => t.id.same s.id).isSome = true :=
    List.find?_isSome.2 ⟨s, mem, SinkId.same_refl _⟩
  rw [← serves.first s.id] at offers
  obtain ⟨t, t_mem, same⟩ := List.find?_isSome.1 offers
  exact serves.merged.countP_same t_mem same

/-- The sinks that are kept were offered. -/
theorem mem_offered (serves : r.Serves offered asked) {s : Sink} (mem : s ∈ r.sinks) :
    s ∈ offered := by
  have kept : (r.sinks.find? fun t => t.id.same s.id).isSome = true :=
    List.find?_isSome.2 ⟨s, mem, SinkId.same_refl _⟩
  obtain ⟨t, found⟩ := Option.isSome_iff_exists.1 kept
  have same : t.id.same s.id = true := by simpa using List.find?_some found
  have eq : t = s := serves.merged.eq_of_same (List.mem_of_find?_eq_some found) mem same
  rw [serves.first s.id, eq] at found
  exact List.mem_of_find?_eq_some found

end Serves

end Routes

/-- A router writes to the sinks of its routes. -/
theorem Router.map_sink_writers (r : Routes) (charset : Charset) (trap : Trap) :
    (build r charset trap).writers.map Writer.sink = r.sinks := by
  rw [build, List.map_map]
  exact List.map_id _

namespace Builder

/-- **All routes.** The routes of a builder serve what was offered to it. -/
theorem allRoutes_serves (stderr : Sink) (calls : List Call) :
    (ofCalls stderr calls).allRoutes.Serves (offered stderr calls) (destination stderr calls) := by
  rw [allRoutes, sink_ofCalls, offered]
  -- the default sink is settled before the first route, whichever call gave it
  unfold destination
  generalize defaultSink stderr calls = first
  induction calls using List.reverseRecOn with
  | nil => exact Routes.ofSink_serves first
  | append_singleton calls c ih =>
    rw [ofCalls_concat, List.filterMap_append]
    simp only [lastSink?_concat]
    cases c with
    | route level s =>
      have asked : (fun m => (if (Call.route level s).part = .level m then
            (Call.route level s).sink? else lastSink? calls (.level m)).getD first)
          = Level.Map.set (fun m => (lastSink? calls (.level m)).getD first) level s := by
        funext m
        by_cases eq : m = level
        · subst eq
          simp [Call.part, Call.sink?]
        · have ne : ¬ level = m := fun same => eq same.symm
          simp [Call.part, eq, ne]
      rw [call, Builder.route, List.foldl_append, asked]
      exact ih.route level s
    | config | sink | trap =>
      rw [show [_].filterMap Call.routed? = [] from rfl, List.append_nil]
      exact ih

/-! ## The order of calls -/

/-- Two calls about different things, one right behind the other, **change places**. -/
inductive Exchange : List Call → List Call → Prop where
  | swap (before after : List Call) {a b : Call} (apart : a.part ≠ b.part) :
      Exchange (before ++ a :: b :: after) (before ++ b :: a :: after)

/-- Calls about different things do not hide each other. -/
theorem Exchange.lastSink?_eq {calls others : List Call} (exchange : Exchange calls others)
    (p : Part) : lastSink? calls p = lastSink? others p := by
  obtain ⟨before, after, apart⟩ := exchange
  rename_i a b
  have filter_eq : (before ++ a :: b :: after).filter (·.part = p)
      = (before ++ b :: a :: after).filter (·.part = p) := by
    by_cases about_a : a.part = p
    · have not_about_b : ¬ b.part = p := fun about_b => apart (about_a.trans about_b.symm)
      simp [about_a, not_about_b]
    · simp [List.filter_cons, about_a]
  rw [lastSink?, filter_eq, lastSink?]

/-- However calls change places, every level keeps the sink that was given last for it. -/
theorem destination_eq_of_exchanges (stderr : Sink) {calls others : List Call}
    (exchanges : Relation.EqvGen Exchange calls others) :
    destination stderr calls = destination stderr others := by
  induction exchanges with
  | rel calls others exchange =>
    funext level
    rw [destination, destination, defaultSink, defaultSink, exchange.lastSink?_eq,
      exchange.lastSink?_eq]
  | refl calls => rfl
  | symm calls others _ ih => exact ih.symm
  | trans calls middle others _ _ ih ih' => exact ih.trans ih'

/-- **The routes of a builder.** Whatever sinks a builder was given and in whatever order, its
logger has one sink and one writer for every identity among them, the sink that was given first with
it, and writes the records of a level to the identity that was given last for the level. Levels
share a sink and its writer if and only if these identities are the same; so calls about different
things may change places without any effect on either. -/
theorem routes_ofCalls [Calendar.Formatter] (stderr : Sink) (calls : List Call) (w : World) :
    let l := ((ofCalls stderr calls).build w).1
    let router := l.setup.router
    let asked := destination stderr calls
    l.routes.sinks.Pairwise (fun s t => s.id.same t.id = false) ∧
    (∀ level, l.routes.places level < l.routes.sinks.length ∧
      router.places level < router.writers.length) ∧
    (∀ level, (l.routes.sink level).id.same (asked level).id = true ∧
      (router.writer? level).map Writer.sink = some (l.routes.sink level)) ∧
    (∀ a b, (l.routes.places a = l.routes.places b ↔ (asked a).id.same (asked b).id = true) ∧
      (router.places a = router.places b ↔ (asked a).id.same (asked b).id = true)) ∧
    (∀ id, (l.routes.sinks.find? fun s => s.id.same id)
      = (offered stderr calls).find? fun s => s.id.same id) ∧
    (∀ s ∈ offered stderr calls,
      (router.writers.countP fun writer => writer.sink.id.same s.id) = 1) ∧
    (∀ writer ∈ router.writers, writer.sink ∈ offered stderr calls) ∧
    ∀ others, Relation.EqvGen Exchange calls others →
      let l' := ((ofCalls stderr others).build w).1
      (∀ level, (l'.routes.sink level).id.same (l.routes.sink level).id = true) ∧
      ∀ a b, l'.routes.places a = l'.routes.places b ↔ l.routes.places a = l.routes.places b := by
  intro l router asked
  have serves : l.routes.Serves (offered stderr calls) asked := allRoutes_serves stderr calls
  have merged := serves.merged
  have sinks : router.writers.map Writer.sink = l.routes.sinks := Router.map_sink_writers _ _ _
  have length : router.writers.length = l.routes.sinks.length := by
    rw [← sinks, List.length_map]
  -- levels share a place if their sinks are one, and their sinks are those asked for
  have shared : ∀ a b, l.routes.places a = l.routes.places b ↔
      (asked a).id.same (asked b).id = true := fun a b =>
    (merged.places_eq_iff a b).trans (serves.same_iff a b)
  refine ⟨merged.distinct, fun level => ?_, fun level => ?_, fun a b => ?_, serves.first,
    fun s mem => ?_, fun writer mem => ?_, fun others exchanges => ?_⟩
  · refine ⟨merged.bounded level, ?_⟩
    rw [length]
    exact merged.bounded level
  · refine ⟨serves.served level, ?_⟩
    have writer : router.writer? level = _ := merged.writer?_build _ _ level
    rw [writer, Option.map_some]
  · exact ⟨shared a b, shared a b⟩
  · have counted := serves.countP_same mem
    rw [← sinks, List.countP_map] at counted
    exact counted
  · have kept : writer.sink ∈ l.routes.sinks := sinks ▸ List.mem_map_of_mem mem
    exact serves.mem_offered kept
  · intro l'
    have serves' : l'.routes.Serves (offered stderr others) (destination stderr others) :=
      allRoutes_serves stderr others
    -- exchanged calls ask for the same sinks
    have asked_eq : destination stderr others = asked :=
      (destination_eq_of_exchanges stderr exchanges).symm
    rw [asked_eq] at serves'
    refine ⟨fun level => ?_, fun a b => ?_⟩
    · exact SinkId.same_trans (serves'.served level) (SinkId.same_symm (serves.served level))
    · rw [shared a b, serves'.merged.places_eq_iff, serves'.same_iff]

/-- The default sink is given behind a route to another spelling of its path, and then in front of
all routes. -/
theorem routes_ofCalls_moved :
    letI := Calendar.Formatter.verbatim
    let stderr := Sink.reliable 0 .stderr
    let file := Sink.reliable 1 (.path "log/app.log")
    let again := Sink.reliable 2 (.path "log//app.log")
    let calls := [.route .error again, .route .warn stderr, .sink file]
    let others := [.sink file, .route .warn stderr, .route .error again]
    let l := ((ofCalls stderr calls).build {}).1
    let l' := ((ofCalls stderr others).build {}).1
    Relation.EqvGen Exchange calls others ∧
    l.routes.places .error = l.routes.places .info ∧
    l'.routes.places .error = l'.routes.places .info ∧
    l.routes.places .warn ≠ l.routes.places .info := by
  let _ := Calendar.Formatter.verbatim
  intro stderr file again calls others l l'
  have exchanges : Relation.EqvGen Exchange calls others := by
    refine .trans _ _ _ (.rel _ _ (.swap [.route .error again] [] ?_))
      (.trans _ _ _ (.rel _ _ (.swap [] [.route .warn stderr] ?_))
        (.rel _ _ (.swap [.sink file] [] ?_)))
    · simp [Call.part]
    · simp [Call.part]
    · simp [Call.part]
  obtain ⟨-, -, -, shared, -, -, -, moved⟩ := routes_ofCalls stderr calls {}
  have one_file : l.routes.places .error = l.routes.places .info :=
    (shared .error .info).1.2 (by decide +kernel)
  refine ⟨exchanges, one_file, ((moved others exchanges).2 .error .info).2 one_file, fun eq => ?_⟩
  have same := (shared .warn .info).1.1 eq
  revert same
  decide +kernel

end Builder

end Logline
