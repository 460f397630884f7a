import Logline.Proofs.History.Delivery
import Logline.Proofs.Pipeline.Cell

/-! # Histories of a logger

What a program does with a logger is a list of **acts**. What the logger asks for in a history, in
order, are **demands**: records to write, flushes and reports. Demands are told from the acts, the
first configuration and the backdrop alone, so that no call of a sink has any influence on them;
what they come to is told from the outcomes of the calls.

* `Act`, `Logger.run` — what a program does
* `Demand`, `Demand.perform` — what a logger asks for, and what it looks like from outside
* `Stage` — all that matters at a point of a history
* `Stage.traffic` — the demands of a history
* `Builder.run_build` — the traffic of every history of every logger
* `Builder.run_reconfigure` — a history after another configuration took effect -/

namespace Logline

/-! ## Acts -/

/-- Something that a program does. -/
inductive Act where
  /-- It logs an event. -/
  | log (t : Thread) (e : Event)
  /-- It logs an event made from a template and its arguments. -/
  | message (t : Thread) (logger : String) (level : Level) (template : Option String)
      (args : List Value) (throwable : Option ThrowableId) (millis : Int)
  /-- It flushes the sinks. -/
  | flush
  /-- It puts a configuration into effect. -/
  | reconfigure (c : Config)
  /-- It gives an environment variable a value, or takes it away. -/
  | setVariable (name : String) (value : Option EnvironmentValue)
  /-- It changes the diagnostic context of a thread. -/
  | changeContext (t : Thread) (f : Context → Context)

namespace Logger

/-- A logger and the world after something was done. -/
def act [Calendar.Formatter] : Logger × World → Act → Logger × World
  | (l, w), .log t e => l.logEvent t e w
  | (l, w), .message t logger level template args throwable millis =>
    l.log t logger level template args throwable millis w
  | (l, w), .flush => (l, l.flush w)
  | (l, w), .reconfigure c => l.reconfigure c w
  | (l, w), .setVariable name value =>
    (l, { w with environment := w.environment.set name value })
  | (l, w), .changeContext t f => (l, { w with diagnostics := w.diagnostics.update t f })

/-- A logger and the world after a history. -/
def run [Calendar.Formatter] (s : Logger × World) (acts : List Act) : Logger × World :=
  acts.foldl act s

end Logger

/-! ## Demands -/

/-- Something that a logger asks for. -/
inductive Demand where
  /-- To write a record to the sink of a level, and to flush that sink. -/
  | record (level : Level) (bytes : List UInt8)
  /-- To flush every sink. -/
  | flush
  /-- To report an error to a trap. -/
  | report (trap : Trap) (e : Error)

namespace Demand

/-- A journal after a demand: the outcomes of the sinks' calls depend on how often they were called
before. -/
def perform (routes : Routes) (trap : Trap) (journal : List Effect) : Demand → List Effect
  | .record level bytes =>
    let s := routes.sink level
    journal ++ s.recordEffects trap bytes (s.nextWrite journal) (s.nextFlush journal)
  | .flush => routes.sinks.foldl (Sink.flushBehind trap) journal
  | .report trap e => journal ++ [.report trap e]

/-- The call that a demand makes to write: the sink object, its identity and the bytes. -/
def write? (routes : Routes) : Demand → Option (Nat × SinkId × List UInt8)
  | .record level bytes => some ((routes.sink level).handle, (routes.sink level).id, bytes)
  | .flush | .report _ _ => none

end Demand

/-- The call of an effect that writes, whatever its outcome. -/
def Effect.write? : Effect → Option (Nat × SinkId × List UInt8)
  | .write sink id bytes _ => some (sink, id, bytes)
  | .flush _ _ _ | .report _ _ => none

/-- A demand adds to the journal: it makes the call that writes which it asks for, and no other. -/
theorem Demand.exists_perform (routes : Routes) (trap : Trap) (journal : List Effect) (d : Demand) :
    ∃ added, d.perform routes trap journal = journal ++ added ∧
      added.filterMap Effect.write? = (d.write? routes).toList := by
  -- what follows a call that failed is a report
  have no_write : ∀ (failed : Option Error) (report : Error → Error),
      (failed.toList.map fun e => Effect.report trap (report e)).filterMap Effect.write? = [] := by
    rintro (_ | _) report <;> rfl
  cases d with
  | record level bytes =>
    refine ⟨_, rfl, ?_⟩
    rw [Sink.recordEffects, List.filterMap_append, List.filterMap_append, no_write]
    split <;> rfl
  | report trap e => exact ⟨[.report trap e], rfl, rfl⟩
  | flush =>
    rw [perform]
    -- flushes, sink by sink
    generalize routes.sinks = sinks
    induction sinks generalizing journal with
    | nil => exact ⟨[], (List.append_nil _).symm, rfl⟩
    | cons s sinks ih =>
      obtain ⟨added, journal', no_writes⟩ := ih (s.flushBehind trap journal)
      refine ⟨s.flushEffects trap (s.nextFlush journal) ++ added, ?_, ?_⟩
      · rw [List.foldl_cons, journal', Sink.flushBehind, List.append_assoc]
      · rw [List.filterMap_append, no_writes, Sink.flushEffects, List.filterMap_cons, no_write]
        rfl

/-- Demands add to the journal: the calls that write are the ones that they ask for, in order,
whatever comes of the calls. -/
theorem Demand.exists_foldl_perform (routes : Routes) (trap : Trap) (ds : List Demand)
    (journal : List Effect) :
    ∃ added, ds.foldl (perform routes trap) journal = journal ++ added ∧
      added.filterMap Effect.write? = ds.filterMap (write? routes) := by
  induction ds generalizing journal with
  | nil => exact ⟨[], (List.append_nil _).symm, rfl⟩
  | cons d ds ih =>
    obtain ⟨first, journal', write⟩ := d.exists_perform routes trap journal
    obtain ⟨rest, journal'', writes⟩ := ih (d.perform routes trap journal)
    refine ⟨first ++ rest, ?_, ?_⟩
    · rw [List.foldl_cons, journal'', journal', List.append_assoc]
    · rw [List.filterMap_append, write, writes, List.filterMap_cons]
      cases d.write? routes <;> rfl

/-! ## Stages -/

/-- What a program shares, but for what can be seen from outside. -/
structure Backdrop where
  heap : Heap
  environment : Environment
  diagnostics : Diagnostics
  attempts : List Attempt
  processTrap : Trap

/-- The backdrop of a world. -/
def World.backdrop (w : World) : Backdrop :=
  ⟨w.heap, w.environment, w.diagnostics, w.attempts, w.processTrap⟩

/-- Where a thread lays out events. -/
def Backdrop.surroundings (b : Backdrop) (t : Thread) : Layout.Surroundings :=
  ⟨b.environment, t, b.diagnostics t.number, b.heap⟩

/-- A point of a history. -/
structure Stage where
  /-- The configuration in effect. -/
  config : Config
  /-- The environment in which it took effect. -/
  start : Environment
  /-- The events that were laid out under it. -/
  laidOut : List (Layout.Surroundings × Event)
  backdrop : Backdrop

namespace Stage

/-- A configuration takes effect. -/
def inEffect (c : Config) (b : Backdrop) : Stage := ⟨c, b.environment, [], b⟩

/-- The logger at a stage. -/
def logger [Calendar.Formatter] (m : Stage) (routes : Routes) (trap : Trap) : Logger where
  setup :=
    { pipeline := (Pipeline.build m.config m.start).1.after m.laidOut
      router := Router.build routes (Charset.resolve m.config.charset).1 trap }
  config := m.config
  routes := routes
  trap := trap

/-- The stage after an event was laid out. -/
def layOut (m : Stage) (t : Thread) (e : Event) : Stage :=
  { m with laidOut := m.laidOut ++ [(m.backdrop.surroundings t, e)] }

/-- The record of an event: a new pipeline of the configuration in effect lays it out, and it is
encoded in the charset of that configuration. -/
def record [Calendar.Formatter] (m : Stage) (t : Thread) (e : Event) : Demand :=
  .record e.level ((Charset.resolve m.config.charset).1.encode
    ((Pipeline.build m.config m.start).1.render (m.backdrop.surroundings t) e).1.buffer)

/-- The reports of settings that cannot be used. -/
def complaints [Calendar.Formatter] (trap : Trap) (c : Config) (e : Environment) : List Demand :=
  ((Charset.resolve c.charset).2.toList ++ (Pipeline.build c e).2.toList).map (.report trap)

/-- The event that is made from a template and its arguments, and the attempts after it. -/
def compose (m : Stage) (logger : String) (level : Level) (template : Option String)
    (args : List Value) (throwable : Option ThrowableId) (millis : Int) : Event × List Attempt :=
  Event.ofTemplate m.backdrop.heap m.backdrop.attempts logger level template args throwable millis

/-- The stage after something was done. -/
def next (m : Stage) : Act → Stage
  | .log t e => m.layOut t e
  | .message t logger level template args throwable millis =>
    let made := m.compose logger level template args throwable millis
    { m.layOut t made.1 with backdrop := { m.backdrop with attempts := made.2 } }
  | .flush => m
  | .reconfigure c => inEffect c m.backdrop
  | .setVariable name value =>
    { m with backdrop :=
        { m.backdrop with environment := m.backdrop.environment.set name value } }
  | .changeContext t f =>
    { m with backdrop := { m.backdrop with diagnostics := m.backdrop.diagnostics.update t f } }

/-- What a logger asks for when something is done. -/
def demands [Calendar.Formatter] (trap : Trap) (m : Stage) : Act → List Demand
  | .log t e => [m.record t e]
  | .message t logger level template args throwable millis =>
    let made := m.compose logger level template args throwable millis
    ((made.2.drop m.backdrop.attempts.length).filterMap Attempt.report?).map
        (.report m.backdrop.processTrap)
      ++ [m.record t made.1]
  | .flush => [.flush]
  | .reconfigure c => complaints trap c m.backdrop.environment
  | .setVariable _ _ | .changeContext _ _ => []

/-- The stage after a history. -/
def after (m : Stage) (acts : List Act) : Stage := acts.foldl next m

/-- What a logger asks for in a history. -/
def traffic [Calendar.Formatter] (trap : Trap) (m : Stage) : List Act → List Demand
  | [] => []
  | a :: acts => m.demands trap a ++ (m.next a).traffic trap acts

end Stage

/-! ## What a logger does -/

/-- A logger and a world **stand at** a stage if the logger is the one of the stage and the world
has its backdrop. -/
structure StandsAt [Calendar.Formatter] (routes : Routes) (trap : Trap) (m : Stage)
    (s : Logger × World) : Prop where
  logger : s.1 = m.logger routes trap
  backdrop : s.2.backdrop = m.backdrop

variable {routes : Routes} {trap : Trap} {m : Stage}

/-- Reports are added to a journal as they are. -/
theorem foldl_perform_report (journal : List Effect) (es : List Error) (trap' : Trap) :
    (es.map (.report trap')).foldl (Demand.perform routes trap) journal
      = journal ++ es.map (.report trap') := by
  induction es generalizing journal with
  | nil => exact (List.append_nil _).symm
  | cons e es ih =>
    rw [List.map_cons, List.foldl_cons, ih, Demand.perform, List.append_assoc,
      List.singleton_append, List.map_cons]

namespace StandsAt

variable [Calendar.Formatter]

/-- A logger that was just built stands at the stage at which its configuration takes effect. -/
theorem build (routes : Routes) (trap : Trap) (c : Config) (w : World) :
    StandsAt routes trap (.inEffect c w.backdrop) (Logger.build c routes trap w) ∧
    (Logger.build c routes trap w).2.journal
      = (Stage.complaints trap c w.environment).foldl (Demand.perform routes trap) w.journal := by
  have world : (Logger.build c routes trap w).2 = w.addAll
      (((Charset.resolve c.charset).2.toList ++ (Pipeline.build c w.environment).2.toList).map
        (.report trap)) :=
    World.reportAll_eq _ _ _
  refine ⟨⟨rfl, ?_⟩, ?_⟩
  · rw [world]
    rfl
  · rw [world, Stage.complaints, foldl_perform_report, World.journal_addAll]

/-- Another configuration leads to the logger that it would lead to from the beginning. -/
theorem reconfigure_eq_build {s : Logger × World} (stands : StandsAt routes trap m s) (c : Config) :
    s.1.reconfigure c s.2 = Logger.build c routes trap s.2 := by
  rw [stands.logger]
  rfl

/-- What logging an event comes to: a new pipeline would lay the event out in the same way. -/
theorem logEvent (merged : routes.Merged) {l : Logger} {w : World}
    (stands : StandsAt routes trap m (l, w)) (t : Thread) (e : Event) :
    StandsAt routes trap (m.layOut t e) (l.logEvent t e w) ∧
    (l.logEvent t e w).2.journal = (m.record t e).perform routes trap w.journal := by
  have surroundings : Logger.surroundings t w = m.backdrop.surroundings t := by
    rw [← stands.backdrop]
    rfl
  obtain rfl : l = m.logger routes trap := stands.logger
  -- whatever was laid out before does not show
  have fresh := Pipeline.render_after m.config m.start m.laidOut (m.backdrop.surroundings t) e
  have level : ((Pipeline.build m.config m.start).1.render (m.backdrop.surroundings t) e).1.level
      = e.level := Pipeline.layOut_level _ _ _ _
  have world : ((m.logger routes trap).logEvent t e w).2
      = (Router.build routes (Charset.resolve m.config.charset).1 trap).write e.level
        ((Pipeline.build m.config m.start).1.render (m.backdrop.surroundings t) e).1.buffer w := by
    rw [Logger.logEvent]
    dsimp only [Stage.logger]
    rw [surroundings, fresh, level]
  rw [Router.write_build merged] at world
  refine ⟨⟨?_, ?_⟩, ?_⟩
  · rw [Logger.logEvent, surroundings]
    simp only [Stage.logger, Stage.layOut, Logger.install, Pipeline.after, List.foldl_append,
      List.foldl_cons, List.foldl_nil]
  · rw [world]
    exact stands.backdrop
  · rw [world]
    rfl

/-- What a flush comes to: every sink is flushed once, in order, whichever of them fail. -/
theorem flush {l : Logger} {w : World} (stands : StandsAt routes trap m (l, w)) :
    l.flush w = { w with journal := Demand.flush.perform routes trap w.journal } := by
  obtain rfl : l = m.logger routes trap := stands.logger
  exact Router.flush_build routes _ trap w

/-- What asking arguments for an event comes to. -/
theorem asking {l : Logger} {w : World} (stands : StandsAt routes trap m (l, w))
    (make : Heap → List Attempt → Event × List Attempt) :
    ∃ w', w.asking make = ((make m.backdrop.heap m.backdrop.attempts).1, w') ∧
      StandsAt routes trap { m with backdrop := { m.backdrop with
        attempts := (make m.backdrop.heap m.backdrop.attempts).2 } } (l, w') ∧
      w'.journal = ((((make m.backdrop.heap m.backdrop.attempts).2.drop
        m.backdrop.attempts.length).filterMap Attempt.report?).map
          (.report m.backdrop.processTrap)).foldl (Demand.perform routes trap) w.journal := by
  have backdrop : w.backdrop = m.backdrop := stands.backdrop
  refine ⟨(w.asking make).2, ?_, ⟨stands.logger, ?_⟩, ?_⟩
  · rw [← backdrop]
    rfl
  · rw [World.asking_eq, ← backdrop]
    rfl
  · rw [foldl_perform_report, World.asking_eq, ← backdrop]
    rfl

/-- **One act.** What is done leads to the next stage, and the journal goes on with what the logger
asks for. -/
theorem act (merged : routes.Merged) {s : Logger × World} (stands : StandsAt routes trap m s)
    (a : Act) :
    StandsAt routes trap (m.next a) (Logger.act s a) ∧
    (Logger.act s a).2.journal
      = (m.demands trap a).foldl (Demand.perform routes trap) s.2.journal := by
  obtain ⟨l, w⟩ := s
  cases a with
  | log t e => exact stands.logEvent merged t e
  | message t logger level template args throwable millis =>
    -- the arguments are asked first, and then the event is logged as any other one
    obtain ⟨w', made, asked, journal⟩ := stands.asking fun h attempts =>
      Event.ofTemplate h attempts logger level template args throwable millis
    obtain ⟨logged, journal'⟩ := asked.logEvent merged t
      (m.compose logger level template args throwable millis).1
    rw [Logger.act, Logger.log, made, Stage.demands, List.foldl_append]
    refine ⟨logged, journal'.trans ?_⟩
    rw [journal]
    rfl
  | flush =>
    refine ⟨⟨stands.logger, ?_⟩, ?_⟩
    · rw [Logger.act, stands.flush]
      exact stands.backdrop
    · rw [Logger.act, stands.flush]
      rfl
  | reconfigure c =>
    have built := StandsAt.build routes trap c w
    rw [Logger.act, stands.reconfigure_eq_build c, Stage.next, Stage.demands, ← stands.backdrop]
    exact built
  | setVariable name value =>
    refine ⟨⟨stands.logger, ?_⟩, rfl⟩
    rw [Stage.next, ← stands.backdrop]
    rfl
  | changeContext t f =>
    refine ⟨⟨stands.logger, ?_⟩, rfl⟩
    rw [Stage.next, ← stands.backdrop]
    rfl

/-- **A whole history.** -/
theorem run (merged : routes.Merged) {s : Logger × World} (stands : StandsAt routes trap m s)
    (acts : List Act) :
    StandsAt routes trap (m.after acts) (Logger.run s acts) ∧
    (Logger.run s acts).2.journal
      = (m.traffic trap acts).foldl (Demand.perform routes trap) s.2.journal := by
  induction acts generalizing m s with
  | nil => exact ⟨stands, rfl⟩
  | cons a acts ih =>
    obtain ⟨next, journal⟩ := stands.act merged a
    obtain ⟨last, journal'⟩ := ih next
    refine ⟨last, ?_⟩
    rw [Stage.traffic, List.foldl_append, ← journal]
    exact journal'

/-- **A whole history of a new logger.** -/
theorem run_builder (b : Builder) (w : World) (acts : List Act) :
    StandsAt b.allRoutes b.trap ((Stage.inEffect b.config w.backdrop).after acts)
      (Logger.run (b.build w) acts) ∧
    (Logger.run (b.build w) acts).2.journal
      = (Stage.complaints b.trap b.config w.environment
          ++ (Stage.inEffect b.config w.backdrop).traffic b.trap acts).foldl
            (Demand.perform b.allRoutes b.trap) w.journal := by
  obtain ⟨built, complaints⟩ := StandsAt.build b.allRoutes b.trap b.config w
  obtain ⟨stands, journal⟩ := built.run b.allRoutes_merged acts
  rw [List.foldl_append, ← complaints]
  exact ⟨stands, journal⟩

end StandsAt

/-- **The traffic of a logger.** What a logger asks for is told from its configuration and from what
is done, whichever calls of its sinks fail, and the failures leave no trace in the logger. A record
is written once to the sink of its level, in the layout and the charset of the configuration in
effect, and a flush goes to every sink; no two sinks stand for one place. -/
theorem Builder.run_build [Calendar.Formatter] (b : Builder) (w : World) (acts : List Act) :
    let start := Stage.inEffect b.config w.backdrop
    let demands := Stage.complaints b.trap b.config w.environment ++ start.traffic b.trap acts
    let after := Logger.run (b.build w) acts
    after.1 = (start.after acts).logger b.allRoutes b.trap ∧
    after.2.backdrop = (start.after acts).backdrop ∧
    after.2.journal = demands.foldl (Demand.perform b.allRoutes b.trap) w.journal ∧
    (∃ added, after.2.journal = w.journal ++ added ∧
      added.filterMap Effect.write? = demands.filterMap (Demand.write? b.allRoutes)) ∧
    b.allRoutes.sinks.Pairwise (fun s t => s.id.same t.id = false) ∧
    ∀ level, b.allRoutes.sink level ∈ b.allRoutes.sinks := by
  obtain ⟨⟨logger, backdrop⟩, journal⟩ := StandsAt.run_builder b w acts
  obtain ⟨added, performed, writes⟩ := Demand.exists_foldl_perform b.allRoutes b.trap
    (Stage.complaints b.trap b.config w.environment
      ++ (Stage.inEffect b.config w.backdrop).traffic b.trap acts) w.journal
  exact ⟨logger, backdrop, journal, ⟨added, journal.trans performed, writes⟩,
    b.allRoutes_merged.distinct, b.allRoutes_merged.sink_mem⟩

/-- **Another configuration.** Whatever was done with a logger before, a configuration that is put
into effect leads to what it leads to in a new logger with the same routes and trap: the same
reports and the same calls of the sinks, now and later. They are told from that configuration and
from the backdrop at that time, so nothing is left of the configurations before it. -/
theorem Builder.run_reconfigure [Calendar.Formatter] (b : Builder) (w : World)
    (earlier : List Act) (c : Config) (later : List Act) :
    let now := Logger.run (b.build w) earlier
    let kept := Logger.run (now.1.reconfigure c now.2) later
    let fresh := Logger.run ((b.withConfig c).build now.2) later
    let demands := Stage.complaints b.trap c now.2.environment
      ++ (Stage.inEffect c now.2.backdrop).traffic b.trap later
    kept = fresh ∧
    kept.2.journal = demands.foldl (Demand.perform b.allRoutes b.trap) now.2.journal ∧
    ∃ added, kept.2.journal = now.2.journal ++ added ∧
      fresh.2.journal = now.2.journal ++ added := by
  intro now kept fresh demands
  have stands := (StandsAt.run_builder b w earlier).1
  have same : kept = fresh := congrArg (Logger.run · later) (stands.reconfigure_eq_build c)
  have journal := (StandsAt.run_builder (b.withConfig c) now.2 later).2
  obtain ⟨added, performed, -⟩ :=
    Demand.exists_foldl_perform b.allRoutes b.trap demands now.2.journal
  rw [same]
  exact ⟨rfl, journal, added, journal.trans performed, journal.trans performed⟩

end Logline
