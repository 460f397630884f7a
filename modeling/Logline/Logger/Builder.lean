import Logline.Logger

/-! # Building loggers

A **builder** gathers what a logger is made from, in any order. Routes are applied in the order in
which they were given, over the sink that was given last.
-/

namespace Logline

/-- What a logger is made from. -/
structure Builder where
  config : Config
  /-- The sink of the levels without a route. -/
  sink : Sink
  /-- Levels and their sinks, in the order in which they were given. -/
  routes : List (Level × Sink)
  trap : Trap

namespace Builder

/-- A builder that nothing was given to: a sink on the standard error output and reports there. -/
def standard (stderr : Sink) : Builder := ⟨{}, stderr, [], .standardError⟩

/-- Gives the configuration. -/
def withConfig (b : Builder) (c : Config) : Builder := { b with config := c }

/-- Gives the sink of the levels without a route. -/
def withSink (b : Builder) (s : Sink) : Builder := { b with sink := s }

/-- Gives a level a sink. -/
def route (b : Builder) (level : Level) (s : Sink) : Builder :=
  { b with routes := b.routes ++ [(level, s)] }

/-- Gives the trap. -/
def withTrap (b : Builder) (t : Trap) : Builder := { b with trap := t }

/-- The routes that were given. -/
def allRoutes (b : Builder) : Routes :=
  b.routes.foldl (fun r p => r.route p.1 p.2) (Routes.ofSink b.sink)

/-- The logger. -/
def build [Calendar.Formatter] (b : Builder) (w : World) : Logger × World :=
  Logger.build b.config b.allRoutes b.trap w

end Builder

end Logline
