import Logline.Pipeline
import Logline.Router

/-! # Loggers

A **logger** lays out events and routes them to sinks. The pipeline and the router that a
configuration leads to form a **setup**, which is installed as a whole; a new configuration builds a
new setup for the same routes.

* `Setup.build` — the setup of a configuration
* `Logger.reconfigure` — another configuration
* `Logger.logEvent`, `Logger.flush` — the work of a logger
* `Logger.log` — an event from a template and its arguments
-/

namespace Logline

/-- What a configuration leads to. -/
structure Setup where
  pipeline : Pipeline
  router : Router

/-- The setup of a configuration. Settings that cannot be used are reported, the charset first. -/
def Setup.build [Calendar.Formatter] (c : Config) (routes : Routes) (trap : Trap) (w : World) :
    Setup × World :=
  let (charset, charsetReport) := Charset.resolve c.charset
  let (pipeline, patternReport) := Pipeline.build c w.environment
  (⟨pipeline, Router.build routes charset trap⟩,
    w.reportAll trap (charsetReport.toList ++ patternReport.toList))

/-- A logger. -/
structure Logger where
  /-- The setup that is installed. -/
  setup : Setup
  /-- The configuration that the logger says is in effect. -/
  config : Config
  routes : Routes
  trap : Trap

namespace Logger

/-- A new logger. -/
def build [Calendar.Formatter] (c : Config) (routes : Routes) (trap : Trap) (w : World) :
    Logger × World :=
  let (setup, w) := Setup.build c routes trap w
  (⟨setup, c, routes, trap⟩, w)

/-- Installs a setup. -/
def install (l : Logger) (s : Setup) : Logger := { l with setup := s }

/-- Names another configuration as the one in effect. -/
def announce (l : Logger) (c : Config) : Logger := { l with config := c }

/-- Puts another configuration into effect: its setup is built, installed, and then named. -/
def reconfigure [Calendar.Formatter] (l : Logger) (c : Config) (w : World) : Logger × World :=
  let (setup, w) := Setup.build c l.routes l.trap w
  ((l.install setup).announce c, w)

/-- Where a thread lays out events. -/
def surroundings (t : Thread) (w : World) : Layout.Surroundings :=
  ⟨w.environment, t, w.diagnostics t.number, w.heap⟩

/-- Lays out an event and writes it to the sink of its level. -/
def logEvent (l : Logger) (t : Thread) (e : Event) (w : World) : Logger × World :=
  let (e, pipeline) := l.setup.pipeline.render (surroundings t w) e
  (l.install { l.setup with pipeline }, l.setup.router.write e.level e.buffer w)

/-- Logs an event made from a template and its arguments. -/
def log (l : Logger) (t : Thread) (logger : String) (level : Level) (template : Option String)
    (args : List Value) (throwable : Option ThrowableId) (millis : Int) (w : World) :
    Logger × World :=
  let (e, w) := w.asking fun h attempts =>
    Event.ofTemplate h attempts logger level template args throwable millis
  l.logEvent t e w

/-- Flushes every sink. -/
def flush (l : Logger) (w : World) : World := l.setup.router.flush w

end Logger

end Logline
