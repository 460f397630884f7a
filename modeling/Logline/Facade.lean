import Logline.Logger

/-! # The logging facade

Records of the common logging facade come with a target, a level and **arguments**: a constant text,
or a conversion that has still to be run. The text of the arguments is the message; it is never read
as a template.

* `Facade.Record` — such a record
* `Facade.log` — logs it
* `Application` — the logger of a program and its connection to the facade
* `Application.logger_applyAll` — the logger that is set first stays
-/

namespace Logline

namespace Facade

/-- The arguments of a record. -/
inductive Arguments where
  | constant (text : String)
  | formatted (c : Conversion)
  deriving DecidableEq, Repr

/-- A record of the facade. -/
structure Record where
  target : String
  level : Level
  args : Arguments
  deriving DecidableEq, Repr

/-- The message of a record, and the attempts after it. -/
def message (attempts : List Attempt) : Arguments → String × List Attempt
  | .constant text => (text, attempts)
  | .formatted c =>
    let r := (Rendering.note ⟨"", [], attempts⟩ (.conversion c)).put c.text
    (r.out, r.attempts)

/-- Every record is wanted. -/
def enabled (_ : Logger) (_ : Record) : Bool := true

/-- Logs a record. -/
def log (l : Logger) (t : Thread) (r : Record) (millis : Int) (w : World) : Logger × World :=
  let (text, w) := w.asking fun _ attempts => message attempts r.args
  l.logEvent t (.ofText r.target r.level (some text) none millis) w

end Facade

/-- The logger of a program, which is set once, and whether it is connected to the facade. -/
structure Application where
  logger : Option Logger
  connected : Bool

namespace Application

/-- Sets the logger and says whether there was none before; a logger is never replaced. -/
def apply (p : Application) (l : Logger) : Application × Bool :=
  match p.logger with
  | none => ({ p with logger := some l }, true)
  | some _ => (p, false)

/-- **The first logger stays.** Of loggers that are set one after the other it is the first one,
unless there was one before. -/
theorem logger_applyAll (p : Application) (ls : List Logger) :
    (ls.foldl (fun p l => (p.apply l).1) p).logger = p.logger.or ls.head? := by
  induction ls generalizing p with
  | nil => exact (Option.or_none).symm
  | cons l ls ih =>
    rw [List.foldl_cons, ih, List.head?_cons]
    cases set : p.logger with
    | none => simp [apply, set]
    | some first => simp [apply, set]

/-- Connects to the facade and says whether that was still to be done. -/
def connect (p : Application) : Application × Bool := ({ p with connected := true }, !p.connected)

/-- The least severe level that the facade lets through. -/
def maxLevel (p : Application) : Option Level := if p.connected then some .trace else none

/-- Whether the facade's record is wanted. -/
def enabled (p : Application) (r : Facade.Record) : Bool :=
  match p.logger with
  | some l => Facade.enabled l r
  | none => false

/-- Logs a record of the facade, where there is a logger. -/
def log (p : Application) (t : Thread) (r : Facade.Record) (millis : Int) (w : World) :
    Application × World :=
  match p.logger with
  | some l =>
    let (l, w) := Facade.log l t r millis w
    ({ p with logger := some l }, w)
  | none => (p, w)

/-- Flushes the logger, where there is one. -/
def flush (p : Application) (w : World) : World := p.logger.elim w (Logger.flush · w)

end Application

end Logline
