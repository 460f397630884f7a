import Logline.Logger.Builder
import Mathlib.Logic.Function.Basic

/-! # A logger shared by threads

Threads that share a logger log events and put configurations into effect. Their calls interleave:
a call is a number of steps, and between any two of them the other threads take theirs.

* A **log call** loads the installed setup, looks into the cell of its pipeline, lays the event out
  and encodes it, waits for the lock of the level's sink, writes the bytes in as many pieces as the
  sink likes, flushes, and gives the lock back.
* A **reconfiguration** builds a setup, installs it, and then announces its configuration.

Setups are numbered in the order in which they are built; a setup that is no longer installed goes
on serving the calls that loaded it.

* `SharedLogger` — what the threads share, and how far each of them is
* `SharedLogger.Step` — the steps of one thread
* `SharedLogger.Run` — runs, with their steps in order -/

namespace Logline

namespace SharedLogger

/-- An event to log, and where it is laid out. -/
structure Request where
  surroundings : Layout.Surroundings
  event : Event

/-- What a thread asks of a logger. -/
inductive Call where
  /-- To log an event. -/
  | log (request : Request)
  /-- To put a configuration into effect, in an environment. -/
  | reconfigure (config : Config) (environment : Environment)

/-- The event that a call logs, and where. -/
def Call.request? : Call → Option Request
  | .log request => some request
  | .reconfigure _ _ => none

/-- A setup, and the configuration and environment that it was built from. -/
structure Built where
  config : Config
  environment : Environment
  setup : Setup

/-- A record on its way to a sink: what was asked for, the number of the setup that laid it out,
the sink, and the bytes. -/
structure Parcel where
  request : Request
  number : Nat
  sink : Sink
  bytes : List UInt8

/-- How far a thread is with its call. -/
inductive Phase where
  /-- It is between two calls. -/
  | idle
  /-- It has loaded the setup with a number. -/
  | loaded (request : Request) (number : Nat)
  /-- It has looked into the setup's cell. -/
  | looked (request : Request) (number : Nat) (seen : Option Stamp)
  /-- Its record is encoded, and it waits for the lock. -/
  | encoded (parcel : Parcel)
  /-- It has the lock; `pieces` of its record are written and `rest` is left. -/
  | writing (parcel : Parcel) (pieces : List (List UInt8)) (rest : List UInt8)
  /-- Its record is flushed; it still has the lock. -/
  | flushed (parcel : Parcel)
  /-- It has built the setup with a number. -/
  | built (number : Nat) (config : Config)
  /-- It has installed the setup with a number. -/
  | installed (number : Nat) (config : Config)

/-- A record that is written and flushed: its thread, and the pieces in which it was written. -/
structure Delivery where
  thread : Nat
  parcel : Parcel
  pieces : List (List UInt8)

/-- The writing of a piece of a record. -/
def pieceEffect (s : Sink) (piece : List UInt8) : Effect := .write s.handle s.id piece none

/-- The flush behind a record. -/
def flushEffect (s : Sink) : Effect := .flush s.handle s.id none

/-- What a delivery looks like from outside: its pieces, and a flush behind them. -/
def Delivery.effects (d : Delivery) : List Effect :=
  d.pieces.map (pieceEffect d.parcel.sink) ++ [flushEffect d.parcel.sink]

end SharedLogger

open SharedLogger

/-- A logger that threads share, and how far each thread is. -/
structure SharedLogger where
  /-- The setups that were built, by number. -/
  setups : List Built
  /-- The number of the installed setup. -/
  installed : Nat
  /-- The configuration that the logger says is in effect. -/
  announced : Config
  /-- The thread that has the lock of a sink object, where one has it. -/
  holder : Nat → Option Nat
  /-- What can be seen from outside, in order. -/
  journal : List Effect
  phases : Nat → Phase
  /-- The calls that each thread has yet to begin. -/
  todo : Nat → List Call
  /-- The records that are written and flushed, in order. -/
  delivered : List Delivery

namespace SharedLogger

/-- A new logger, and threads that have their calls before them. -/
def start [Calendar.Formatter] (b : Builder) (e : Environment) (calls : Nat → List Call) :
    SharedLogger :=
  let (logger, w) := b.build { environment := e }
  { setups := [⟨b.config, e, logger.setup⟩]
    installed := 0
    announced := logger.config
    holder := fun _ => none
    journal := w.journal
    phases := fun _ => .idle
    todo := calls
    delivered := [] }

/-- A setup after something was stored in the cell of its pipeline, or nothing was. -/
def Built.store (b : Built) (stored : Option Stamp) : Built :=
  { b with setup := { b.setup with pipeline := b.setup.pipeline.store stored } }

/-- Setups after something was stored in the cell of the one with a number. -/
def store (setups : List Built) (number : Nat) (stored : Option Stamp) : List Built :=
  setups.modify number (Built.store · stored)

/-- A stamp is stored in the cell of one setup, and the others stay as they are. -/
theorem getElem?_store (setups : List Built) (number : Nat) (stored : Option Stamp) (k : Nat) :
    (store setups number stored)[k]?
      = setups[k]?.map fun b => if number = k then b.store stored else b := by
  rw [store, List.getElem?_modify, Option.map_eq_map]

/-- What a step does, as far as it can be told from outside the thread. -/
inductive Action where
  | load
  | look
  | layOut
  | lock
  | write
  | flush
  | unlock
  | build
  /-- The setup with a number is installed. -/
  | install (number : Nat)
  /-- The configuration of the setup with a number is announced. -/
  | announce (number : Nat)
  deriving DecidableEq, Repr

/-- The steps of thread `n`. -/
inductive Step [Calendar.Formatter] (routes : Routes) (trap : Trap) (n : Nat) :
    Action → SharedLogger → SharedLogger → Prop
  /-- A log call begins and loads the installed setup. -/
  | load {s : SharedLogger} {request : Request} {rest : List Call} (idle : s.phases n = .idle)
      (next : s.todo n = .log request :: rest) :
      Step routes trap n .load s
        { s with
          phases := Function.update s.phases n (.loaded request s.installed)
          todo := Function.update s.todo n rest }
  /-- The cell of the setup's pipeline is loaded. -/
  | look {s : SharedLogger} {request : Request} {number : Nat} {b : Built}
      (loaded : s.phases n = .loaded request number) (setup : s.setups[number]? = some b) :
      Step routes trap n .look s
        { s with
          phases := Function.update s.phases n
            (.looked request number b.setup.pipeline.cell) }
  /-- The event is laid out with what was found in the cell, and encoded. The stamp of its time is
  stored, over whatever the cell holds by now. -/
  | layOut {s : SharedLogger} {request : Request} {number : Nat} {seen : Option Stamp} {b : Built}
      {time : String} {stored : Option Stamp} {e : Event} {writer : Writer}
      (looked : s.phases n = .looked request number seen) (setup : s.setups[number]? = some b)
      (response : b.setup.pipeline.respond seen request.event.millis = (time, stored))
      (layout : b.setup.pipeline.layOut request.surroundings time request.event = e)
      (route : b.setup.router.writer? e.level = some writer) :
      Step routes trap n .layOut s
        { s with
          setups := store s.setups number stored
          phases := Function.update s.phases n
            (.encoded ⟨request, number, writer.sink, writer.charset.encode e.buffer⟩) }
  /-- The lock of the sink is taken. -/
  | lock {s : SharedLogger} {p : Parcel} (encoded : s.phases n = .encoded p)
      (free : s.holder p.sink.handle = none) :
      Step routes trap n .lock s
        { s with
          holder := Function.update s.holder p.sink.handle (some n)
          phases := Function.update s.phases n (.writing p [] p.bytes) }
  /-- A piece of the record reaches the sink. -/
  | write {s : SharedLogger} {p : Parcel} {pieces : List (List UInt8)} {piece rest : List UInt8}
      (writing : s.phases n = .writing p pieces (piece ++ rest)) :
      Step routes trap n .write s
        { s with
          journal := s.journal ++ [pieceEffect p.sink piece]
          phases := Function.update s.phases n (.writing p (pieces ++ [piece]) rest) }
  /-- The sink is flushed behind the whole record. -/
  | flush {s : SharedLogger} {p : Parcel} {pieces : List (List UInt8)}
      (writing : s.phases n = .writing p pieces []) :
      Step routes trap n .flush s
        { s with
          journal := s.journal ++ [flushEffect p.sink]
          phases := Function.update s.phases n (.flushed p)
          delivered := s.delivered ++ [⟨n, p, pieces⟩] }
  /-- The lock is given back, and the call returns. -/
  | unlock {s : SharedLogger} {p : Parcel} (flushed : s.phases n = .flushed p) :
      Step routes trap n .unlock s
        { s with
          holder := Function.update s.holder p.sink.handle none
          phases := Function.update s.phases n .idle }
  /-- A reconfiguration begins and builds a setup. Settings that cannot be used are reported. -/
  | build {s : SharedLogger} {c : Config} {e : Environment} {rest : List Call} {setup : Setup}
      {w : World} (idle : s.phases n = .idle) (next : s.todo n = .reconfigure c e :: rest)
      (made : Setup.build c routes trap { environment := e, journal := s.journal } = (setup, w)) :
      Step routes trap n .build s
        { s with
          setups := s.setups ++ [⟨c, e, setup⟩]
          journal := w.journal
          phases := Function.update s.phases n (.built s.setups.length c)
          todo := Function.update s.todo n rest }
  /-- The setup is installed in place of the one that is. -/
  | install {s : SharedLogger} {number : Nat} {c : Config}
      (built : s.phases n = .built number c) :
      Step routes trap n (.install number) s
        { s with
          installed := number
          phases := Function.update s.phases n (.installed number c) }
  /-- The configuration is announced, and the call returns. -/
  | announce {s : SharedLogger} {number : Nat} {c : Config}
      (installed : s.phases n = .installed number c) :
      Step routes trap n (.announce number) s
        { s with
          announced := c
          phases := Function.update s.phases n .idle }

/-- Runs from a state: the steps that were taken, each with its thread, and the state that they lead
to. -/
inductive Run [Calendar.Formatter] (routes : Routes) (trap : Trap) (s : SharedLogger) :
    List (Nat × Action) → SharedLogger → Prop
  | nil : Run routes trap s [] s
  | snoc {steps : List (Nat × Action)} {n : Nat} {a : Action} {s' s'' : SharedLogger} :
      Run routes trap s steps s' → Step routes trap n a s' s'' →
        Run routes trap s (steps ++ [(n, a)]) s''

end SharedLogger

end Logline
