import Logline.Charset
import Logline.Routes
import Logline.World

/-! # Writers and routers

A **writer** writes laid out records to one sink in a charset, each followed by a flush. A
**router** has one writer for each sink of some routes. A call that fails is reported and otherwise
ignored.

* `Writer.write`, `Writer.flush` — a record, and a flush on its own
* `Router.write`, `Router.flush` — a record of a level, and a flush of every sink
-/

namespace Logline

/-- Writes to one sink. -/
structure Writer where
  sink : Sink
  charset : Charset
  trap : Trap

namespace Writer

/-- The report of a record that was not written. -/
def writeReport (id : SinkId) (bytes : Nat) (e : Error) : Error :=
  (((Error.ofMessage "failed to write log event").withDetail "sink" id.text).withDetail "bytes"
    (toString bytes)).withCause e.toCause

/-- The report of a flush that failed. -/
def flushReport (id : SinkId) (e : Error) : Error :=
  ((Error.ofMessage "failed to flush sink").withDetail "sink" id.text).withCause e.toCause

/-- Writes bytes and flushes, the latter only if the former succeeds. -/
def deliver (s : Sink) (bytes : List UInt8) (w : World) : World × Option Error :=
  match w.write s bytes with
  | (w, none) => w.flush s
  | (w, some e) => (w, some e)

/-- Writes a record. -/
def write (writer : Writer) (text : String) (w : World) : World :=
  let bytes := writer.charset.encode text
  match deliver writer.sink bytes w with
  | (w, none) => w
  | (w, some e) => w.report writer.trap (writeReport writer.sink.id bytes.length e)

/-- Flushes the sink. -/
def flush (writer : Writer) (w : World) : World :=
  match w.flush writer.sink with
  | (w, none) => w
  | (w, some e) => w.report writer.trap (flushReport writer.sink.id e)

end Writer

/-- A writer for each sink, and the place of every level's writer among them. -/
structure Router where
  writers : List Writer
  places : Level.Map Nat

namespace Router

/-- A writer for each sink of some routes. -/
def build (r : Routes) (charset : Charset) (trap : Trap) : Router :=
  ⟨r.sinks.map (⟨·, charset, trap⟩), r.places⟩

/-- The writer of a level. -/
def writer? (r : Router) (level : Level) : Option Writer := r.writers[r.places level]?

/-- Writes a record of a level. -/
def write (r : Router) (level : Level) (text : String) (w : World) : World :=
  match r.writer? level with
  | some writer => writer.write text w
  | none => w

/-- Flushes every sink. -/
def flush (r : Router) (w : World) : World := r.writers.foldl (fun w writer => writer.flush w) w

end Router

end Logline
