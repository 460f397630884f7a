import Logline.Level
import Logline.Sink

/-! # Routes

**Routes** say which sink the records of a level go to. There is one sink for each identity: the
first that was given with it.

* `Routes.ofSink` — every level to one sink
* `Routes.route` — one level to a sink
* `Routes.sink` — the sink of a level
-/

namespace Logline

/-- Sinks, and the place of every level's sink among them. -/
structure Routes where
  /-- The sink of the levels that have no route. -/
  first : Sink
  /-- The other sinks, in the order in which they were given. -/
  others : List Sink
  /-- The place of a level's sink, `first` being at place zero. -/
  places : Level.Map Nat

namespace Routes

/-- Every level to one sink. -/
def ofSink (s : Sink) : Routes := ⟨s, [], fun _ => 0⟩

/-- The sinks, one for each identity. -/
def sinks (r : Routes) : List Sink := r.first :: r.others

/-- The place of the sink with an identity. -/
def place? (r : Routes) (id : SinkId) : Option Nat := r.sinks.findIdx? fun s => s.id.same id

/-- One level to a sink, in place of where it went before. The sink is new only if no sink has its
identity. -/
def route (r : Routes) (level : Level) (s : Sink) : Routes :=
  match r.place? s.id with
  | some i => { r with places := r.places.set level i }
  | none =>
    { r with others := r.others ++ [s], places := r.places.set level r.sinks.length }

/-- The sink of a level. -/
def sink (r : Routes) (level : Level) : Sink := (r.sinks[r.places level]?).getD r.first

end Routes

end Logline
