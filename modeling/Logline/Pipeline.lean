import Logline.Layout.Object
import Logline.Timestamp

/-! # Pipelines

A **pipeline** is a list of layouts in increasing order. It lays out an event by letting each layout
in turn add its text.

* `Layout` — a segment of a line, a segment of a JSON object, or a custom layout
* `Pipeline.ofLayouts` — layouts put in order, layouts of one order as they were given
* `Pipeline.build` — the pipeline of a configuration
* `Pipeline.render` — an event laid out, and the pipeline after it
-/

namespace Logline

/-- Something that adds a text to an event. -/
inductive Layout where
  | line (segment : Layout.Line)
  | object (segment : Layout.Object)
  /-- A layout that sees the event only. -/
  | custom (order : Layout.Order) (text : Event → String)

namespace Layout

/-- The place of a layout. -/
def order : Layout → Order
  | .line segment => segment.order
  | .object segment => segment.order
  | .custom order _ => order

/-- What a layout adds to an event. -/
def text (s : Scene) (e : Event) : Layout → String
  | .line segment => segment.text s e
  | .object segment => segment.text s e
  | .custom _ text => text e

end Layout

/-- Layouts in order, and how they show the time of an event: the timestamps, where the time is
shown, and the cell that remembers the last one. -/
structure Pipeline where
  layouts : List Layout
  timestamps : Option Timestamps
  cell : Option Stamp

namespace Pipeline

/-- Layouts in order, those of one order as they were given. -/
def arrange (layouts : List Layout) : List Layout :=
  layouts.mergeSort fun l l' => l.order.le l'.order

/-- A pipeline of custom layouts. -/
def ofLayouts (layouts : List Layout) : Pipeline := ⟨arrange layouts, none, none⟩

/-- The layouts of a configuration. -/
def layoutsOf (c : Config) (e : Environment) : List Layout :=
  match c.format with
  | .text => (Layout.Line.ofConfig c e).map .line
  | .json => (Layout.Object.ofConfig c e).map .object

/-- The pipeline of a configuration, with the report that is due where its date and time pattern
cannot be used. The environment is read where it is to be remembered. -/
def build [Calendar.Formatter] (c : Config) (e : Environment) : Pipeline × Option Error :=
  let layouts := arrange (layoutsOf c e)
  if c.showDateTime then
    let (timestamps, report) := Timestamps.ofConfig c
    (⟨layouts, some timestamps, none⟩, report)
  else (⟨layouts, none, none⟩, none)

/-- The orders of the layouts. -/
def orders (p : Pipeline) : List Layout.Order := p.layouts.map Layout.order

/-- Lets layouts add their texts to an event. -/
def addAll (s : Layout.Scene) (layouts : List Layout) (e : Event) : Event :=
  layouts.foldl (fun e l => e.append (l.text s e)) e

/-- The text of a time when the cell is seen to hold `seen`, and what is to be stored in it. -/
def respond (p : Pipeline) (seen : Option Stamp) (millis : Int) : String × Option Stamp :=
  match p.timestamps with
  | some t => t.respond seen millis
  | none => ("", none)

/-- An event laid out under the text of its time. -/
def layOut (p : Pipeline) (s : Layout.Surroundings) (time : String) (e : Event) : Event :=
  addAll { s with time } p.layouts e

/-- A pipeline after something was stored in its cell, or nothing was. -/
def store (p : Pipeline) (stored : Option Stamp) : Pipeline := { p with cell := stored.or p.cell }

/-- An event laid out, and the pipeline after it. -/
def render (p : Pipeline) (s : Layout.Surroundings) (e : Event) : Event × Pipeline :=
  let (time, stored) := p.respond p.cell e.millis
  (p.layOut s time e, p.store stored)

end Pipeline

end Logline
