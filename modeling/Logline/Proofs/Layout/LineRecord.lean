import Logline.Proofs.Layout.Variables
import Logline.Proofs.Pipeline.Segments
import Logline.Proofs.Trace.Paths

/-! # Records as lines of text

A record of a configuration of lines is made of ten parts, each of them shown under a condition of
its own, in one order for all configurations. What is added to an event depends neither on what was
laid out before nor on what is in the buffer of the event.

* `LineRecord.parts` — the parts of records in order, when each is shown, and its text
* `LineRecord.text` — the text of a record
* `Layout.Line.pairwise_ofConfig` — the segments of a configuration stand in order
* `Layout.Line.join_ofConfig` — what the segments of a configuration add
* `Pipeline.render_line` — records, and the paths to the throwables that they tell of -/

namespace Logline

open Layout

/-- A part of a line: whether it is shown, and its text. -/
structure LinePart where
  shown : Bool
  text : String

/-- The parts that are shown, one after the other. -/
def LinePart.join (parts : List LinePart) : String :=
  String.join ((parts.filter shown).map text)

/-- No parts are the empty text. -/
@[simp] theorem LinePart.join_nil : join [] = "" := rfl

/-- A part that is not shown leaves the others as they are. -/
@[simp] theorem LinePart.join_cons (p : LinePart) (ps : List LinePart) :
    join (p :: ps) = (if p.shown then p.text else "") ++ join ps := by
  rw [join, List.filter_cons]
  cases p.shown with
  | false => exact (String.empty_append).symm
  | true => rw [if_pos rfl, if_pos rfl, List.map_cons, String.join_cons, join]

namespace LineRecord

/-- The parts of a record that shows the environment variables `vs`. -/
def parts [Calendar.Formatter] (c : Config) (vs : List (String × Option String))
    (s : Surroundings) (event : Event) :
    List LinePart :=
  [⟨c.showDateTime, (Timestamps.ofConfig c).1.uncached event.millis ++ " "⟩,
    ⟨c.showImplementationVersion, "[" ++ c.implementationVersion ++ "] "⟩,
    ⟨true, (if c.levelInBrackets then "[" ++ c.levelLabels event.level ++ "]"
      else c.levelLabels event.level) ++ " "⟩,
    ⟨!vs.isEmpty, c.variablesText vs⟩,
    ⟨c.showThreadName, "[" ++ s.thread.label ++ "] "⟩,
    ⟨c.showContext && !s.context.isEmpty,
      "\x7b" ++ ", ".intercalate (s.context.map fun e => e.1 ++ "=" ++ e.2) ++ "\x7d "⟩,
    ⟨c.loggerName != .hidden, c.loggerName.apply event.logger ++ " - "⟩,
    ⟨true, event.message.getD "null"⟩,
    ⟨true, "\n"⟩,
    ⟨event.throwable.isSome, String.join ((event.throwable.map s.heap.traceLines).getD [])⟩]

/-- The text of a record; the environment was `start` when the configuration took effect. -/
def text [Calendar.Formatter] (c : Config) (start : Environment) (s : Surroundings)
    (event : Event) : String :=
  let e := if c.environmentRememberOnStart then start else s.environment
  LinePart.join (parts c (c.shownVariables e.get?) s event)

end LineRecord

namespace Layout.Line

/-! ## Order -/

/-- The orders of the segments of a configuration are some of ten, in order. -/
theorem map_ofConfig_sublist (c : Config) (e : Environment) :
    ((ofConfig c e).map fun l => l.order.index).Sublist [0, 1, 2, 3, 4, 5, 6, 7, 8, 9] := by
  have environment : (((EnvironmentPart.ofConfig? c Selection.text e).toList.map
      Line.environment).map fun l => l.order.index).Sublist [3] := by
    apply map_toList_sublist
    intro part
    rfl
  -- one segment for each of the first seven orders, or none, and then the last three
  have ten : [0, 1, 2, 3, 4, 5, 6, 7, 8, 9]
      = [0] ++ [1] ++ [2] ++ [3] ++ [4] ++ [5] ++ [6] ++ [7, 8, 9] := rfl
  simp only [ofConfig, List.map_append, ten]
  exact (((((((map_shown_sublist _ _ _).append (map_shown_sublist _ _ _)).append
    (List.Sublist.refl _)).append environment).append
    (map_shown_sublist _ _ _)).append (map_shown_sublist _ _ _)).append
    (map_shown_sublist _ _ _)).append (List.Sublist.refl _)

/-- The segments of a configuration are in order. -/
theorem pairwise_ofConfig (c : Config) (e : Environment) :
    (ofConfig c e).Pairwise fun a b => a.order.index ≤ b.order.index := by
  have ten : [0, 1, 2, 3, 4, 5, 6, 7, 8, 9].Pairwise (· ≤ ·) := by decide
  exact List.pairwise_map.1 (ten.sublist (map_ofConfig_sublist c e))

/-! ## Texts -/

variable {s : Scene} {event : Event}

/-- A segment that is shown where its part is. -/
theorem join_shown (condition : Bool) (segment : Line) {t : String}
    (eq : condition = true → segment.text s event = t) :
    String.join ((shown condition segment).map (text s event)) = if condition then t else "" := by
  cases condition with
  | false => rfl
  | true => simp [shown, eq rfl]

/-- The segment of the environment shows the variables, if there are any. -/
theorem join_environment (c : Config) (start : Environment) (s : Scene) (event : Event) :
    let e := if c.environmentRememberOnStart then start else s.environment
    String.join (((EnvironmentPart.ofConfig? c Selection.text start).toList.map
        .environment).map (text s event))
      = if !(c.shownVariables e.get?).isEmpty then c.variablesText (c.shownVariables e.get?)
        else "" := by
  intro e
  have texts : String.join (((EnvironmentPart.ofConfig? c Selection.text start).toList.map
        .environment).map (text s event))
      = ((EnvironmentPart.ofConfig? c Selection.text start).map fun p =>
          p.text Selection.text s.environment).getD "" := by
    cases EnvironmentPart.ofConfig? c Selection.text start with
    | none => rfl
    | some p => simp [text]
  rw [texts, EnvironmentPart.map_text_ofConfig?, Selection.getD_text_ofConfig?,
    Selection.text_selection]
  cases (c.shownVariables e.get?).isEmpty <;> rfl

/-- The segment of the context shows its entries, if there are any. -/
theorem join_context (condition : Bool) (s : Scene) (event : Event) :
    String.join ((shown condition .context).map (text s event))
      = if condition && !s.context.isEmpty then
          "\x7b" ++ ", ".intercalate (s.context.map fun e => e.1 ++ "=" ++ e.2) ++ "\x7d "
        else "" := by
  have segment : text s event .context = contextText s.context := rfl
  rw [join_shown condition .context fun _ => segment]
  cases condition with
  | false => rfl
  | true => cases s.context <;> rfl

/-- A level is shown by its label, in brackets if these are asked for, and a blank. -/
theorem text_level (s : Scene) (event : Event) (labels : Level.Map String) (inBrackets : Bool) :
    text s event (.level labels inBrackets) = (if inBrackets then "[" ++ labels event.level ++ "]"
      else labels event.level) ++ " " := by
  rw [text]
  cases inBrackets with
  | false => rfl
  | true => simp [String.append_assoc]

/-- A throwable is shown by the lines of its trace. -/
theorem text_throwable (s : Scene) (event : Event) : text s event .throwable =
    if event.throwable.isSome then String.join ((event.throwable.map s.heap.traceLines).getD [])
    else "" := by
  rw [text]
  cases event.throwable with
  | none => rfl
  | some id => exact Heap.traceText_eq s.heap id

/-- What the segments of a configuration add is the text of a record. -/
theorem join_ofConfig [Calendar.Formatter] (c : Config) (start : Environment) (s : Surroundings)
    (event : Event) {time : String} (shown_time : c.showDateTime = true →
      time = (Timestamps.ofConfig c).1.uncached event.millis) :
    String.join ((ofConfig c start).map (text { s with time } event))
      = LineRecord.text c start s event := by
  simp only [ofConfig, List.map_append, String.join_append]
  -- part by part, in the order in which the segments are made
  rw [join_shown c.showDateTime .dateTime fun shown => by rw [text, shown_time shown],
    join_shown c.showImplementationVersion _ fun _ => rfl, join_environment,
    join_shown c.showThreadName .thread fun _ => rfl, join_context,
    join_shown (c.loggerName != .hidden) _ fun _ => rfl, LineRecord.text, LineRecord.parts]
  simp only [List.map_cons, List.map_nil, String.join_cons, String.join_nil, text_level,
    text_throwable, LinePart.join_cons, LinePart.join_nil, if_true, String.append_assoc,
    String.append_empty]
  rfl

end Layout.Line

namespace Pipeline

/-- The pipeline of a configuration of lines adds the text of the record to an event. -/
theorem render_after_line [Calendar.Formatter] {c : Config} (format : c.format = .text)
    (start : Environment)
    (earlier : List (Surroundings × Event)) (s : Surroundings) (event : Event) :
    (((build c start).1.after earlier).render s event).1
      = event.append (LineRecord.text c start s event) := by
  have layouts : layoutsOf c start = (Line.ofConfig c start).map .line := by
    rw [layoutsOf, format]
  have blind : ∀ s segment, (Layout.line segment).Blind s := by
    intro s segment e buffer
    cases segment <;> rfl
  rw [render_after_of_blind layouts (Line.pairwise_ofConfig c start) blind,
    ← Line.join_ofConfig c start s event fun shown => timeText_build shown start event.millis]
  rfl

/-- **Records as lines of text.** Whatever was laid out before and whatever is in the buffer of an
event, the text of its record is added to the buffer, and nothing else is changed. The lines of a
stack trace are those of a walk that starts at the throwable of the event: every other visit goes on
from one before it, and the path of a visit leads to the throwable that its lines tell of. -/
theorem render_line [Calendar.Formatter] (c : Config) (format : c.format = .text)
    (start : Environment)
    (earlier : List (Surroundings × Event)) (s : Surroundings) (event : Event) :
    (∀ buffer, (((build c start).1.after earlier).render s { event with buffer }).1
      = { event with buffer := buffer ++ LineRecord.text c start s event }) ∧
    ∀ root, (s.heap.walk root).flatMap (Trace.Visit.entries s.heap) = s.heap.trace root ∧
      (∀ v ∈ s.heap.walk root, s.heap.follow root v.path = some v.pending.id) ∧
      ∀ before v after, s.heap.walk root = before ++ v :: after →
        before = [] ∧ v.path = [] ∨
          ∃ owner ∈ before, owner.again = false ∧ ∃ i, v.path = owner.path ++ [i] := by
  refine ⟨fun buffer => ?_, fun root => ⟨?_, ?_, ?_⟩⟩
  · rw [render_after_line format]
    rfl
  · exact s.heap.flatMap_entries_walk root
  · intro v mem
    exact (Heap.placed_of_mem_walk mem).leads
  · intro before v after split
    exact Heap.exists_owner_of_walk split

/-- Two throwables that were set aside for each other, in a record that goes on behind a text. -/
theorem render_line_circle :
    letI := Calendar.Formatter.verbatim
    let c : Config :=
      { levelInBrackets := true, environments := ["A", "B"], showThreadName := false,
        showContext := true, loggerName := .short }
    let h : Heap := { throwables := [⟨"E", none, [], none, [1]⟩, ⟨"S", none, [], none, [0]⟩] }
    let s : Surroundings := ⟨[("A", .text "1")], ⟨0, none⟩, [], h⟩
    let event : Event := .ofText "app::db" .error none (some 0) 0
    c.format = .text ∧
    ((build c []).1.render s { event with buffer := "> " }).1
      = { event with buffer := "> [ERROR] [1] db - null\nE\n\tSuppressed: S\n"
          ++ "\t\tSuppressed: [CIRCULAR REFERENCE: E]\n" } := by
  let _ := Calendar.Formatter.verbatim
  intro c h s event
  have walk : h.walk 0 = [⟨[], ⟨.root, 0, [], 0⟩, false⟩, ⟨[0], ⟨.suppressed, 1, [], 1⟩, false⟩,
      ⟨[0, 0], ⟨.suppressed, 2, [], 0⟩, true⟩] := by
    simp [h, Heap.walk, Trace.visits, Trace.below, Trace.inside, Heap.throwable]
  have record := (render_line c rfl [] [] s event).1 "> "
  refine ⟨rfl, record.trans ?_⟩
  have lines : h.traceLines 0
      = ["E\n", "\tSuppressed: S\n", "\t\tSuppressed: [CIRCULAR REFERENCE: E]\n"] := by
    rw [Heap.traceLines, walk]
    rfl
  simp only [LineRecord.text, LineRecord.parts, event, Event.ofText, Option.map_some,
    Option.getD_some, s, lines]
  rfl

end Pipeline

end Logline
