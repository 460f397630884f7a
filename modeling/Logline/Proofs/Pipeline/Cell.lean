import Logline.Pipeline
import Logline.Proofs.Timestamp.Cell

/-! # The cells of pipelines

A pipeline lays an event out under the text of its time, which it works out from its cell. As long
as the cell is sound, the layout does not depend on it.

* `Pipeline.timeText` — the text of a time by the calendar
* `Pipeline.Sound` — a pipeline whose cell is sound
* `Pipeline.render_eq_layOut` — what a sound pipeline lays out
* `Pipeline.after`, `Pipeline.render_after` — a pipeline that has laid out events before -/

namespace Logline.Pipeline

variable {p : Pipeline}

/-- The text of a time by the calendar, where the pipeline shows times. -/
def timeText (p : Pipeline) (millis : Int) : String :=
  match p.timestamps with
  | some t => t.uncached millis
  | none => ""

/-- Whether what is seen in the cell of a pipeline is sound for its timestamps. -/
def SeesSound (p : Pipeline) (seen : Option Stamp) : Prop :=
  ∀ t, p.timestamps = some t → CellSound t seen

/-- A pipeline is **sound** if its cell is. -/
def Sound (p : Pipeline) : Prop := p.SeesSound p.cell

/-- What comes of a configuration, apart from its report. -/
theorem fst_build [Calendar.Formatter] (c : Config) (e : Environment) :
    (build c e).1 = ⟨arrange (layoutsOf c e),
      if c.showDateTime then some (Timestamps.ofConfig c).1 else none, none⟩ := by
  rw [build]
  cases c.showDateTime <;> rfl

/-- Where a configuration shows the time, it shows what the calendar gives. -/
theorem timeText_build [Calendar.Formatter] {c : Config} (shown : c.showDateTime = true)
    (e : Environment) (millis : Int) :
    (build c e).1.timeText millis = (Timestamps.ofConfig c).1.uncached millis := by
  rw [timeText, fst_build, if_pos shown]

/-- A new pipeline is sound. -/
theorem build_sound [Calendar.Formatter] (c : Config) (e : Environment) : (build c e).1.Sound := by
  intro t _
  rw [fst_build]
  exact CellSound.none

/-- What was seen in a sound cell gives the text of the calendar and something sound to store. -/
theorem respond_sound {seen : Option Stamp} (sound : p.SeesSound seen) (millis : Int) :
    (p.respond seen millis).1 = p.timeText millis ∧ p.SeesSound (p.respond seen millis).2 := by
  rw [respond, timeText]
  cases timestamps : p.timestamps with
  | none => exact ⟨rfl, fun t eq => by rw [timestamps] at eq; cases eq⟩
  | some t =>
    have response : (t.respond seen millis).1 = t.uncached millis ∧
        CellSound t (t.respond seen millis).2 := Timestamps.respond_sound (sound t timestamps)
    refine ⟨response.1, fun t' eq => ?_⟩
    rw [timestamps] at eq
    cases eq
    exact response.2

/-- Storing something sound keeps a pipeline sound. -/
theorem store_sound {stored : Option Stamp} (sound : p.Sound) (new : p.SeesSound stored) :
    (p.store stored).Sound :=
  fun t eq => CellSound.or (new t eq) (sound t eq)

/-- A sound pipeline lays out an event under the time that the calendar gives. -/
theorem render_eq_layOut (sound : p.Sound) (s : Layout.Surroundings) (e : Event) :
    (p.render s e).1 = p.layOut s (p.timeText e.millis) e := by
  rw [← (respond_sound sound e.millis).1]
  rfl

/-- A sound pipeline stays sound when it lays out an event. -/
theorem render_sound (sound : p.Sound) (s : Layout.Surroundings) (e : Event) :
    (p.render s e).2.Sound :=
  store_sound sound (respond_sound sound e.millis).2

/-- Laying out an event adds to its buffer and changes nothing else. -/
theorem exists_layOut_eq_append (p : Pipeline) (s : Layout.Surroundings) (time : String)
    (e : Event) : ∃ text, p.layOut s time e = e.append text := by
  rw [layOut, addAll]
  induction p.layouts generalizing e with
  | nil => exact ⟨"", (Event.append_empty e).symm⟩
  | cons l layouts ih =>
    obtain ⟨text, eq⟩ := ih (e.append (l.text { s with time } e))
    refine ⟨l.text { s with time } e ++ text, ?_⟩
    rw [List.foldl_cons, eq, Event.append_append]

/-- Laying out a record leaves its level. -/
@[simp] theorem layOut_level (p : Pipeline) (s : Layout.Surroundings) (time : String) (e : Event) :
    (p.layOut s time e).level = e.level := by
  obtain ⟨text, eq⟩ := p.exists_layOut_eq_append s time e
  rw [eq, Event.append]

/-! ## Pipelines in use -/

/-- A pipeline after it has laid out events, one after the other. -/
def after (p : Pipeline) (earlier : List (Layout.Surroundings × Event)) : Pipeline :=
  earlier.foldl (fun p e => (p.render e.1 e.2).2) p

/-- Laying out events changes neither the layouts of a sound pipeline nor what it takes for the text
of a time. -/
theorem layOut_after {p : Pipeline} (sound : p.Sound)
    (earlier : List (Layout.Surroundings × Event)) :
    (p.after earlier).Sound ∧ (p.after earlier).layouts = p.layouts ∧
      (p.after earlier).timestamps = p.timestamps := by
  induction earlier generalizing p with
  | nil => exact ⟨sound, rfl, rfl⟩
  | cons e earlier ih => exact ih (render_sound sound e.1 e.2)

/-- A pipeline lays out an event as if it had laid out none before. -/
theorem render_after [Calendar.Formatter] (c : Config) (start : Environment)
    (earlier : List (Layout.Surroundings × Event)) (s : Layout.Surroundings) (e : Event) :
    (((build c start).1.after earlier).render s e).1 = ((build c start).1.render s e).1 := by
  have new := build_sound c start
  obtain ⟨sound, layouts, timestamps⟩ := layOut_after new earlier
  have time : ((build c start).1.after earlier).timeText e.millis
      = (build c start).1.timeText e.millis := by
    rw [timeText, timeText, timestamps]
  rw [render_eq_layOut sound, render_eq_layOut new, time, layOut, layOut, layouts]

end Logline.Pipeline
