import Logline.Calendar.Zone

/-! # Moments and formatters

A **pattern** is a text in which directives stand for the parts of a date and time. Which directives
there are, and which patterns have no text at all, is up to a **formatter**. Nothing here depends on
the choice of one.

* `Moment` — an instant in a zone
* `Formatter` — the text of every moment in every pattern
* `Formatter.Uniform` — formatters that refuse a pattern at all instants or at none
* `Formatter.verbatim` — a formatter without directives
-/

namespace Logline.Calendar

/-- An instant in milliseconds, and the zone in which it is shown. -/
structure Moment where
  millis : Int
  zone : Zone

/-- The date and time of day of a moment. -/
def Moment.civil (m : Moment) : Civil := .ofMillis (m.millis + 1000 * m.zone.offsetAt m.millis)

/-- What writes moments in patterns. -/
class Formatter where
  /-- The text of a moment in a pattern, or in words what is wrong with the pattern. -/
  format : (pattern : String) → Moment → Except String String

namespace Formatter

section Refusals
variable [Formatter]

/-- What is wrong with a pattern at a moment, in words. -/
def fault? (pattern : String) (m : Moment) : Option String :=
  match format pattern m with
  | .ok _ => none
  | .error words => some words

/-- A pattern is **accepted** in a zone if all instants have a text in it. -/
def Accepts (pattern : String) (zone : Zone) : Prop :=
  ∀ millis, fault? pattern ⟨millis, zone⟩ = none

/-- A pattern is **refused** in a zone if no instant has a text in it. -/
def Refuses (pattern : String) (zone : Zone) : Prop :=
  ∀ millis, (fault? pattern ⟨millis, zone⟩).isSome

/-- A formatter is **uniform** if it does not depend on the instant whether a pattern has a text. -/
def Uniform : Prop :=
  ∀ pattern zone millis millis',
    (fault? pattern ⟨millis, zone⟩).isSome = (fault? pattern ⟨millis', zone⟩).isSome

/-- A uniform formatter accepts what it has one text for. -/
theorem Uniform.accepts_iff (uniform : Uniform) {pattern : String} {zone : Zone} (millis : Int) :
    Accepts pattern zone ↔ fault? pattern ⟨millis, zone⟩ = none := by
  refine ⟨fun accepts => accepts millis, fun text millis' => ?_⟩
  rw [← Option.isNone_iff_eq_none, ← Option.not_isSome, uniform pattern zone millis' millis, text]
  rfl

/-- A uniform formatter refuses what it has no text for once. -/
theorem Uniform.refuses_iff (uniform : Uniform) {pattern : String} {zone : Zone} (millis : Int) :
    Refuses pattern zone ↔ (fault? pattern ⟨millis, zone⟩).isSome :=
  ⟨fun refuses => refuses millis, fun fault millis' =>
    (uniform pattern zone millis' millis).trans fault⟩

end Refusals

/-- A formatter without directives: a pattern is its own text, unless a percent sign is in it, which
would begin one. -/
@[reducible] def verbatim : Formatter where
  format pattern _ :=
    if '%' ∈ pattern.toList then
      .error ("strftime formatting failed: invalid format string, expected byte after `%`, "
        ++ "but found end of format string")
    else .ok pattern

/-- Whether a pattern is its own text does not depend on the instant. -/
theorem uniform_verbatim : @Uniform verbatim := fun _ _ _ _ => rfl

end Formatter

end Logline.Calendar
