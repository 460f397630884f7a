import Logline.Layout.Scene

/-! # The environment variables of a record

Lines of text and JSON objects show the same environment variables: those that a configuration
names, in that order, whatever else is in the environment. A variable that has no text is left out
or shown as null.

* `Config.shownVariables` — the variables that are shown, with their texts
* `Config.variablesText`, `Config.variableJson` — how they are shown
* `Selection.read_selection`, `Selection.text_selection` — what a configuration's selection shows
* `Layout.EnvironmentPart.map_text_ofConfig?` — when a segment reads the environment -/

namespace Logline

namespace Config

/-- The environment variables that a configuration shows, with their texts: in the order in which
they are named, without those that have no text, unless these are shown too. -/
def shownVariables (c : Config) (value : String → Option String) : List (String × Option String) :=
  c.environments.filterMap fun name =>
    if (value name).isSome || c.environmentShowNullable then some (name, value name) else none

/-- One variable in a line of text. -/
def variableText (c : Config) (v : String × Option String) : String :=
  (if c.environmentShowName then v.1 ++ "=" else "") ++ v.2.getD "null"

/-- Variables in a line of text. -/
def variablesText (c : Config) (vs : List (String × Option String)) : String :=
  "[" ++ ", ".intercalate (vs.map c.variableText) ++ "] "

/-- One variable as a JSON value. -/
def variableJson (c : Config) (v : String × Option String) : Json :=
  if c.environmentShowName then .object [("name", .string v.1), ("value", Json.ofOption v.2)]
  else Json.ofOption v.2

/-- What a configuration selects, be it nothing. -/
def selection (c : Config) : Selection :=
  ⟨c.environments, c.environmentShowName, c.environmentShowNullable⟩

end Config

namespace Selection

/-- What a selection reads, with something made of every variable, name by name. -/
theorem map_read {α : Type} (s : Selection) (e : Environment) (entry : String × Option String → α) :
    (s.read e).map entry = s.names.filterMap fun name =>
      if (e.get? name).isSome || s.showNullable then some (entry (name, e.get? name))
      else none := by
  rw [read]
  induction s.names with
  | nil => rfl
  | cons name names ih =>
    rw [List.map_cons, List.filter_cons, List.filterMap_cons, ← ih]
    by_cases shown : ((e.get? name).isSome || s.showNullable) = true
    · rw [if_pos shown, if_pos shown, List.map_cons]
    · rw [if_neg shown, if_neg shown]

/-- A configuration's selection reads the variables that are shown. -/
theorem read_selection (c : Config) (e : Environment) :
    c.selection.read e = c.shownVariables e.get? := by
  rw [← List.map_id (c.selection.read e)]
  exact map_read c.selection e id

/-- Variables in a line of text are set off, or nothing is shown where there are none. -/
theorem text_selection (c : Config) (e : Environment) :
    c.selection.text e = if (c.shownVariables e.get?).isEmpty then ""
      else c.variablesText (c.shownVariables e.get?) := by
  rw [text, read_selection]
  cases c.shownVariables e.get? <;> rfl

/-- A line without a selection is one whose selection shows nothing. -/
theorem getD_text_ofConfig? (c : Config) (e : Environment) :
    ((ofConfig? c).map fun s => s.text e).getD "" = c.selection.text e := by
  rw [ofConfig?]
  cases empty : c.environments.isEmpty with
  | false => rfl
  | true =>
    rw [text_selection, Config.shownVariables, List.isEmpty_iff.1 empty]
    rfl

end Selection

/-- The environment segment of a configuration reads the environment at the start, where it is to be
remembered, and the one at hand otherwise. -/
theorem Layout.EnvironmentPart.map_text_ofConfig? (c : Config)
    (read : Selection → Environment → String) (start e : Environment) :
    (ofConfig? c read start).map (fun p => p.text read e)
      = (Selection.ofConfig? c).map fun s =>
          read s (if c.environmentRememberOnStart then start else e) := by
  rw [ofConfig?, Option.map_map]
  congr 1
  funext s
  cases c.environmentRememberOnStart <;> rfl

end Logline
