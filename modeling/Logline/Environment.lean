import Logline.Config
import Logline.Json

/-! # Environment variables

The environment gives names values; a value that is no text counts as not set.

* `Environment.get?` — a variable
* `Selection` — which variables a record shows, and how
* `Selection.read` — the selected variables with their values
* `Selection.text`, `Selection.json` — the two ways to show them
-/

namespace Logline

/-- The value of an environment variable. -/
inductive EnvironmentValue where
  | text (s : String)
  /-- Bytes that are no text. -/
  | undecodable
  deriving DecidableEq, Repr

/-- Names with values. -/
abbrev Environment := List (String × EnvironmentValue)

namespace Environment

/-- A variable without its value. -/
def unset (e : Environment) (name : String) : Environment := e.filter fun v => v.1 != name

/-- A variable with a new value, or without one. -/
def set (e : Environment) (name : String) : Option EnvironmentValue → Environment
  | some v => (name, v) :: e.unset name
  | none => e.unset name

/-- The text of a variable. -/
def get? (e : Environment) (name : String) : Option String :=
  match e.lookup name with
  | some (.text s) => some s
  | some .undecodable | none => none

end Environment

/-- Which variables are shown, and how. -/
structure Selection where
  /-- The names of the variables, in the order in which they are shown. -/
  names : List String
  /-- Whether names are shown beside the values. -/
  showName : Bool
  /-- Whether variables without a value are shown too. -/
  showNullable : Bool
  deriving DecidableEq, Repr

namespace Selection

/-- The selection of a configuration, where there is one. -/
def ofConfig? (c : Config) : Option Selection :=
  if c.environments.isEmpty then none
  else some ⟨c.environments, c.environmentShowName, c.environmentShowNullable⟩

/-- The selected variables with their values. -/
def read (s : Selection) (e : Environment) : List (String × Option String) :=
  (s.names.map fun name => (name, e.get? name)).filter fun v => v.2.isSome || s.showNullable

/-- One variable in a line of text. -/
def entryText (s : Selection) (v : String × Option String) : String :=
  (if s.showName then v.1 ++ "=" else "") ++ v.2.getD "null"

/-- The selected variables in a line of text; nothing where there are none. -/
def text (s : Selection) (e : Environment) : String :=
  match s.read e with
  | [] => ""
  | vs => "[" ++ ", ".intercalate (vs.map s.entryText) ++ "] "

/-- One variable as a JSON value. -/
def entryJson (s : Selection) (v : String × Option String) : Json :=
  if s.showName then .object [("name", .string v.1), ("value", Json.ofOption v.2)]
  else Json.ofOption v.2

/-- The selected variables as a member of a JSON object. -/
def json (s : Selection) (e : Environment) : String :=
  Json.member "environment" (.array ((s.read e).map s.entryJson))

end Selection

end Logline
