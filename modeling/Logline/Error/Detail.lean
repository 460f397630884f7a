import Logline.Error

/-! # Errors in detail

Two longer forms of an error.

* `Error.report` — the message, then the details and the whole chain of each cause, a line each
* `Error.dump` — the structure of an error and of everything behind it
-/

namespace Logline

/-- An error over several lines. -/
def Error.report (e : Error) : String :=
  e.message ++ "\n"
    ++ (if e.details.isEmpty then ""
        else "\nContext:\n"
          ++ String.join (e.details.map fun d => "   " ++ d.1 ++ ": " ++ d.2 ++ "\n"))
    ++ if e.causes.isEmpty then ""
       else "\nSources:\n"
         ++ String.join (e.causes.map fun c => "   " ++ ": ".intercalate c.chain ++ "\n")

namespace Dump

/-- Lines that stand inside others: indented, with a comma after the last. -/
def nested : List String → List String
  | [] => []
  | [line] => ["    " ++ line ++ ","]
  | line :: rest => ("    " ++ line) :: nested rest

/-- Items between two brackets, each on lines of its own. -/
def between (first last : String) (items : List (List String)) : List String :=
  first :: items.flatMap nested ++ [last]

/-- A field with its name. -/
def field (name : String) : List String → List String
  | [] => [name ++ ": "]
  | line :: rest => (name ++ ": " ++ line) :: rest

/-- A list of items. -/
def list : List (List String) → List String
  | [] => ["[]"]
  | items => between "[" "]" items

/-- A structure with its name and fields. -/
def record (name : String) (fields : List (List String)) : List String :=
  between (name ++ " \x7b") "\x7d" fields

/-- The structure of an error from those of its causes. -/
def error (message : String) (details : List (String × String)) (causes : List (List String)) :
    List String :=
  record "Error"
    [field "message" [Text.quote message],
      field "context"
        (list (details.map fun d => between "(" ")" [[Text.quote d.1], [Text.quote d.2]])),
      field "sources" (list causes)]

end Dump

mutual

/-- The structure of a cause, line by line. -/
def Cause.dump : Cause → List String
  | .text message => [Text.quote message]
  | .context message inner =>
    Dump.record "Error"
      [Dump.field "context" [Text.quoteJoined message], Dump.field "source" inner.dump]
  | .io kind => Dump.between "Kind(" ")" [[kind.name]]
  | .ioText message =>
    Dump.record "Custom"
      [Dump.field "kind" ["Other"], Dump.field "error" [Text.quote message]]
  | .format => ["Error"]
  | .error message details causes => Dump.error message details (Cause.dumpAll causes)

/-- The structures of causes. -/
def Cause.dumpAll : List Cause → List (List String)
  | [] => []
  | c :: cs => c.dump :: Cause.dumpAll cs

end

/-- The structure of an error. -/
def Error.dump (e : Error) : String :=
  "\n".intercalate (Dump.error e.message e.details (Cause.dumpAll e.causes))

end Logline
