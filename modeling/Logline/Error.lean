import Logline.Text.Quoted

/-! # Errors

An **error** is a message with named details and the **causes** behind it. A cause is a plain text,
a failed input or output operation, a failed conversion to text, a text put in front of another
cause, or an error with causes of its own.

* `Error.display` — an error in one line: the message, the details, the outermost text of each cause
* `Cause.chain` — the texts met when going from a cause to its own first cause, and so on
* `Error.badSetting`, `Error.io`, `Error.format`, `Error.malformed` — the errors that recur
-/

namespace Logline

/-- The kinds of failed input and output operations. -/
inductive IoKind where
  | brokenPipe
  | notFound
  | permissionDenied
  | timedOut
  deriving DecidableEq, Repr

/-- What lies behind an error. -/
inductive Cause where
  /-- A plain message. -/
  | text (message : String)
  /-- A message in front of another cause. -/
  | context (message : String) (inner : Cause)
  /-- A failed operation of a known kind. -/
  | io (kind : IoKind)
  /-- A failed operation with a message. -/
  | ioText (message : String)
  /-- A conversion to text that failed. -/
  | format
  /-- An error with its message, details and causes. -/
  | error (message : String) (details : List (String × String)) (causes : List Cause)
  deriving Repr

/-- A message with named details and causes. -/
structure Error where
  message : String
  details : List (String × String)
  causes : List Cause
  deriving Repr

/-- The words for a kind of failed operation. -/
def IoKind.text : IoKind → String
  | .brokenPipe => "broken pipe"
  | .notFound => "entity not found"
  | .permissionDenied => "permission denied"
  | .timedOut => "timed out"

/-- The name of a kind of failed operation. -/
def IoKind.name : IoKind → String
  | .brokenPipe => "BrokenPipe"
  | .notFound => "NotFound"
  | .permissionDenied => "PermissionDenied"
  | .timedOut => "TimedOut"

/-- The words for a failed conversion to text. -/
def formatFailure : String := "an error occurred when formatting an argument"

/-- An error in one line from its message, its details and the texts of its causes. -/
def errorLine (message : String) (details : List (String × String)) (causes : List String) :
    String :=
  message
    ++ (if details.isEmpty then ""
        else ", context: \x7b " ++ ", ".intercalate (details.map fun d => d.1 ++ ": " ++ d.2)
          ++ " \x7d")
    ++ if causes.isEmpty then "" else ", sources: [" ++ ", ".intercalate causes ++ "]"

mutual

/-- The outermost text of a cause. -/
def Cause.display : Cause → String
  | .text message => message
  | .context message _ => message
  | .io kind => kind.text
  | .ioText message => message
  | .format => formatFailure
  | .error message details causes => errorLine message details (Cause.displayAll causes)

/-- The outermost texts of causes. -/
def Cause.displayAll : List Cause → List String
  | [] => []
  | c :: cs => c.display :: Cause.displayAll cs

end

/-- Causes are shown one by one. -/
@[simp] theorem Cause.displayAll_eq_map (cs : List Cause) :
    Cause.displayAll cs = cs.map Cause.display := by
  induction cs with
  | nil => rfl
  | cons c cs ih => simp [Cause.displayAll, ih]

mutual

/-- The texts of a cause, of the cause behind it, and so on; behind an error is its first cause. -/
def Cause.chain : Cause → List String
  | .context message inner => message :: inner.chain
  | .error message details causes =>
    errorLine message details (causes.map Cause.display) :: Cause.chainOfFirst causes
  | .text message => [message]
  | .io kind => [kind.text]
  | .ioText message => [message]
  | .format => [formatFailure]

/-- The chain of the first of some causes. -/
def Cause.chainOfFirst : List Cause → List String
  | [] => []
  | c :: _ => c.chain

end

namespace Error

/-- An error as a cause of another one. -/
def toCause (e : Error) : Cause := .error e.message e.details e.causes

/-- An error in one line. -/
def display (e : Error) : String := errorLine e.message e.details (e.causes.map Cause.display)

/-- An error is shown alike as the cause of another one. -/
@[simp] theorem display_toCause (e : Error) : e.toCause.display = e.display := by
  simp [toCause, display, Cause.display]

/-- An error with a message only. -/
def ofMessage (message : String) : Error := ⟨message, [], []⟩

/-- An error with one more detail. -/
def withDetail (e : Error) (key value : String) : Error :=
  { e with details := e.details ++ [(key, value)] }

/-- An error with one more cause. -/
def withCause (e : Error) (c : Cause) : Error := { e with causes := e.causes ++ [c] }

/-- The first detail with a key. -/
def detail? (e : Error) (key : String) : Option String := e.details.lookup key

/-- The texts of the causes behind an error, going from each to its own first cause. -/
def sourceChain (e : Error) : List String := Cause.chainOfFirst e.causes

/-- A failed input or output operation. -/
def io (c : Cause) : Error := (ofMessage "failed to perform io").withCause c

/-- A failed conversion to text. -/
def format : Error := (ofMessage "failed to perform format").withCause .format

/-- A setting that cannot be used, and what is used in its place. -/
def badSetting (key value fallback : String) : Error :=
  ((ofMessage "bad configuration value, falling back to default").withDetail "key" key
    |>.withDetail "value" value).withDetail "fallback" fallback

/-- A text that names nothing of its kind. -/
def malformed (kind s : String) : Error := ofMessage ("malformed " ++ kind ++ ": " ++ Text.quote s)

end Error

end Logline
