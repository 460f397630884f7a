import Logline.Template

/-! # Messages

A **message** is what a template and its arguments come to: the finished text, the arguments that
belong to the text, and a throwable that goes with it. A throwable at the end of a list of arguments
is taken out of the list and goes with the message, where the list may carry one.

* `Message.ofArguments` — arguments that all belong to the text
* `Message.ofArray` — arguments whose last may be a throwable
-/

namespace Logline

/-- A formatted message. -/
structure Message where
  /-- The text, where there was a template. -/
  text : Option String
  /-- The arguments that belong to the text. -/
  args : List Value
  /-- The throwable that goes with the message. -/
  throwable : Option ThrowableId

namespace Message

/-- A message from arguments that all belong to the text. Without a template nothing is rendered. -/
def ofArguments (h : Heap) (attempts : List Attempt) (template : Option String) (args : List Value)
    (throwable : Option ThrowableId) : Message × List Attempt :=
  match template with
  | none => (⟨none, args, throwable⟩, attempts)
  | some t =>
    let (text, attempts) := Template.fill h attempts t args
    (⟨some text, args, throwable⟩, attempts)

/-- A list of arguments without a throwable at its end, and that throwable. -/
def splitThrowable (args : List Value) : List Value × Option ThrowableId :=
  match args.getLast? with
  | some (.throwable id) => (args.dropLast, some id)
  | _ => (args, none)

/-- A message from arguments whose last may be a throwable to go with it. -/
def ofArray (h : Heap) (attempts : List Attempt) (template : Option String) (args : List Value) :
    Message × List Attempt :=
  let (args, throwable) := splitThrowable args
  ofArguments h attempts template args throwable

/-- A message for a record: a throwable of its own leaves the arguments alone. -/
def forRecord (h : Heap) (attempts : List Attempt) (template : Option String) (args : List Value) :
    (throwable : Option ThrowableId) → Message × List Attempt
  | some id => ofArguments h attempts template args (some id)
  | none => ofArray h attempts template args

end Message

end Logline
