import Logline.Facade
import Logline.Proofs.History.Traffic
import Logline.Proofs.Rendering.Failures

/-! # Records of the facade

A record of the facade is a message whose template is one slot and whose only argument is what the
record came with. The facade takes a shorter way: it looks at no template, and a constant text is
not even converted. That leaves a trace in no journal, neither then nor later.

* `World.LookAlike` — worlds that differ in conversions that were asked for
* `Logger.act_lookAlike` — one act in worlds that look alike
* `Facade.Arguments.conversion` — what arguments come to
* `Facade.Step`, `Facade.run` — what a program does, through the facade and besides it
* `Facade.log_eq_slot` — a record of the facade and a message of one slot -/

namespace Logline

/-! ## Worlds that look alike -/

namespace World

/-- Two worlds **look alike** if they differ at most in what arguments were asked, and every counter
was asked equally often in both. -/
def LookAlike (w w' : World) : Prop :=
  ∃ attempts, Attempt.Alike w.attempts attempts ∧ w' = { w with attempts }

namespace LookAlike

/-- Every world looks like itself. -/
theorem refl (w : World) : LookAlike w w := ⟨w.attempts, fun _ => rfl, rfl⟩

variable {w w' : World} (alike : LookAlike w w')

include alike

/-- Worlds that look alike have had the same effects. -/
theorem journal_eq : w'.journal = w.journal := by
  obtain ⟨attempts, -, rfl⟩ := alike
  rfl

/-- They go on looking alike with the same effects in both. -/
theorem addAll (es : List Effect) : LookAlike (w.addAll es) (w'.addAll es) := by
  obtain ⟨attempts, counters, rfl⟩ := alike
  exact ⟨attempts, counters, rfl⟩

/-- Attempts make no difference if they ask the same counters and are reported alike. -/
theorem answered {asked asked' : List Attempt} (counters : Attempt.Alike asked asked')
    (reports : asked.filterMap Attempt.report? = asked'.filterMap Attempt.report?) :
    LookAlike (w.answered asked) (w'.answered asked') := by
  obtain ⟨attempts, counters', rfl⟩ := alike
  refine ⟨attempts ++ asked', fun name => ?_, ?_⟩
  · show (w.attempts ++ asked).countP _ = _
    rw [List.countP_append, List.countP_append, counters', counters]
  · rw [World.answered, World.answered, reports]

/-- What is made steadily is the same in worlds that look alike, and they look alike then. -/
theorem asking {α : Type} (make : Heap → List Attempt → α × List Attempt)
    (steady : Steady fun attempts => make w.heap attempts) :
    (w'.asking make).1 = (w.asking make).1 ∧ LookAlike (w.asking make).2 (w'.asking make).2 := by
  obtain ⟨attempts, counters, rfl⟩ := id alike
  -- the same is asked in both worlds, behind attempts that are alike
  obtain ⟨asked, steady⟩ := steady
  have made : w.asking make = ((make w.heap w.attempts).1, w.answered asked) :=
    w.asking_eq_answered (Prod.ext rfl (steady w.attempts).1)
  have made' : World.asking { w with attempts } make
      = ((make w.heap w.attempts).1, World.answered { w with attempts } asked) :=
    asking_eq_answered _
      (Prod.ext ((steady w.attempts).2 attempts counters).symm (steady attempts).1)
  rw [made, made']
  exact ⟨rfl, alike.answered (fun _ => rfl) rfl⟩

/-- A text is written alike in worlds that look alike, to the same sinks with the same reports. -/
theorem write_router (r : Router) (level : Level) (text : String) :
    LookAlike (r.write level text w) (r.write level text w') := by
  rw [Router.write, Router.write]
  cases r.writer? level with
  | none => exact alike
  | some writer =>
    dsimp only
    rw [Writer.write_eq, Writer.write_eq, alike.journal_eq]
    exact alike.addAll _

/-- Sinks are flushed alike in worlds that look alike. -/
theorem flush_router (r : Router) : LookAlike (r.flush w) (r.flush w') := by
  rw [Router.flush, Router.flush]
  induction r.writers generalizing w w' with
  | nil => exact alike
  | cons writer writers ih =>
    rw [List.foldl_cons, List.foldl_cons]
    refine ih ?_
    rw [Writer.flush_eq, Writer.flush_eq, alike.journal_eq]
    exact alike.addAll _

end LookAlike

end World

/-! ## Acts in worlds that look alike -/

/-- Messages are made from arguments steadily. -/
theorem Message.ofArguments_steady (h : Heap) (template : Option String) (args : List Value)
    (throwable : Option ThrowableId) :
    Steady fun as => Message.ofArguments h as template args throwable := by
  cases template with
  | none => exact steady_const _
  | some t =>
    simp only [Message.ofArguments_some]
    exact (inTurn_steady fun v _ => v.render_steady h).map
      fun texts => (⟨some (Template.filled t args.length texts), args, throwable⟩ : Message)

/-- Events are made from templates steadily. -/
theorem Event.ofTemplate_steady (h : Heap) (logger : String) (level : Level)
    (template : Option String) (args : List Value) (throwable : Option ThrowableId) (millis : Int) :
    Steady fun as => Event.ofTemplate h as logger level template args throwable millis := by
  have message : Steady fun as => Message.forRecord h as template args throwable := by
    cases throwable with
    | none => exact Message.ofArguments_steady h template _ _
    | some id => exact Message.ofArguments_steady h template args (some id)
  exact message.map fun m => Event.ofText logger level m.text m.throwable millis

namespace Logger

variable {w w' : World}

/-- An event leaves the same logger in worlds that look alike, and they look alike then. -/
theorem logEvent_lookAlike (alike : w.LookAlike w') (l : Logger) (t : Thread) (e : Event) :
    (l.logEvent t e w').1 = (l.logEvent t e w).1 ∧
    (l.logEvent t e w).2.LookAlike (l.logEvent t e w').2 := by
  have surroundings : surroundings t w' = surroundings t w := by
    obtain ⟨attempts, -, rfl⟩ := alike
    rfl
  rw [logEvent, logEvent, surroundings]
  exact ⟨rfl, alike.write_router _ _ _⟩

/-- A logger is built alike in worlds that look alike. -/
theorem build_lookAlike [Calendar.Formatter] (alike : w.LookAlike w') (c : Config)
    (routes : Routes) (trap : Trap) :
    (build c routes trap w').1 = (build c routes trap w).1 ∧
    (build c routes trap w).2.LookAlike (build c routes trap w').2 := by
  have environment : w'.environment = w.environment := by
    obtain ⟨attempts, -, rfl⟩ := alike
    rfl
  rw [build, build, Setup.build, Setup.build, environment]
  dsimp only
  rw [World.reportAll_eq, World.reportAll_eq]
  exact ⟨rfl, alike.addAll _⟩

/-- **One act.** In worlds that look alike, an act leads to one logger and to worlds that look
alike. -/
theorem act_lookAlike [Calendar.Formatter] (alike : w.LookAlike w') (l : Logger) (a : Act) :
    (act (l, w') a).1 = (act (l, w) a).1 ∧ (act (l, w) a).2.LookAlike (act (l, w') a).2 := by
  cases a with
  | log t e => exact logEvent_lookAlike alike l t e
  | message t logger level template args throwable millis =>
    -- the event is made steadily, and then logged as any other one
    obtain ⟨event, asked⟩ := alike.asking
      (fun h as => Event.ofTemplate h as logger level template args throwable millis)
      (Event.ofTemplate_steady w.heap logger level template args throwable millis)
    rw [act, act, log, log]
    dsimp only
    rw [event]
    exact logEvent_lookAlike asked l t _
  | flush => exact ⟨rfl, alike.flush_router _⟩
  | reconfigure c => exact build_lookAlike alike c l.routes l.trap
  | setVariable name value =>
    obtain ⟨attempts, counters, rfl⟩ := alike
    exact ⟨rfl, attempts, counters, rfl⟩
  | changeContext t f =>
    obtain ⟨attempts, counters, rfl⟩ := alike
    exact ⟨rfl, attempts, counters, rfl⟩

end Logger

/-! ## One slot -/

/-- A template that is one slot is filled with the text of its argument. -/
theorem Template.fill_slot (h : Heap) (attempts : List Attempt) (v : Value) :
    fill h attempts "{}" [v] = v.render h attempts := by
  have pieces : pieces 1 "{}" = [.literal [], .slot, .literal []] := by decide
  rw [fill_eq_assemble, List.length_singleton, pieces]
  simp [assemble, Value.renderAll, inTurn]

/-- A conversion is rendered as its text, and asked once. -/
theorem Value.render_display (h : Heap) (attempts : List Attempt) (c : Conversion) :
    (Value.display c).render h attempts = (c.text, attempts ++ [.conversion c]) := by
  simp [render, Rendering.append, appendTo, Rendering.note, Rendering.put]

namespace Facade

/-- What arguments come to when they are converted: a constant text is as it stands. -/
def Arguments.conversion : Arguments → Conversion
  | .constant text => ⟨text, .done⟩
  | .formatted c => c

/-- What the facade asks of arguments. -/
def Arguments.asked : Arguments → List Attempt
  | .constant _ => []
  | .formatted c => [.conversion c]

/-- The message of a record is the text of its arguments, whatever stands in it. -/
theorem message_eq (attempts : List Attempt) (a : Arguments) :
    message attempts a = (a.conversion.text, attempts ++ a.asked) := by
  cases a with
  | constant text => exact Prod.ext rfl (List.append_nil attempts).symm
  | formatted c => simp [message, Arguments.conversion, Arguments.asked, Rendering.note,
      Rendering.put]

example : (message [] (.constant "{} \\\\{}")).1 = "{} \\\\{}" := rfl

/-- A constant text asks no counter and is never reported, converted or not. -/
theorem Arguments.asked_alike (a : Arguments) :
    Attempt.Alike a.asked [.conversion a.conversion] ∧
    a.asked.filterMap Attempt.report? = [Attempt.conversion a.conversion].filterMap
      Attempt.report? := by
  cases a with
  | constant text => exact ⟨fun _ => rfl, rfl⟩
  | formatted c => exact ⟨fun _ => rfl, rfl⟩

variable (l : Logger) (t : Thread) (r : Record) (millis : Int) (w : World)

/-- The facade logs the text of the arguments. -/
theorem log_eq_logEvent : log l t r millis w
    = l.logEvent t (.ofText r.target r.level (some r.args.conversion.text) none millis)
        (w.answered r.args.asked) := by
  rw [log, w.asking_eq_answered (message_eq w.attempts r.args)]

/-- A message of one slot has the text of its argument, if that is no throwable. -/
theorem log_slot_eq_logEvent (logger : String) (level : Level) (c : Conversion) :
    l.log t logger level (some "{}") [.display c] none millis w
      = l.logEvent t (.ofText logger level (some c.text) none millis)
          (w.answered [.conversion c]) := by
  have made : Event.ofTemplate w.heap w.attempts logger level (some "{}") [.display c] none millis
      = (.ofText logger level (some c.text) none millis, w.attempts ++ [.conversion c]) := by
    have kept : Message.splitThrowable [.display c] = ([.display c], none) := rfl
    simp only [Event.ofTemplate, Message.forRecord, Message.ofArray, kept, Message.ofArguments,
      Template.fill_slot, Value.render_display]
  rw [Logger.log, w.asking_eq_answered made]

/-! ## Histories -/

/-- Something that a program does, maybe through the facade. -/
inductive Step where
  | act (a : Act)
  | record (t : Thread) (r : Record) (millis : Int)

/-- The act that stands for a step: a record is a message whose template is one slot. -/
def Step.toAct : Step → Act
  | .act a => a
  | .record t r millis =>
    .message t r.target r.level (some "{}") [.display r.args.conversion] none millis

/-- A logger and the world after a step. -/
def step [Calendar.Formatter] (s : Logger × World) : Step → Logger × World
  | .act a => Logger.act s a
  | .record t r millis => log s.1 t r millis s.2

/-- A logger and the world after steps. -/
def run [Calendar.Formatter] (s : Logger × World) (steps : List Step) : Logger × World :=
  steps.foldl step s

variable {l r} {s s' : Logger × World}

/-- **One step.** In worlds that look alike, a step and the act that stands for it lead to one
logger and to worlds that look alike. -/
theorem step_lookAlike [Calendar.Formatter] (logger : s'.1 = s.1) (alike : s.2.LookAlike s'.2)
    (x : Step) :
    (Logger.act s' x.toAct).1 = (step s x).1 ∧
    (step s x).2.LookAlike (Logger.act s' x.toAct).2 := by
  obtain ⟨l, w⟩ := s
  obtain ⟨l', w'⟩ := s'
  obtain rfl : l' = l := logger
  cases x with
  | act a => exact Logger.act_lookAlike alike l' a
  | record t r millis =>
    -- one event on both ways, and attempts that make no difference
    obtain ⟨counters, reports⟩ := r.args.asked_alike
    rw [step, log_eq_logEvent, Step.toAct, Logger.act, log_slot_eq_logEvent]
    exact Logger.logEvent_lookAlike (alike.answered counters reports) l' t _

/-- **A whole history.** -/
theorem run_lookAlike [Calendar.Formatter] (logger : s'.1 = s.1) (alike : s.2.LookAlike s'.2)
    (steps : List Step) :
    (Logger.run s' (steps.map Step.toAct)).1 = (run s steps).1 ∧
    (run s steps).2.LookAlike (Logger.run s' (steps.map Step.toAct)).2 := by
  induction steps generalizing s s' with
  | nil => exact ⟨logger, alike⟩
  | cons x steps ih =>
    obtain ⟨logger', alike'⟩ := step_lookAlike logger alike x
    exact ih logger' alike'

/-- The conversion of preformatted arguments is reported where it fails. -/
theorem journal_answered_asked (w : World) (a : Arguments) :
    (w.answered a.asked).journal
      = w.journal ++ a.conversion.ending.report?.toList.map (.report w.processTrap) := by
  rw [World.answered, a.asked_alike.2, List.filterMap_cons, Attempt.report?]
  cases a.conversion.ending.report? <;> rfl

/-- **Records of the facade.** A record that comes through the facade leads to the same journal, and
so to the same bytes in the same sink and the same reports to either trap, as a message whose
template is one slot for the arguments of the record, whatever these are and however their
conversion ends. For arguments that are converted it even leads to the same world; a constant text
is not converted, but that is seen in nothing that is done later, through the facade or besides it.
In both cases the message is the text of the arguments as it stands, and it is no template. -/
theorem log_eq_slot [Calendar.Formatter] (l : Logger) (t : Thread) (r : Record) (millis : Int)
    (w : World) :
    let c := r.args.conversion
    let short := log l t r millis w
    let long := l.log t r.target r.level (some "{}") [.display c] none millis w
    (long.1 = short.1 ∧ long.2.journal = short.2.journal ∧ short.2.LookAlike long.2) ∧
    log l t { r with args := .formatted c } millis w = long ∧
    (short = l.logEvent t (.ofText r.target r.level (some c.text) none millis)
        (w.answered r.args.asked) ∧
      (w.answered r.args.asked).journal
        = w.journal ++ c.ending.report?.toList.map (.report w.processTrap)) ∧
    ∀ steps,
      (Logger.run long (steps.map Step.toAct)).1 = (run short steps).1 ∧
      (Logger.run long (steps.map Step.toAct)).2.journal = (run short steps).2.journal := by
  intro c short long
  let here : Logger × World := (l, w)
  have alone : here.2.LookAlike here.2 := .refl w
  obtain ⟨logger, alike⟩ : long.1 = short.1 ∧ short.2.LookAlike long.2 :=
    step_lookAlike (rfl : here.1 = here.1) alone (.record t r millis)
  -- arguments that are converted are asked in the same way
  have converted : log l t { r with args := .formatted c } millis w = long := by
    rw [log_eq_logEvent]
    exact (log_slot_eq_logEvent l t millis w r.target r.level c).symm
  refine ⟨⟨logger, alike.journal_eq, alike⟩, converted,
    ⟨log_eq_logEvent l t r millis w, journal_answered_asked w r.args⟩, fun steps => ?_⟩
  obtain ⟨logger', alike'⟩ := run_lookAlike logger alike steps
  exact ⟨logger', alike'.journal_eq⟩

end Facade

end Logline
