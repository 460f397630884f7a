import Logline.Proofs.History.Traffic
import Logline.Proofs.Layout.JsonRecord
import Logline.Proofs.Layout.LineRecord
import Mathlib.Data.List.DropRight
import Mathlib.Data.List.Induction

/-! # Environment variables in the records of a history

Which variables a record shows, and with which texts, is told from the history before it: from the
configuration that was put into effect last, and from what was done last with each variable. A
configuration that remembers the environment shows it as it was when the configuration took effect;
any other one shows it as it is when the record is laid out.

* `Act.last?` — the last thing of a kind in a history
* `Act.textAfter`, `Act.configAfter` — a variable and the configuration after a history
* `Act.untilReconfigured` — a history up to the time when the configuration took effect
* `Stage.get?_after` — the environments of a stage, told from its history
* `Builder.run_variables` — the variables in a record of any history -/

namespace Logline

/-! ## What a history leaves -/

/-- The text of a value, where it is one. -/
def EnvironmentValue.text? : EnvironmentValue → Option String
  | .text s => some s
  | .undecodable => none

namespace Act

/-- What an act gives a variable: a value, or none where it takes the variable away. -/
def gives? (name : String) : Act → Option (Option EnvironmentValue)
  | .setVariable other value => if other = name then some value else none
  | .log _ _ | .message _ _ _ _ _ _ _ | .flush | .reconfigure _ | .changeContext _ _ => none

/-- The configuration that an act puts into effect. -/
def puts? : Act → Option Config
  | .reconfigure c => some c
  | .log _ _ | .message _ _ _ _ _ _ _ | .flush | .setVariable _ _ | .changeContext _ _ => none

/-- The thread and the event of an act that logs. -/
def logs? (b : Backdrop) : Act → Option (Thread × Event)
  | .log t e => some (t, e)
  | .message t logger level template args throwable millis =>
    some (t, (Event.ofTemplate b.heap b.attempts logger level template args throwable millis).1)
  | .flush | .reconfigure _ | .setVariable _ _ | .changeContext _ _ => none

/-- The last thing of a kind in a history. -/
def last? {α : Type} (kind : Act → Option α) (acts : List Act) : Option α :=
  acts.reverse.findSome? kind

/-- The last thing of a kind is that of the last act, or that of the acts before it. -/
@[simp] theorem last?_concat {α : Type} (kind : Act → Option α) (acts : List Act) (a : Act) :
    last? kind (acts ++ [a]) = (kind a).or (last? kind acts) := by
  rw [last?, List.reverse_concat, List.findSome?_cons]
  cases kind a <;> rfl

/-- The text of a variable after a history: the last one that it was given, none where it was taken
away or given no text, and that in the environment `e` at the beginning otherwise. -/
def textAfter (e : Environment) (acts : List Act) (name : String) : Option String :=
  match last? (gives? name) acts with
  | some value => value.bind EnvironmentValue.text?
  | none => e.get? name

/-- The configuration after a history: the last one that was put into effect, or that at the
beginning. -/
def configAfter (c : Config) (acts : List Act) : Config := (last? puts? acts).getD c

/-- A history up to the act that put the last configuration into effect. -/
def untilReconfigured (acts : List Act) : List Act := acts.rdropWhile fun a => a.puts?.isNone

/-- The history that a record can show: what came after the configuration took effect is not seen
where the environment is remembered. -/
def seen (c : Config) (acts : List Act) : List Act :=
  if c.environmentRememberOnStart then untilReconfigured acts else acts

end Act

/-! ## Environments -/

namespace Environment

/-- Taking a variable away leaves the others. -/
theorem lookup_unset_of_ne (e : Environment) {name other : String} (ne : other ≠ name) :
    (e.unset name).lookup other = e.lookup other := by
  rw [unset]
  induction e with
  | nil => rfl
  | cons v e ih =>
    obtain ⟨k, value⟩ := v
    by_cases same : k = name
    · have skipped : (other == k) = false := by simpa [same] using ne
      rw [List.filter_cons_of_neg (by simp [same]), ih, List.lookup_cons, skipped]
    · rw [List.filter_cons_of_pos (by simp [same]), List.lookup_cons, List.lookup_cons, ih]

/-- A variable that is taken away is not found. -/
theorem lookup_unset_same (e : Environment) (name : String) :
    (e.unset name).lookup name = none := by
  rw [unset, List.lookup_eq_none_iff]
  intro v mem
  obtain ⟨-, ne⟩ := List.mem_filter.1 mem
  rw [bne_comm]
  exact ne

/-- A variable with a new value has its text, and no other variable is changed. -/
theorem get?_set (e : Environment) (name : String) (value : Option EnvironmentValue)
    (other : String) : (e.set name value).get? other
      = if name = other then value.bind EnvironmentValue.text? else e.get? other := by
  by_cases same : name = other
  · subst same
    rw [if_pos rfl, get?]
    cases value with
    | none => simp [set, lookup_unset_same]
    | some v => cases v <;> simp [set, EnvironmentValue.text?]
  · rw [if_neg same, get?, get?]
    have differs : (other == name) = false := by simpa using Ne.symm same
    have looked : (e.set name value).lookup other = e.lookup other := by
      cases value with
      | none => exact lookup_unset_of_ne e (Ne.symm same)
      | some v =>
        rw [set, List.lookup_cons, differs]
        exact lookup_unset_of_ne e (Ne.symm same)
    rw [looked]

end Environment

/-! ## Stages -/

namespace Stage

/-- A stage goes through a history act by act. -/
theorem after_concat (m : Stage) (acts : List Act) (a : Act) :
    m.after (acts ++ [a]) = (m.after acts).next a := by
  rw [after, List.foldl_append]
  rfl

/-- **One act.** What is done changes the variable that it is about. -/
theorem get?_next (m : Stage) (a : Act) (name : String) :
    (m.next a).backdrop.environment.get? name = match a.gives? name with
      | some value => value.bind EnvironmentValue.text?
      | none => m.backdrop.environment.get? name := by
  cases a with
  | setVariable other value =>
    rw [Act.gives?, next, Environment.get?_set]
    by_cases same : other = name
    · rw [if_pos same, if_pos same]
    · rw [if_neg same, if_neg same]
  | log | message | flush | reconfigure | changeContext => rfl

/-- Only an act that puts a configuration into effect changes it. -/
theorem config_next (m : Stage) (a : Act) : (m.next a).config = a.puts?.getD m.config := by
  cases a <;> rfl

/-- An act that puts a configuration into effect remembers the environment of its time. -/
theorem start_next (m : Stage) (a : Act) :
    (m.next a).start = if a.puts?.isSome then m.backdrop.environment else m.start := by
  cases a <;> rfl

variable (c : Config) (b : Backdrop) (acts : List Act)

/-- **A whole history.** The variables after a history are told from what was done last with each
of them. -/
theorem get?_after (name : String) : ((inEffect c b).after acts).backdrop.environment.get? name
    = Act.textAfter b.environment acts name := by
  rw [Act.textAfter]
  induction acts using List.reverseRecOn with
  | nil => rfl
  | append_singleton acts a ih =>
    rw [after_concat, get?_next, ih, Act.last?_concat]
    cases a.gives? name <;> rfl

/-- After a history the configuration is the last one that was put into effect. -/
theorem config_after : ((inEffect c b).after acts).config = Act.configAfter c acts := by
  rw [Act.configAfter]
  induction acts using List.reverseRecOn with
  | nil => rfl
  | append_singleton acts a ih =>
    rw [after_concat, config_next, ih, Act.last?_concat]
    cases a.puts? <;> rfl

/-- The environment at the start of a configuration is that of the history until then. -/
theorem get?_start_after (name : String) : ((inEffect c b).after acts).start.get? name
    = Act.textAfter b.environment (Act.untilReconfigured acts) name := by
  induction acts using List.reverseRecOn with
  | nil => rfl
  | append_singleton acts a ih =>
    rw [after_concat, start_next, Act.untilReconfigured]
    cases put : a.puts? with
    | none =>
      rw [List.rdropWhile_concat_pos _ _ _ (by rw [put]; rfl)]
      exact ih
    | some c' =>
      -- the act itself gives no variable a value
      have silent : a.gives? name = none := by
        cases a with
        | reconfigure => rfl
        | log | message | flush | setVariable | changeContext => cases put
      rw [List.rdropWhile_concat_neg _ _ _ (by rw [put]; simp), Option.isSome_some, if_pos rfl,
        get?_after, Act.textAfter, Act.textAfter, Act.last?_concat, silent]
      rfl

/-- Where a record shows variables, they have the texts of the history that it can show. -/
theorem get?_seen {m : Stage} (after : (inEffect c b).after acts = m) :
    (if m.config.environmentRememberOnStart then m.start else m.backdrop.environment).get?
      = Act.textAfter b.environment (Act.seen m.config acts) := by
  funext name
  rw [Act.seen, ← after]
  cases ((inEffect c b).after acts).config.environmentRememberOnStart with
  | false => exact get?_after c b acts name
  | true => exact get?_start_after c b acts name

/-- An act that logs an event asks for its record to be written, and for nothing else to be. -/
theorem write?_demands [Calendar.Formatter] {m : Stage} {a : Act} {t : Thread} {e : Event}
    (logs : a.logs? m.backdrop = some (t, e)) (routes : Routes) (trap : Trap) :
    (m.demands trap a).filterMap (Demand.write? routes)
      = ((m.record t e).write? routes).toList := by
  cases a with
  | log t' e' =>
    cases logs
    rfl
  | message t' logger level template args throwable millis =>
    cases logs
    have silent : ∀ es : List Error, (es.map (Demand.report m.backdrop.processTrap)).filterMap
        (Demand.write? routes) = [] := by
      intro es
      simp [List.filterMap_map, Function.comp_def, Demand.write?]
    rw [demands, List.filterMap_append, silent]
    rfl
  | flush | reconfigure | setVariable | changeContext => cases logs

end Stage

/-- **Environment variables in records.** Whatever was done with a logger and its environment, an
event that is logged is written once, in the layout and the charset of the configuration in effect,
and its record shows the variables that this configuration names, in that order: with the texts that
they had when the configuration took effect, if it remembers them, and with their texts at that time
otherwise. Lines of text and JSON objects show the same list. A line has no segment for it if and
only if it is empty, and an object has no member for it if and only if no variables are named. -/
theorem Builder.run_variables [Calendar.Formatter] (b : Builder) (w : World) (acts : List Act)
    {a : Act} {t : Thread}
    {e : Event} (logs : a.logs? (Logger.run (b.build w) acts).2.backdrop = some (t, e)) :
    let now := Logger.run (b.build w) acts
    let c := Act.configAfter b.config acts
    let vs := c.shownVariables (Act.textAfter w.environment (Act.seen c acts))
    let sink := b.allRoutes.sink e.level
    ∃ added record, (Logger.act now a).2.journal = now.2.journal ++ added ∧
      added.filterMap Effect.write? = [(sink.handle, sink.id,
        (Charset.resolve c.charset).1.encode (e.buffer ++ record))] ∧
      (c.format = .text → record
        = LinePart.join (LineRecord.parts c vs (now.2.backdrop.surroundings t) e)) ∧
      (c.format = .json → ∃ line members, record = line ++ "\n" ∧
        Json.read line = some (.object members) ∧ (members.map Prod.fst).Nodup ∧
        members.lookup "environment" = if c.environments.isEmpty then none
          else some (.array (vs.map c.variableJson))) := by
  intro now c vs sink
  have stands := (StandsAt.run_builder b w acts).1
  have config : ((Stage.inEffect b.config w.backdrop).after acts).config = c :=
    Stage.config_after b.config w.backdrop acts
  have seen := Stage.get?_seen b.config w.backdrop acts rfl
  -- all that follows is told from the stage at which the logger and the world stand
  generalize (Stage.inEffect b.config w.backdrop).after acts = m at stands config seen
  have backdrop : now.2.backdrop = m.backdrop := stands.backdrop
  obtain ⟨added, journal, writes⟩ :=
    Demand.exists_foldl_perform b.allRoutes b.trap (m.demands b.trap a) now.2.journal
  have performed := (stands.act b.allRoutes_merged a).2.trans journal
  rw [backdrop] at logs ⊢
  rw [Stage.write?_demands logs, Stage.record, Demand.write?, config] at writes
  rw [config] at seen
  have shown : c.shownVariables (if c.environmentRememberOnStart then m.start
      else (m.backdrop.surroundings t).environment).get? = vs := congrArg c.shownVariables seen
  cases format : c.format with
  | text =>
    have laid_out : ((Pipeline.build c m.start).1.render (m.backdrop.surroundings t) e).1.buffer
        = e.buffer ++ LineRecord.text c m.start (m.backdrop.surroundings t) e :=
      congrArg Event.buffer
        (Pipeline.render_after_line format m.start [] (m.backdrop.surroundings t) e)
    refine ⟨added, LineRecord.text c m.start (m.backdrop.surroundings t) e, performed, ?_,
      fun _ => ?_, fun other => ?_⟩
    · rw [← laid_out]
      exact writes
    · rw [LineRecord.text, shown]
    · cases other
  | json =>
    have laid_out := Pipeline.buffer_render_after format m.start [] (m.backdrop.surroundings t) e
    have spelled := JsonRecord.spelled_members c m.start (m.backdrop.surroundings t) e
    rw [String.append_assoc] at laid_out
    refine ⟨added, _, performed, ?_, fun other => ?_, fun _ => ⟨_, _, rfl, Json.read_text spelled,
      JsonRecord.nodup_map_fst_members c m.start _ e, ?_⟩⟩
    · rw [← laid_out]
      exact writes
    · cases other
    · rw [JsonRecord.lookup_environment, JsonRecord.environmentJson_eq, shown]

/-- A configuration that remembers two variables, one of them named twice and one without a text,
although both were changed since it took effect. -/
theorem Builder.run_variables_remembered :
    letI := Calendar.Formatter.verbatim
    let c : Config :=
      { environments := ["B", "A", "A"], environmentShowName := true,
        environmentShowNullable := true, environmentRememberOnStart := true,
        showThreadName := false, loggerName := .hidden }
    let b := Builder.standard (Sink.reliable 0 .stderr)
    let w : World := { environment := [("A", .text "1")] }
    let acts := [.setVariable "A" (some (.text "2")), .setVariable "B" (some .undecodable),
      .reconfigure c, .setVariable "A" none, .setVariable "B" (some (.text "3"))]
    let now := Logger.run (b.build w) acts
    let e : Event := .ofText "app" .info (some "m") none 0
    (Act.log ⟨0, none⟩ e).logs? now.2.backdrop = some (⟨0, none⟩, e) ∧
    ∃ added, (Logger.act now (.log ⟨0, none⟩ e)).2.journal = now.2.journal ++ added ∧
      added.filterMap Effect.write?
        = [(0, .stderr, Charset.utf8.encode "INFO [B=null, A=2, A=2] m\n")] := by
  let _ := Calendar.Formatter.verbatim
  intro c b w acts now e
  obtain ⟨added, record, journal, writes, line, -⟩ :=
    run_variables b w acts (a := .log ⟨0, none⟩ e) rfl
  have config : Act.configAfter b.config acts = c := rfl
  have seen : c.shownVariables (Act.textAfter w.environment (Act.seen c acts))
      = [("B", none), ("A", some "2"), ("A", some "2")] := by
    decide
  rw [config, seen] at line
  rw [line rfl] at writes
  exact ⟨rfl, added, journal, writes⟩

end Logline
