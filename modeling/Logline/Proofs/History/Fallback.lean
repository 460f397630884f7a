import Logline.Proofs.History.Traffic

/-! # Settings that cannot be used

A charset that is not known and a pattern that has no text are reported once, when their
configuration takes effect and where they would be used. From then on they count as not given: what
a logger does cannot be told from what it does under the same configuration without them.

* `Config.faults` — the reports that a configuration is due
* `Config.usable` — a configuration without the settings that cannot be used
* `Stage.Alike` — stages at which the same is laid out in the same charset
* `Effect.CountedAlike` — journals in which the sinks were called equally often
* `Builder.run_usable` — histories after a configuration and after what is usable of it -/

namespace Logline

/-! ## Charsets and patterns -/

namespace Charset

/-- The keywords of all charsets. -/
def keywords : List String :=
  ["UTF8", "UTF16", "UTF16BE", "UTF16LE", "ASCII", "USASCII", "LATIN1", "ISO88591"]

/-- A charset name is **known** if it is read as one of the keywords. -/
def Known (name : String) : Prop := Text.keyword name ∈ keywords

/-- Whether a name is known is decided by the labels. -/
instance (name : String) : Decidable (Known name) :=
  inferInstanceAs (Decidable (Text.keyword name ∈ keywords))

/-- The known names are those that are read as a charset. -/
theorem exists_parse_eq_ok_iff (name : String) : (∃ cs, parse name = .ok cs) ↔ Known name := by
  rw [parse, Known]
  split <;> simp_all [keywords]

/-- A known charset is used, and there is nothing to report. -/
theorem resolve_of_known {name : String} (known : Known name) :
    (resolve (some name)).2 = none := by
  obtain ⟨cs, parsed⟩ := (exists_parse_eq_ok_iff name).2 known
  rw [resolve, parsed]

/-- What is used in place of a charset that is not known, and what is reported. -/
theorem resolve_of_not_known {name : String} (unknown : ¬ Known name) :
    resolve (some name) = (.utf8, some ((Error.badSetting "charset" name "UTF-8").withCause
      (Error.ofMessage ("unsupported charset: " ++ Text.quote name)).toCause)) := by
  rw [← exists_parse_eq_ok_iff, not_exists] at unknown
  have refused : parse name
      = .error (Error.ofMessage ("unsupported charset: " ++ Text.quote name)) := by
    rw [parse] at unknown ⊢
    split <;> simp_all
  rw [resolve, refused]
  rfl

end Charset

namespace Config

/-- The report that is due where the charset is not known. -/
def charsetFault? (c : Config) : Option Error :=
  c.charset.bind fun name =>
    if Charset.Known name then none
    else some ((Error.badSetting "charset" name "UTF-8").withCause
      (Error.ofMessage ("unsupported charset: " ++ Text.quote name)).toCause)

/-- Whether dates or times of day are shown. -/
def showsCivil (c : Config) : Bool := c.showDateTime && c.dateTimeOutput.isCivil

/-- The report of the charset is the one that its resolution is due. -/
theorem charsetFault?_eq (c : Config) : c.charsetFault? = (Charset.resolve c.charset).2 := by
  rw [charsetFault?]
  cases c.charset with
  | none => rfl
  | some name =>
    rw [Option.bind_some]
    by_cases known : Charset.Known name
    · rw [if_pos known, Charset.resolve_of_known known]
    · rw [if_neg known, Charset.resolve_of_not_known known]

/-- The charset is reported if and only if it is not known. -/
theorem isSome_charsetFault?_iff (c : Config) :
    c.charsetFault?.isSome ↔ ∃ name ∈ c.charset, ¬ Charset.Known name := by
  rw [charsetFault?]
  cases c.charset with
  | none => simp
  | some name => by_cases known : Charset.Known name <;> simp [known]

variable [Calendar.Formatter]

/-- The report that is due where the pattern would be used and has no text, with what is wrong with
it at the first instant of 1970. -/
def patternFault? (c : Config) : Option Error :=
  if c.showsCivil then
    c.dateTimePattern.bind fun pattern =>
      (Calendar.Formatter.fault? pattern ⟨0, c.zone⟩).map fun words =>
        (Error.badSetting "date_time_pattern" pattern "default pattern").withCause (.text words)
  else none

/-- The reports that a configuration is due, that of the charset first. -/
def faults (c : Config) : List Error := c.charsetFault?.toList ++ c.patternFault?.toList

/-- A configuration without the settings that cannot be used; the pattern is tried on an instant. -/
def usable (c : Config) (millis : Int) : Config :=
  { c with
    charset := c.charset.filter fun name => Charset.Known name
    dateTimePattern := c.dateTimePattern.filter fun pattern =>
      (Calendar.Formatter.fault? pattern ⟨millis, c.zone⟩).isNone }

/-- A charset that is not known is the same as none. -/
theorem resolve_usable (c : Config) (millis : Int) :
    (Charset.resolve (c.usable millis).charset).1 = (Charset.resolve c.charset).1 := by
  rw [usable]
  cases c.charset with
  | none => rfl
  | some name =>
    by_cases known : Charset.Known name
    · simp [Option.filter, known]
    · rw [Charset.resolve_of_not_known known]
      simp [Option.filter, known, Charset.resolve]

/-- The report of the pattern is the one that the pipeline is due. -/
theorem patternFault?_eq (c : Config) (e : Environment) :
    c.patternFault? = (Pipeline.build c e).2 := by
  rw [patternFault?, showsCivil, Pipeline.build]
  cases shown : c.showDateTime with
  | false => simp
  | true =>
    rw [Timestamps.ofConfig]
    cases c.dateTimePattern with
    | none => simp
    | some pattern =>
      cases civil : c.dateTimeOutput.isCivil with
      | false => simp
      | true =>
        cases tried : Calendar.Formatter.format pattern ⟨0, c.zone⟩ <;>
          simp [Calendar.Formatter.fault?, tried]

/-- The reports are those of the settings that cannot be used where they would be. -/
theorem complaints_eq (trap : Trap) (c : Config) (e : Environment) :
    Stage.complaints trap c e = c.faults.map (.report trap) := by
  rw [Stage.complaints, faults, charsetFault?_eq, patternFault?_eq c e]

section Uniform
variable (uniform : Calendar.Formatter.Uniform) (c : Config)
include uniform

/-- What is left of a pattern is one that has texts. -/
theorem dateTimePattern_usable_iff (millis : Int) (pattern : String) :
    (c.usable millis).dateTimePattern = some pattern ↔
      c.dateTimePattern = some pattern ∧ Calendar.Formatter.Accepts pattern c.zone := by
  rw [uniform.accepts_iff millis, usable, Option.filter_eq_some_iff, Option.isNone_iff_eq_none]

/-- A pattern that has no text is the same as none, for the times that are shown. -/
theorem ofConfig_usable (millis : Int) :
    (Timestamps.ofConfig (c.usable millis)).1 = (Timestamps.ofConfig c).1 := by
  rw [usable, Timestamps.ofConfig, Timestamps.ofConfig]
  cases c.dateTimePattern with
  | none => rfl
  | some pattern =>
    -- the pattern has a text at the instant of the trial if it has one at the first of 1970
    have same : (Calendar.Formatter.fault? pattern ⟨millis, c.zone⟩).isNone
        = (Calendar.Formatter.fault? pattern ⟨0, c.zone⟩).isNone := by
      rw [← Option.not_isSome, ← Option.not_isSome, uniform pattern c.zone millis 0]
    rw [Option.filter_some, same]
    cases tried : Calendar.Formatter.format pattern ⟨0, c.zone⟩ with
    | ok text => simp [Calendar.Formatter.fault?, tried]
    | error words =>
      cases c.dateTimeOutput.isCivil <;> simp [Calendar.Formatter.fault?, tried]

/-- A pattern that has no text is the same as none, for the layouts and for the time. -/
theorem build_usable (millis : Int) (e : Environment) :
    (Pipeline.build (c.usable millis) e).1 = (Pipeline.build c e).1 := by
  rw [Pipeline.fst_build, Pipeline.fst_build, ofConfig_usable uniform]
  rfl

/-- The pattern is reported if and only if it would be used and has no text. -/
theorem isSome_patternFault?_iff :
    c.patternFault?.isSome ↔ c.showsCivil = true ∧
      ∃ pattern ∈ c.dateTimePattern, Calendar.Formatter.Refuses pattern c.zone := by
  simp only [uniform.refuses_iff 0]
  rw [patternFault?]
  cases c.showsCivil with
  | false => simp
  | true => cases c.dateTimePattern <;> simp

/-- Nothing is wrong with what is usable. -/
theorem faults_usable (millis : Int) : (c.usable millis).faults = [] := by
  have charset : (c.usable millis).charsetFault? = none := by
    rw [← Option.not_isSome_iff_eq_none, isSome_charsetFault?_iff]
    rintro ⟨name, given, unknown⟩
    obtain ⟨-, known⟩ := Option.filter_eq_some_iff.1 given
    exact unknown (of_decide_eq_true known)
  have pattern : (c.usable millis).patternFault? = none := by
    rw [← Option.not_isSome_iff_eq_none, isSome_patternFault?_iff uniform]
    rintro ⟨-, pattern, given, refused⟩
    have fault : (Calendar.Formatter.fault? pattern ⟨0, c.zone⟩).isSome := refused 0
    rw [((c.dateTimePattern_usable_iff uniform millis pattern).1 given).2 0] at fault
    cases fault
  rw [faults, charset, pattern]
  rfl

/-- No report is due if and only if what would be used can be. -/
theorem faults_eq_nil_iff : c.faults = [] ↔
    (∀ name ∈ c.charset, Charset.Known name) ∧ (c.showsCivil = true →
      ∀ pattern ∈ c.dateTimePattern, Calendar.Formatter.Accepts pattern c.zone) := by
  rw [faults, List.append_eq_nil_iff, Option.toList_eq_nil_iff, Option.toList_eq_nil_iff,
    ← Option.not_isSome_iff_eq_none, ← Option.not_isSome_iff_eq_none, isSome_charsetFault?_iff,
    isSome_patternFault?_iff uniform]
  simp [uniform.refuses_iff 0, uniform.accepts_iff 0]

end Uniform

end Config

/-! ## Stages that are alike -/

namespace Stage

/-- Stages are **alike** if their configurations lead to one pipeline and one charset, and they have
one backdrop. -/
structure Alike [Calendar.Formatter] (m m' : Stage) : Prop where
  pipeline : (Pipeline.build m.config m.start).1 = (Pipeline.build m'.config m'.start).1
  charset : (Charset.resolve m.config.charset).1 = (Charset.resolve m'.config.charset).1
  backdrop : m.backdrop = m'.backdrop

/-- A configuration takes effect like what is usable of it. -/
theorem inEffect_usable [Calendar.Formatter] (uniform : Calendar.Formatter.Uniform) (c : Config)
    (millis : Int) (b : Backdrop) : Alike (inEffect c b) (inEffect (c.usable millis) b) :=
  ⟨(c.build_usable uniform millis b.environment).symm, (c.resolve_usable millis).symm, rfl⟩

namespace Alike

variable [Calendar.Formatter] {m m' : Stage} (alike : Alike m m')

include alike

/-- At stages that are alike, one record is written of an event. -/
theorem record_eq (t : Thread) (e : Event) : m.record t e = m'.record t e := by
  rw [record, record, alike.pipeline, alike.charset, alike.backdrop]

/-- At stages that are alike, the same is asked for. -/
theorem demands_eq (trap : Trap) (a : Act) : m.demands trap a = m'.demands trap a := by
  cases a with
  | log t e => rw [demands, demands, alike.record_eq]
  | message t logger level template args throwable millis =>
    rw [demands, demands, compose, compose, alike.backdrop, alike.record_eq]
  | reconfigure c => rw [demands, demands, alike.backdrop]
  | flush | setVariable | changeContext => rfl

/-- **One act.** What is done at stages that are alike leads to stages that are alike. -/
theorem next (a : Act) : Alike (m.next a) (m'.next a) := by
  cases a with
  | reconfigure c =>
    rw [Stage.next, Stage.next, alike.backdrop]
    exact ⟨rfl, rfl, rfl⟩
  | message t logger level template args throwable millis =>
    refine ⟨alike.pipeline, alike.charset, ?_⟩
    simp only [Stage.next, compose, alike.backdrop]
  | setVariable name value =>
    refine ⟨alike.pipeline, alike.charset, ?_⟩
    simp only [Stage.next, alike.backdrop]
  | changeContext t f =>
    refine ⟨alike.pipeline, alike.charset, ?_⟩
    simp only [Stage.next, alike.backdrop]
  | log | flush => exact ⟨alike.pipeline, alike.charset, alike.backdrop⟩

/-- **A whole history.** From stages that are alike on, the same is asked for. -/
theorem traffic_eq (trap : Trap) (acts : List Act) :
    m.traffic trap acts = m'.traffic trap acts := by
  induction acts generalizing m m' with
  | nil => rfl
  | cons a acts ih => rw [traffic, traffic, alike.demands_eq, ih (alike.next a)]

end Alike

end Stage

/-! ## Journals with the same calls -/

/-- Journals are **counted alike** if every sink was called equally often in them, to write and to
flush. -/
structure Effect.CountedAlike (journal journal' : List Effect) : Prop where
  writes : ∀ sink, journal.countP (writesTo sink) = journal'.countP (writesTo sink)
  flushes : ∀ sink, journal.countP (flushes sink) = journal'.countP (flushes sink)

namespace Effect.CountedAlike

variable {journal journal' : List Effect}

/-- The same effects behind journals that are counted alike leave them so. -/
theorem append (alike : CountedAlike journal journal') (added : List Effect) :
    CountedAlike (journal ++ added) (journal' ++ added) := by
  refine ⟨fun sink => ?_, fun sink => ?_⟩
  · rw [List.countP_append, List.countP_append, alike.writes]
  · rw [List.countP_append, List.countP_append, alike.flushes]

/-- Reports are no calls of a sink. -/
theorem reports (journal : List Effect) (trap : Trap) (es : List Error) :
    CountedAlike (journal ++ es.map (.report trap)) journal := by
  refine ⟨fun sink => ?_, fun sink => ?_⟩ <;>
    simp [List.countP_append, List.countP_map, writesTo, Effect.flushes, Function.comp_def]

/-- In journals that are counted alike the next write to a sink has the same outcome. -/
theorem nextWrite_eq (alike : CountedAlike journal journal') (s : Sink) :
    s.nextWrite journal = s.nextWrite journal' := by
  rw [Sink.nextWrite, alike.writes, Sink.nextWrite]

/-- In journals that are counted alike the next flush of a sink has the same outcome. -/
theorem nextFlush_eq (alike : CountedAlike journal journal') (s : Sink) :
    s.nextFlush journal = s.nextFlush journal' := by
  rw [Sink.nextFlush, alike.flushes, Sink.nextFlush]

/-- Steps that add the same to journals that are counted alike do so one after the other. -/
theorem foldl {α : Type} {step : List Effect → α → List Effect} (xs : List α)
    (one : ∀ {j j'}, CountedAlike j j' → ∀ x,
      ∃ added, step j x = j ++ added ∧ step j' x = j' ++ added)
    (alike : CountedAlike journal journal') :
    ∃ added, xs.foldl step journal = journal ++ added ∧
      xs.foldl step journal' = journal' ++ added := by
  induction xs generalizing journal journal' with
  | nil => exact ⟨[], (List.append_nil _).symm, (List.append_nil _).symm⟩
  | cons x xs ih =>
    obtain ⟨first, eq, eq'⟩ := one alike x
    obtain ⟨rest, eqs, eqs'⟩ := ih (alike.append first)
    refine ⟨first ++ rest, ?_, ?_⟩
    · rw [List.foldl_cons, eq, eqs, List.append_assoc]
    · rw [List.foldl_cons, eq', eqs', List.append_assoc]

/-- A demand adds the same to journals that are counted alike: the outcomes of its calls are the
same. -/
theorem perform (alike : CountedAlike journal journal') (routes : Routes) (trap : Trap)
    (d : Demand) : ∃ added, d.perform routes trap journal = journal ++ added ∧
      d.perform routes trap journal' = journal' ++ added := by
  cases d with
  | record level bytes =>
    refine ⟨_, rfl, ?_⟩
    rw [Demand.perform, alike.nextWrite_eq, alike.nextFlush_eq]
  | flush =>
    refine foldl routes.sinks (fun alike s => ⟨_, rfl, ?_⟩) alike
    rw [Sink.flushBehind, alike.nextFlush_eq]
  | report trap e => exact ⟨[.report trap e], rfl, rfl⟩

end Effect.CountedAlike

/-! ## What is usable -/

/-- Two worlds **differ by** some effects behind a journal if these come first in one of them and
all else is the same, in particular what was written to every place. -/
def World.DifferBy (journal first : List Effect) (w w' : World) : Prop :=
  ∃ added, w.journal = journal ++ first ++ added ∧ w'.journal = journal ++ added ∧
    ∀ place, w.bytesAt place = w'.bytesAt place

/-- Reports write nothing anywhere. -/
theorem World.differBy_reports {journal added : List Effect} {trap : Trap} {es : List Error}
    {w w' : World} (eq : w.journal = journal ++ es.map (.report trap) ++ added)
    (eq' : w'.journal = journal ++ added) : w.DifferBy journal (es.map (.report trap)) w' := by
  refine ⟨added, eq, eq', fun place => ?_⟩
  have silent : (es.map (Effect.report trap)).flatMap (Effect.bytesAt place) = [] := by
    rw [List.flatMap_map, List.flatMap_eq_nil_iff]
    exact fun e _ => rfl
  rw [bytesAt, bytesAt, eq, eq', List.flatMap_append, List.flatMap_append, silent, List.append_nil,
    List.flatMap_append]

namespace Builder

variable [Calendar.Formatter] (b : Builder) (w : World)

/-- What building a logger comes to: its reports. -/
theorem journal_build :
    (b.build w).2.journal = w.journal ++ b.config.faults.map (.report b.trap) := by
  have journal := (StandsAt.build b.allRoutes b.trap b.config w).2
  rw [Config.complaints_eq, foldl_perform_report] at journal
  exact journal

/-- A new logger does what one does whose configuration is what is usable, but for its reports. -/
theorem run_build_differBy (uniform : Calendar.Formatter.Uniform) (millis : Int)
    (acts : List Act) :
    (Logger.run (b.build w) acts).2.DifferBy w.journal (b.config.faults.map (.report b.trap))
      (Logger.run ((b.withConfig (b.config.usable millis)).build w) acts).2 := by
  have journal := (StandsAt.run_builder b w acts).2
  have journal' := (StandsAt.run_builder (b.withConfig (b.config.usable millis)) w acts).2
  -- the second one reports nothing and asks for the same then
  have silent : Stage.complaints b.trap (b.config.usable millis) w.environment = [] := by
    rw [Config.complaints_eq, Config.faults_usable uniform]
    rfl
  have traffic :=
    (Stage.inEffect_usable uniform b.config millis w.backdrop).traffic_eq b.trap acts
  dsimp only [withConfig] at journal'
  rw [silent, List.nil_append, ← traffic] at journal'
  rw [Config.complaints_eq, List.foldl_append, foldl_perform_report] at journal
  obtain ⟨added, eq, eq'⟩ := Effect.CountedAlike.foldl
    ((Stage.inEffect b.config w.backdrop).traffic b.trap acts)
    (fun alike d => alike.perform b.allRoutes b.trap d)
    (Effect.CountedAlike.reports w.journal b.trap b.config.faults)
  exact World.differBy_reports (journal.trans eq) (journal'.trans eq')

/-- **Settings that cannot be used.** Let the formatter be uniform. A charset that is not known and
a pattern without a text are each reported once, the charset first and the pattern only where dates
or times of day are shown, when the configuration takes effect in a new logger or in one that was in
use. Whatever is done then leads to what it leads to under the same configuration without these
settings: the same calls of the sinks with the same outcomes, and so the same bytes. It makes no
difference on which instant patterns are tried to tell the ones that can be used. -/
theorem run_usable (uniform : Calendar.Formatter.Uniform) (earlier : List Act) (c : Config)
    (later : List Act) (millis : Int) :
    let now := Logger.run (b.build w) earlier
    let reports := c.faults.map (Effect.report b.trap)
    let usable := c.usable millis
    ((b.withConfig c).build w).2.journal = w.journal ++ reports ∧
    (Logger.run ((b.withConfig c).build w) later).2.DifferBy w.journal reports
      (Logger.run ((b.withConfig usable).build w) later).2 ∧
    (now.1.reconfigure c now.2).2.journal = now.2.journal ++ reports ∧
    (Logger.run (now.1.reconfigure c now.2) later).2.DifferBy now.2.journal reports
      (Logger.run (now.1.reconfigure usable now.2) later).2 ∧
    (c.charsetFault?.isSome ↔ ∃ name ∈ c.charset, ¬ Charset.Known name) ∧
    (c.patternFault?.isSome ↔ c.showsCivil = true ∧
      ∃ pattern ∈ c.dateTimePattern, Calendar.Formatter.Refuses pattern c.zone) ∧
    (∀ pattern, usable.dateTimePattern = some pattern ↔
      c.dateTimePattern = some pattern ∧ Calendar.Formatter.Accepts pattern c.zone) ∧
    (c.faults = [] ↔ (∀ name ∈ c.charset, Charset.Known name) ∧ (c.showsCivil = true →
      ∀ pattern ∈ c.dateTimePattern, Calendar.Formatter.Accepts pattern c.zone)) := by
  intro now reports usable
  have stands := (StandsAt.run_builder b w earlier).1
  -- a logger that is reconfigured is the one that is built anew
  have built : ∀ c', now.1.reconfigure c' now.2 = (b.withConfig c').build now.2 :=
    stands.reconfigure_eq_build
  rw [built, built]
  exact ⟨(b.withConfig c).journal_build w,
    (b.withConfig c).run_build_differBy w uniform millis later,
    (b.withConfig c).journal_build now.2,
    (b.withConfig c).run_build_differBy now.2 uniform millis later,
    c.isSome_charsetFault?_iff, c.isSome_patternFault?_iff uniform,
    c.dateTimePattern_usable_iff uniform millis, c.faults_eq_nil_iff uniform⟩

end Builder

/-- An unknown charset and a pattern with an unfinished directive: two reports, and the records are
those of a configuration that has neither. -/
theorem Builder.run_usable_two_faults :
    letI := Calendar.Formatter.verbatim
    let c : Config :=
      { charset := some "EBCDIC", showDateTime := true, dateTimePattern := some "12%" }
    let b := Builder.standard (Sink.reliable 0 .stderr)
    let acts := [.log ⟨0, some "main"⟩ (.ofText "app" .info (some "é") none 1700000000123), .flush]
    Calendar.Formatter.Uniform ∧ ¬ Charset.Known "EBCDIC" ∧
    Calendar.Formatter.Refuses "12%" c.zone ∧ c.faults.length = 2 ∧
    (Logger.run ((b.withConfig c).build {}) acts).2.DifferBy [] (c.faults.map (.report b.trap))
      (Logger.run ((b.withConfig { showDateTime := true }).build {}) acts).2 := by
  let _ := Calendar.Formatter.verbatim
  intro c b acts
  have refused : Calendar.Formatter.Refuses "12%" c.zone := fun _ => rfl
  refine ⟨Calendar.Formatter.uniform_verbatim, by decide +kernel, refused, by decide +kernel, ?_⟩
  have usable : c.usable 0 = { showDateTime := true } := by
    have charset : (c.usable 0).charset = none := by decide +kernel
    have pattern : (c.usable 0).dateTimePattern = none := by decide +kernel
    show { c with
      charset := (c.usable 0).charset, dateTimePattern := (c.usable 0).dateTimePattern } = _
    rw [charset, pattern]
  rw [← usable]
  exact (run_usable b {} Calendar.Formatter.uniform_verbatim [] c acts 0).2.1

end Logline
