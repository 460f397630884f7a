import Logline.Proofs.History.Variables
import Logline.Proofs.Thread.Contexts

/-! # Diagnostic contexts in the records of a history

Threads take turns: one changes its context by a call, another one logs an event, or something else
is done with the logger. A record that shows the context shows what is live for the thread that logs
it, key by key in the order of their bytes, as a segment of a line or as a member of an object.

* `Turn` — what the threads of a program do
* `Stage.diagnostics_after` — the contexts of a stage, told from its history
* `StandsAt.exists_record` — the record of an event that is logged
* `Context.segment`, `LineRecord.join_parts` — the context in a line
* `Builder.run_contexts` — the context in a record of any history -/

namespace Logline

/-! ## Turns -/

/-- Whether an act changes a context. -/
def Act.changesContext : Act → Bool
  | .changeContext _ _ => true
  | .log _ _ | .message _ _ _ _ _ _ _ | .flush | .reconfigure _ | .setVariable _ _ => false

/-- What a thread of a program does when it is its turn. -/
inductive Turn where
  /-- It changes its own context. -/
  | call (t : Thread) (change : Context.Call)
  /-- It does something else. -/
  | act (a : Act) (apart : a.changesContext = false)

namespace Turn

/-- The act of a turn. -/
def toAct : Turn → Act
  | .call t change => .changeContext t change.apply
  | .act a _ => a

/-- The call of a turn, where there is one, and the thread that makes it. -/
def call? : Turn → Option (Thread × Context.Call)
  | .call t change => some (t, change)
  | .act _ _ => none

end Turn

namespace Stage

variable (m : Stage) {earlier : List (Thread × Context.Call)}

/-- **One turn.** The contexts are what all calls leave, those before the turn and its own. -/
theorem diagnostics_next (start : m.backdrop.diagnostics = Diagnostics.after earlier) (x : Turn) :
    (m.next x.toAct).backdrop.diagnostics = Diagnostics.after (earlier ++ x.call?.toList) := by
  cases x with
  | call t change =>
    rw [Turn.call?, Option.toList_some, Diagnostics.after, List.foldl_append, ← Diagnostics.after,
      ← start]
    rfl
  | act a apart =>
    -- acts other than calls leave all contexts alone
    rw [Turn.call?, Option.toList_none, List.append_nil, ← start]
    cases a with
    | changeContext => cases apart
    | log | message | flush | reconfigure | setVariable => rfl

/-- **A whole history.** -/
theorem diagnostics_after (start : m.backdrop.diagnostics = Diagnostics.after earlier)
    (turns : List Turn) : (m.after (turns.map Turn.toAct)).backdrop.diagnostics
      = Diagnostics.after (earlier ++ turns.filterMap Turn.call?) := by
  induction turns generalizing m earlier with
  | nil =>
    rw [List.filterMap_nil, List.append_nil, ← start]
    rfl
  | cons x turns ih =>
    -- for the turns that follow, the call of the first one is an earlier call
    have calls : (x :: turns).filterMap Turn.call?
        = x.call?.toList ++ turns.filterMap Turn.call? := by
      cases x <;> rfl
    rw [calls, ← List.append_assoc]
    exact ih _ (m.diagnostics_next start x)

end Stage

/-! ## Records -/

/-- An event that is logged is written once, as a line or as an object, behind what is in its
buffer. -/
theorem StandsAt.exists_record [Calendar.Formatter] {routes : Routes} (merged : routes.Merged)
    {trap : Trap} {m : Stage}
    {s : Logger × World} (stands : StandsAt routes trap m s) {a : Act} {t : Thread} {e : Event}
    (logs : a.logs? m.backdrop = some (t, e)) :
    ∃ added record, (Logger.act s a).2.journal = s.2.journal ++ added ∧
      added.filterMap Effect.write? = [((routes.sink e.level).handle, (routes.sink e.level).id,
        (Charset.resolve m.config.charset).1.encode (e.buffer ++ record))] ∧
      (m.config.format = .text →
        record = LineRecord.text m.config m.start (m.backdrop.surroundings t) e) ∧
      (m.config.format = .json → record
        = (Json.object (JsonRecord.members m.config m.start (m.backdrop.surroundings t) e)).text
          ++ "\n") := by
  obtain ⟨added, journal, writes⟩ :=
    Demand.exists_foldl_perform routes trap (m.demands trap a) s.2.journal
  have performed := (stands.act merged a).2.trans journal
  -- the one write that the act asks for is that of its record
  rw [Stage.write?_demands logs, Stage.record, Demand.write?] at writes
  cases format : m.config.format with
  | text =>
    have laid_out : ((Pipeline.build m.config m.start).1.render
        (m.backdrop.surroundings t) e).1.buffer
          = e.buffer ++ LineRecord.text m.config m.start (m.backdrop.surroundings t) e :=
      congrArg Event.buffer
        (Pipeline.render_after_line format m.start [] (m.backdrop.surroundings t) e)
    rw [laid_out] at writes
    refine ⟨added, _, performed, writes, fun _ => rfl, fun other => ?_⟩
    cases other
  | json =>
    have laid_out : ((Pipeline.build m.config m.start).1.render
        (m.backdrop.surroundings t) e).1.buffer = e.buffer
          ++ ((Json.object (JsonRecord.members m.config m.start (m.backdrop.surroundings t) e)).text
            ++ "\n") := by
      rw [← String.append_assoc]
      exact Pipeline.buffer_render_after format m.start [] (m.backdrop.surroundings t) e
    rw [laid_out] at writes
    refine ⟨added, _, performed, writes, fun other => ?_, fun _ => rfl⟩
    cases other

/-- Further parts come behind the text of the earlier ones. -/
theorem LinePart.join_append (ps qs : List LinePart) : join (ps ++ qs) = join ps ++ join qs := by
  rw [join, List.filter_append, List.map_append, String.join_append, join, join]

/-- A context as a segment of a line; nothing where it is empty. -/
def Context.segment (c : Context) : String :=
  if c.isEmpty then ""
  else "\x7b" ++ ", ".intercalate (c.map fun v => v.1 ++ "=" ++ v.2) ++ "\x7d "

/-- Only the empty context leaves no text. -/
theorem Context.segment_eq_empty_iff (c : Context) : c.segment = "" ↔ c = [] := by
  cases c with
  | nil => exact iff_of_true rfl rfl
  | cons v rest => simp [segment]

/-- A line with what stands in the place of the context: nothing else depends on it. -/
theorem LineRecord.join_parts [Calendar.Formatter] (c : Config) (vs : List (String × Option String))
    (s : Layout.Surroundings) (e : Event) :
    let others := parts c vs { s with context := [] } e
    LinePart.join (parts c vs s e) = LinePart.join (others.take 5)
      ++ (if c.showContext then s.context.segment else "") ++ LinePart.join (others.drop 6) := by
  intro others
  let place : LinePart := ⟨c.showContext && !s.context.isEmpty,
    "\x7b" ++ ", ".intercalate (s.context.map fun v => v.1 ++ "=" ++ v.2) ++ "\x7d "⟩
  -- five parts in front of it and four behind
  have split : parts c vs s e = others.take 5 ++ [place] ++ others.drop 6 := rfl
  have text : LinePart.join [place] = if c.showContext then s.context.segment else "" := by
    rw [LinePart.join_cons, LinePart.join_nil, String.append_empty, Context.segment]
    cases shown : c.showContext <;> cases empty : s.context.isEmpty <;>
      simp [place, shown, empty]
  rw [split, LinePart.join_append, LinePart.join_append, text]

/-- The context in an object, where it is shown. -/
theorem JsonRecord.lookup_context [Calendar.Formatter] (c : Config) (start : Environment)
    (s : Layout.Surroundings) (e : Event) : (members c start s e).lookup "context"
      = if c.showContext then some (.object (s.context.map fun v => (v.1, .string v.2)))
        else none := by
  have no_slots : (Slot.visible []).lookup "context" = none := rfl
  rw [members, slots, eventSlots, throwableSlots]
  cases c.showContext <;> simp [Slot.lookup_visible_cons, no_slots]

/-- **Diagnostic contexts in records.** However the calls of threads and everything else that is
done with a logger follow each other, the context of a thread is what its own calls leave: under
every key what its last call about the key put there, and nothing else, key by key in the order of
their bytes. A record that shows the context shows these pairs in this order, a line as a segment
that is missing if and only if there are none, and an object as one member. -/
theorem Builder.run_contexts [Calendar.Formatter] (b : Builder) (w : World)
    (earlier : List (Thread × Context.Call)) (turns : List Turn) {a : Act} {t : Thread} {e : Event}
    (logs : a.logs? (Logger.run (b.build { w with diagnostics := Diagnostics.after earlier })
      (turns.map Turn.toAct)).2.backdrop = some (t, e))
    (shows : (Act.configAfter b.config (turns.map Turn.toAct)).showContext = true) :
    let acts := turns.map Turn.toAct
    let now := Logger.run (b.build { w with diagnostics := Diagnostics.after earlier }) acts
    let c := Act.configAfter b.config acts
    let vs := c.shownVariables (Act.textAfter w.environment (Act.seen c acts))
    let sink := b.allRoutes.sink e.level
    let calls := Diagnostics.own t (earlier ++ turns.filterMap Turn.call?)
    let context := now.2.diagnostics t.number
    let others := LineRecord.parts c vs { now.2.backdrop.surroundings t with context := [] } e
    context = Context.after calls ∧
    (∀ key value, (key, value) ∈ context ↔ Context.Live calls key value) ∧
    (context.map Prod.fst).Pairwise
      (fun k l => Charset.encode .utf8 k < Charset.encode .utf8 l) ∧
    (context.segment = "" ↔ ∀ key value, ¬ Context.Live calls key value) ∧
    ∃ added record, (Logger.act now a).2.journal = now.2.journal ++ added ∧
      added.filterMap Effect.write? = [(sink.handle, sink.id,
        (Charset.resolve c.charset).1.encode (e.buffer ++ record))] ∧
      (c.format = .text → record
        = LinePart.join (others.take 5) ++ context.segment ++ LinePart.join (others.drop 6)) ∧
      (c.format = .json → ∃ line members, record = line ++ "\n" ∧
        Json.read line = some (.object members) ∧ (members.map Prod.fst).Nodup ∧
        members.lookup "context" = some (.object (context.map fun v => (v.1, .string v.2)))) := by
  intro acts now c vs sink calls context others
  let start : World := { w with diagnostics := Diagnostics.after earlier }
  have stands := (StandsAt.run_builder b start acts).1
  have config : ((Stage.inEffect b.config start.backdrop).after acts).config = c :=
    Stage.config_after b.config start.backdrop acts
  have seen := Stage.get?_seen b.config start.backdrop acts rfl
  have own : ((Stage.inEffect b.config start.backdrop).after acts).backdrop.diagnostics t.number
      = Context.after calls := by
    rw [Stage.diagnostics_after _ rfl turns, Diagnostics.after_eq]
  -- all that follows is told from the stage at which the logger and the world stand
  generalize (Stage.inEffect b.config start.backdrop).after acts = m at stands config seen own
  have backdrop : now.2.backdrop = m.backdrop := stands.backdrop
  have context_eq : context = Context.after calls := by
    rw [← own, ← backdrop]
    rfl
  refine ⟨context_eq, fun key value => ?_, ?_, ?_, ?_⟩
  · rw [context_eq]
    exact Context.mem_after_iff calls
  · rw [context_eq]
    exact (Context.sorted_after calls).pairwise_bytes
  · rw [Context.segment_eq_empty_iff, context_eq]
    exact Context.after_eq_nil_iff calls
  · obtain ⟨added, record, journal, writes, line, object⟩ :=
      stands.exists_record b.allRoutes_merged (backdrop ▸ logs)
    rw [config] at writes line object seen
    rw [← backdrop] at line object seen
    have shown : c.shownVariables (if c.environmentRememberOnStart then m.start
        else (now.2.backdrop.surroundings t).environment).get? = vs :=
      congrArg c.shownVariables seen
    refine ⟨added, record, journal, writes, fun format => ?_, fun format =>
      ⟨_, _, object format, Json.read_text (JsonRecord.spelled_members c m.start _ e),
        JsonRecord.nodup_map_fst_members c m.start _ e, ?_⟩⟩
    · rw [line format, LineRecord.text, shown, LineRecord.join_parts, if_pos shows]
      rfl
    · rw [JsonRecord.lookup_context, if_pos shows]
      rfl

/-- Two threads with one key in common: what the other one does about it is of no account. -/
theorem Builder.run_contexts_two_threads :
    letI := Calendar.Formatter.verbatim
    let c : Config := { showContext := true, showThreadName := false, loggerName := .hidden }
    let b := (Builder.standard (Sink.reliable 0 .stderr)).withConfig c
    let main : Thread := ⟨0, some "main"⟩
    let other : Thread := ⟨1, none⟩
    let earlier : List (Thread × Context.Call) :=
      [(other, .insert "a" "0"), (main, .insert "b" "1"), (main, .insert "c" "2")]
    let turns : List Turn :=
      [.call main (.insert "a" "3"), .call other .clear, .act .flush rfl,
        .call main (.insert "b" "4"), .call main (.remove "c")]
    let now := Logger.run (b.build { diagnostics := Diagnostics.after earlier })
      (turns.map Turn.toAct)
    let e : Event := .ofText "app" .info (some "m") none 0
    (Act.log main e).logs? now.2.backdrop = some (main, e) ∧
    (Act.configAfter b.config (turns.map Turn.toAct)).showContext = true ∧
    Context.Live (Diagnostics.own main (earlier ++ turns.filterMap Turn.call?)) "b" "4" ∧
    ∃ added, (Logger.act now (.log main e)).2.journal = now.2.journal ++ added ∧
      added.filterMap Effect.write?
        = [(0, .stderr, Charset.utf8.encode "INFO \x7ba=3, b=4\x7d m\n")] := by
  let _ := Calendar.Formatter.verbatim
  intro c b main other earlier turns now e
  obtain ⟨-, live, -, -, added, record, journal, writes, line, -⟩ :=
    run_contexts b {} earlier turns (a := .log main e) (t := main) (e := e) rfl rfl
  have context : now.2.diagnostics main.number = [("a", "3"), ("b", "4")] := by decide
  refine ⟨rfl, rfl, (live "b" "4").1 ?_, added, journal, ?_⟩
  · show ("b", "4") ∈ now.2.diagnostics main.number
    rw [context]
    exact List.mem_cons_of_mem _ List.mem_cons_self
  · have whole : record = LinePart.join [⟨true, "INFO "⟩]
        ++ Context.segment (now.2.diagnostics main.number) ++ "m\n" := line rfl
    rw [whole, context] at writes
    exact writes

end Logline
