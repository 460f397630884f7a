import Logline.Proofs.Sharing.Order
import Logline.Proofs.Sharing.Stream
import Mathlib.Data.List.Permutation

/-! # Whole records

Whatever the threads of a shared logger log, however often it is reconfigured meanwhile, and
whatever the order of the steps: its streams hold whole records, one for each call, each laid out
and encoded under one configuration.

* `SharedLogger.Genuine` — a record of a call, under the configuration that was in effect when the
  call began
* `SharedLogger.Whole` — what is promised of a state that a run reaches
* `SharedLogger.whole_of_run` — every state that a run reaches keeps the promise -/

namespace Logline.SharedLogger

/-! ## Bytes of a place -/

/-- What is not seen at a place adds no bytes to it. -/
theorem bytesAt_effectsAt (place : SinkId) (journal : List Effect) :
    (effectsAt place journal).flatMap (Effect.bytesAt place)
      = journal.flatMap (Effect.bytesAt place) := by
  induction journal with
  | nil => rfl
  | cons effect journal ih =>
    rw [List.flatMap_cons, ← ih, effectsAt, List.filter_cons]
    by_cases at_place : effect.isAt place = true
    · rw [if_pos at_place, List.flatMap_cons, effectsAt]
    · rw [if_neg at_place]
      -- an effect that is elsewhere is a write to another place, or it writes nothing
      cases effect with
      | write handle id bytes error =>
        have elsewhere : id.same place = false := Bool.not_eq_true _ ▸ at_place
        cases error <;> simp [Effect.bytesAt, elsewhere, effectsAt]
      | flush => rfl
      | report => rfl

section

variable {place : SinkId}

/-- Pieces that are written to a place put their bytes there. -/
theorem bytesAt_pieces {s : Sink} (at_place : s.id.same place = true) (pieces : List (List UInt8)) :
    (pieces.map (pieceEffect s)).flatMap (Effect.bytesAt place) = pieces.flatten := by
  induction pieces with
  | nil => rfl
  | cons piece pieces ih =>
    rw [List.map_cons, List.flatMap_cons, ih, List.flatten_cons, pieceEffect, Effect.bytesAt,
      if_pos at_place]

/-- A delivery to a place puts its pieces there. -/
theorem Delivery.bytesAt_effects {d : Delivery} (at_place : d.parcel.sink.id.same place = true) :
    d.effects.flatMap (Effect.bytesAt place) = d.pieces.flatten := by
  have flush : Effect.bytesAt place (flushEffect d.parcel.sink) = [] := rfl
  rw [effects, List.flatMap_append, bytesAt_pieces at_place, List.flatMap_singleton, flush,
    List.append_nil]

end

/-! ## What is promised -/

/-- A record is **genuine** if its thread asked for it, at a moment of the run, and it is the record
of the configuration that was in effect at that moment, for the sink of its level. -/
def Genuine [Calendar.Formatter] (b : Builder) (e : Environment) (calls : Nat → List Call)
    (steps : List (Nat × Action)) (n : Nat) (p : Parcel) : Prop :=
  p.sink = b.allRoutes.sink p.request.event.level ∧
    ∃ before after s rest config environment, steps = before ++ (n, Action.load) :: after ∧
      Run b.allRoutes b.trap (start b e calls) before s ∧ s.phases n = .idle ∧
      s.todo n = .log p.request :: rest ∧ Source s.setups s.installed config environment ∧
      p.bytes = record config environment p.request

/-- Whether the records of a request go to a place. -/
def Request.goesTo (routes : Routes) (place : SinkId) (r : Request) : Bool :=
  (routes.sink r.event.level).id.same place

/-- Every call has returned, and no thread has one left. -/
def Finished (s : SharedLogger) : Prop := ∀ n, s.phases n = .idle ∧ s.todo n = []

/-- What is promised of a state that a run reaches. -/
structure Whole [Calendar.Formatter] (b : Builder) (e : Environment) (calls : Nat → List Call)
    (steps : List (Nat × Action)) (s : SharedLogger) : Prop where
  /-- What is seen at a place is record after record, each with its flush behind it, and then
  nothing, or pieces of the record of the thread that has the lock. -/
  flushed : ∀ place, ∃ opened, effectsAt place s.journal
      = (deliveredAt place s.delivered).flatMap Delivery.effects ++ opened ∧
    (opened = [] ∨ ∃ n p pieces rest, s.phases n = .writing p pieces rest ∧
      s.holder p.sink.handle = some n ∧ p.sink.id.same place = true ∧
      opened = pieces.map (pieceEffect p.sink))
  /-- The bytes of a place are those of whole records, and then none, or the front of the record of
  the thread that has the lock. -/
  bytes : ∀ place, ∃ front, s.journal.flatMap (Effect.bytesAt place)
      = (deliveredAt place s.delivered).flatMap (fun d => d.parcel.bytes) ++ front ∧
    (front = [] ∨ ∃ n p pieces rest, s.phases n = .writing p pieces rest ∧
      s.holder p.sink.handle = some n ∧ p.sink.id.same place = true ∧ front <+: p.bytes)
  /-- The pieces of a delivered record are the whole record. -/
  pieces : ∀ d ∈ s.delivered, d.pieces.flatten = d.parcel.bytes
  /-- Delivered records are genuine. -/
  delivered : ∀ d ∈ s.delivered, Genuine b e calls steps d.thread d.parcel
  /-- So are those that are being written. -/
  writing : ∀ n p pieces rest, s.phases n = .writing p pieces rest → Genuine b e calls steps n p
  /-- In the end nothing is left open, and a place has one record for each call that goes there,
  those of a thread in the order of its calls. -/
  finished : s.Finished → ∀ place,
    effectsAt place s.journal = (deliveredAt place s.delivered).flatMap Delivery.effects ∧
      ∀ n, (deliveredBy n (deliveredAt place s.delivered)).map (fun d => d.parcel.request)
        = ((calls n).filterMap Call.request?).filter (Request.goesTo b.allRoutes place)

section

variable [Calendar.Formatter] {b : Builder} {e : Environment} {calls : Nat → List Call}
  {steps : List (Nat × Action)} {s : SharedLogger} {n : Nat} {p : Parcel}

/-- A faithful record that has a moment is genuine. -/
theorem genuine_of_loadedAt (faithful : p.Faithful b.allRoutes s.setups)
    (loaded : LoadedAt b.allRoutes b.trap (start b e calls) steps s n p.request p.number) :
    Genuine b e calls steps n p := by
  obtain ⟨before, after, s₀, rest, rfl, run, later, idle, next, installed⟩ := loaded
  obtain ⟨config, environment, source⟩ := (faithful_of_run run).installed
  refine ⟨faithful.sink, before, after, s₀, rest, config, environment, rfl, run, idle, next, source,
    ?_⟩
  -- the setup that was loaded was built from one configuration, then as now
  obtain ⟨config', environment', source', bytes⟩ := faithful.bytes
  rw [installed] at source
  obtain ⟨rfl, rfl⟩ := source'.unique (later.source source)
  exact bytes

/-- The bytes of the deliveries to a place. -/
theorem bytesAt_delivered (faithful : s.Faithful b.allRoutes b.trap) (place : SinkId) :
    ((deliveredAt place s.delivered).flatMap Delivery.effects).flatMap (Effect.bytesAt place)
      = (deliveredAt place s.delivered).flatMap fun d => d.parcel.bytes := by
  rw [List.flatMap_assoc]
  refine List.flatMap_congr fun d mem => ?_
  obtain ⟨mem, at_place⟩ := List.mem_filter.1 mem
  rw [Delivery.bytesAt_effects at_place, (faithful.delivered d mem).pieces]

/-- A thread that is idle has delivered what its program asks for. -/
theorem requests_of_idle (run : Run b.allRoutes b.trap (start b e calls) steps s)
    (idle : s.phases n = .idle) (done : s.todo n = []) :
    (deliveredBy n s.delivered).map (fun d => d.parcel.request)
      = (calls n).filterMap Call.request? := by
  rw [← course_of_run run n, course, idle, done]
  exact (List.append_nil _).symm

/-- What a thread delivered to a place is what it delivered of the requests that go there. -/
theorem requests_deliveredAt (faithful : s.Faithful b.allRoutes b.trap) (place : SinkId) (n : Nat) :
    (deliveredBy n (deliveredAt place s.delivered)).map (fun d => d.parcel.request)
      = ((deliveredBy n s.delivered).map (fun d => d.parcel.request)).filter
          (Request.goesTo b.allRoutes place) := by
  -- where a record was delivered to and where its request goes is one place
  rw [List.filter_map, deliveredBy, deliveredAt, List.filter_filter, deliveredBy,
    List.filter_filter]
  congr 1
  refine List.filter_congr fun d mem => ?_
  rw [Function.comp_apply, Request.goesTo, ← (faithful.delivered d mem).parcel.sink, Bool.and_comm]

/-- **Whole records under every interleaving.** -/
theorem whole_of_run (run : Run b.allRoutes b.trap (start b e calls) steps s) :
    Whole b e calls steps s := by
  have faithful := faithful_of_run run
  have traced := traced_of_run run
  have opened := fun place => (streams_of_run run).exists_opened (exclusive_of_run run) place
  refine ⟨opened, ?_, fun d mem => (faithful.delivered d mem).pieces, ?_, ?_, ?_⟩
  · intro place
    obtain ⟨opened, seen, from_writer⟩ := opened place
    refine ⟨opened.flatMap (Effect.bytesAt place), ?_, ?_⟩
    -- the deliveries are whole records, and what is left is a front of one
    · rw [← bytesAt_effectsAt, seen, List.flatMap_append, bytesAt_delivered faithful]
    · rcases from_writer with rfl | ⟨n, p, pieces, rest, writing, lock, at_place, rfl⟩
      · exact Or.inl rfl
      · refine Or.inr ⟨n, p, pieces, rest, writing, lock, at_place, rest, ?_⟩
        rw [bytesAt_pieces at_place]
        exact (faithful.phase writing).2
  · intro d mem
    exact genuine_of_loadedAt (faithful.delivered d mem).parcel (traced.delivered d mem)
  · intro n p pieces rest writing
    refine genuine_of_loadedAt (faithful.phase writing).1 (traced.phases n p.request p.number ?_)
    rw [writing]
    rfl
  · intro finished place
    constructor
    · obtain ⟨opened, seen, from_writer⟩ := opened place
      rcases from_writer with rfl | ⟨n, p, pieces, rest, writing, -⟩
      · rw [seen, List.append_nil]
      -- no thread is writing any more
      · rw [(finished n).1] at writing
        cases writing
    · intro n
      rw [requests_deliveredAt faithful, requests_of_idle run (finished n).1 (finished n).2]

end

/-- Two threads and one sink: the first one loads the setup before the second one installs another,
and waits for the lock while the second one writes its own record in two pieces. -/
theorem whole_of_run_reconfigured :
    letI := Calendar.Formatter.verbatim
    let b : Builder := ⟨{ showThreadName := false }, .reliable 0 .stdout, [], .recorder⟩
    let json : Config := { format := .json, showThreadName := false }
    let hello (text : String) : Request :=
      ⟨⟨[], ⟨0, none⟩, [], {}⟩, .ofText "app" .info (some text) none 0⟩
    let calls : Nat → List Call := fun n =>
      if n = 0 then [.log (hello "old")]
      else if n = 1 then [.reconfigure json [], .log (hello "new")] else []
    ∃ steps s, Run b.allRoutes b.trap (start b [] calls) steps s ∧ s.Finished ∧
      s.journal.flatMap (Effect.bytesAt .stdout)
        = Charset.utf8.encode
          ("\x7b\"level\":\"INFO\",\"logger\":\"app\",\"message\":\"new\"\x7d\n"
            ++ "INFO app - old\n") ∧
      Whole b [] calls steps s := by
  let _ := Calendar.Formatter.verbatim
  intro b json hello calls
  have run₁ : Run b.allRoutes b.trap (start b [] calls) _ _ := Run.nil.snoc (n := 0) (.load rfl rfl)
  have run₂ := run₁.snoc (n := 1) (.build rfl rfl rfl)
  have run₃ := run₂.snoc (n := 1) (.install rfl)
  have run₄ := run₃.snoc (n := 1) (.announce rfl)
  have run₅ := run₄.snoc (n := 1) (.load rfl rfl)
  have run₆ := run₅.snoc (n := 0) (.look rfl rfl)
  have run₇ := run₆.snoc (n := 0) (.layOut rfl rfl rfl rfl rfl)
  have run₈ := run₇.snoc (n := 1) (.look rfl rfl)
  have run₉ := run₈.snoc (n := 1) (.layOut rfl rfl rfl rfl rfl)
  have run₁₀ := run₉.snoc (n := 1) (.lock rfl rfl)
  -- the record that is written first was asked for last
  have run₁₁ := run₁₀.snoc (n := 1) (.write (congrArg _ (List.take_append_drop 5 _).symm))
  have run₁₂ := run₁₁.snoc (n := 1) (.write (congrArg _ (List.append_nil _).symm))
  have run₁₃ := run₁₂.snoc (n := 1) (.flush rfl)
  have run₁₄ := run₁₃.snoc (n := 1) (.unlock rfl)
  have run₁₅ := run₁₄.snoc (n := 0) (.lock rfl rfl)
  have run₁₆ := run₁₅.snoc (n := 0) (.write (congrArg _ (List.append_nil _).symm))
  have run₁₇ := run₁₆.snoc (n := 0) (.flush rfl)
  have run₁₈ := run₁₇.snoc (n := 0) (.unlock rfl)
  refine ⟨_, _, run₁₈, fun n => ?_, by cbv, whole_of_run run₁₈⟩
  by_cases first : n = 0
  · subst first
    exact ⟨rfl, rfl⟩
  · by_cases second : n = 1
    · subst second
      exact ⟨rfl, rfl⟩
    · simp [start, calls, Function.update, first, second]

end Logline.SharedLogger
