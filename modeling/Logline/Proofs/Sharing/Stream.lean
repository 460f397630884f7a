import Logline.Proofs.Sharing.Lock

/-! # The streams of a shared logger

What is seen at a place, the writes and flushes of the sinks that stand for it, is one delivery
after the other, each with its flush behind it, and then the pieces of the record that is being
written there.

* `SharedLogger.Streams` — the invariant of the places
* `SharedLogger.streams_of_run` — every state that a run reaches keeps it
* `SharedLogger.Streams.exists_opened` — what stands behind the deliveries at a place belongs to the
  thread that has the lock -/

namespace Logline

/-- Whether an effect is a write to a place, or a flush of it. -/
def Effect.isAt (place : SinkId) : Effect → Bool
  | .write _ id _ _ => id.same place
  | .flush _ id _ => id.same place
  | .report _ _ => false

namespace SharedLogger

variable {routes : Routes} {trap : Trap} {s s' : SharedLogger} {n : Nat} {a : Action}

/-- What is seen at a place, in order. -/
def effectsAt (place : SinkId) (journal : List Effect) : List Effect :=
  journal.filter (Effect.isAt place)

/-- The deliveries to a place, in order. -/
def deliveredAt (place : SinkId) (delivered : List Delivery) : List Delivery :=
  delivered.filter fun d => d.parcel.sink.id.same place

/-- An effect comes behind the earlier ones at its place. -/
theorem effectsAt_concat (place : SinkId) (journal : List Effect) (effect : Effect) :
    effectsAt place (journal ++ [effect])
      = effectsAt place journal ++ if effect.isAt place then [effect] else [] := by
  rw [effectsAt, List.filter_append, List.filter_cons, List.filter_nil, effectsAt]

/-- A delivery comes behind the earlier ones at its place. -/
theorem deliveredAt_concat (place : SinkId) (delivered : List Delivery) (d : Delivery) :
    deliveredAt place (delivered ++ [d])
      = deliveredAt place delivered ++ if d.parcel.sink.id.same place then [d] else [] := by
  rw [deliveredAt, List.filter_append, List.filter_cons, List.filter_nil, deliveredAt]

/-- Building a setup is not seen at any place. -/
theorem effectsAt_build [Calendar.Formatter] (place : SinkId) (c : Config) (w : World) :
    effectsAt place (Setup.build c routes trap w).2.journal = effectsAt place w.journal := by
  have reports : ∀ es : List Error, effectsAt place (es.map (Effect.report trap)) = [] := by
    intro es
    rw [effectsAt, List.filter_eq_nil_iff]
    intro e mem
    obtain ⟨_, -, rfl⟩ := List.mem_map.1 mem
    exact Bool.false_ne_true
  -- a build reports what it cannot use, and reports are not seen at any place
  have journal : (Setup.build c routes trap w).2.journal
      = w.journal ++ ((Charset.resolve c.charset).2.toList
          ++ (Pipeline.build c w.environment).2.toList).map (Effect.report trap) :=
    World.journal_reportAll w trap _
  rw [journal, effectsAt, List.filter_append, ← effectsAt, ← effectsAt, reports, List.append_nil]

/-- The record that a thread is writing, and the pieces of it that are written. -/
def Phase.writing? : Phase → Option (Parcel × List (List UInt8))
  | .writing p pieces _ => some (p, pieces)
  | _ => none

/-- A thread that is writing holds the lock of the sink. -/
theorem Phase.holds?_of_writing? {phase : Phase} {p : Parcel} {pieces : List (List UInt8)}
    (writing : phase.writing? = some (p, pieces)) : phase.holds? = some p := by
  cases phase with
  | writing q _ _ =>
    cases writing
    rfl
  | _ => cases writing

/-- The invariant of the places. -/
structure Streams (journal : List Effect) (delivered : List Delivery) (phases : Nat → Phase) :
    Prop where
  /-- Behind the deliveries to a place stand the pieces that a thread is writing there. -/
  busy : ∀ place n p pieces, (phases n).writing? = some (p, pieces) → p.sink.id.same place = true →
    effectsAt place journal = (deliveredAt place delivered).flatMap Delivery.effects
      ++ pieces.map (pieceEffect p.sink)
  /-- Where no thread is writing, there are the deliveries only. -/
  quiet : ∀ place,
    (∀ n p pieces, (phases n).writing? = some (p, pieces) → p.sink.id.same place = false) →
      effectsAt place journal = (deliveredAt place delivered).flatMap Delivery.effects

namespace Streams

variable {journal journal' : List Effect} {delivered : List Delivery} {phases : Nat → Phase}
  {phase : Phase}

/-- A thread that writes nothing, before a step and behind it, keeps the streams, as long as the
step is not seen at any place. -/
theorem keep (streams : Streams journal delivered phases)
    (unseen : ∀ place, effectsAt place journal' = effectsAt place journal)
    (before : (phases n).writing? = none) (after : phase.writing? = none) :
    Streams journal' delivered (Function.update phases n phase) := by
  have all : ∀ m, (Function.update phases n phase m).writing? = (phases m).writing? :=
    (Function.forall_update_iff phases fun m phase => phase.writing? = (phases m).writing?).2
      ⟨by rw [before, after], fun _ _ => rfl⟩
  refine ⟨fun place m p pieces writing => ?_, fun place none_writing => ?_⟩
  · rw [all] at writing
    rw [unseen]
    exact streams.busy place m p pieces writing
  · rw [unseen]
    refine streams.quiet place fun m p pieces writing => none_writing m p pieces ?_
    rw [all, writing]

/-- A thread that begins to write where no thread is writing keeps the streams. -/
theorem begin (streams : Streams journal delivered phases) {p : Parcel}
    (free : ∀ m q pieces, (phases m).writing? = some (q, pieces) →
      ∀ place, q.sink.id.same place = true → p.sink.id.same place = false)
    (before : (phases n).writing? = none) (after : phase.writing? = some (p, [])) :
    Streams journal delivered (Function.update phases n phase) := by
  refine ⟨fun place m q pieces writing at_place => ?_, fun place none_writing => ?_⟩
  · by_cases same : m = n
    · subst same
      rw [Function.update_self, after] at writing
      cases writing
      -- no thread was writing at the place, and the new one has written nothing yet
      rw [List.map_nil, List.append_nil]
      refine streams.quiet place fun k r pieces writing => ?_
      cases at_r : r.sink.id.same place with
      | false => rfl
      | true => exact at_place.symm.trans (free k r pieces writing place at_r)
    · rw [Function.update_of_ne same] at writing
      exact streams.busy place m q pieces writing at_place
  · refine streams.quiet place fun m q pieces writing => none_writing m q pieces ?_
    have other : m ≠ n := by
      rintro rfl
      rw [before] at writing
      cases writing
    rw [Function.update_of_ne other, writing]

end Streams

/-- At the place where a thread is writing no other thread is. -/
def Alone (phases : Nat → Phase) (n : Nat) (p : Parcel) : Prop :=
  ∀ place, p.sink.id.same place = true →
    ∀ m q pieces, (phases m).writing? = some (q, pieces) → q.sink.id.same place = true → m = n

namespace Streams

variable {journal : List Effect} {delivered : List Delivery} {phases : Nat → Phase}
  {p : Parcel} {pieces : List (List UInt8)} {phase : Phase}

/-- A piece that the thread at a place writes goes behind its other pieces. -/
theorem write (streams : Streams journal delivered phases) (alone : Alone phases n p)
    (before : (phases n).writing? = some (p, pieces)) {piece : List UInt8}
    (after : phase.writing? = some (p, pieces ++ [piece])) :
    Streams (journal ++ [pieceEffect p.sink piece]) delivered (Function.update phases n phase) := by
  have here : ∀ place, p.sink.id.same place = true →
      effectsAt place (journal ++ [pieceEffect p.sink piece])
        = effectsAt place journal ++ [pieceEffect p.sink piece] := by
    intro place at_place
    rw [effectsAt_concat, if_pos (show (pieceEffect p.sink piece).isAt place = true from at_place)]
  have elsewhere : ∀ place, p.sink.id.same place = false →
      effectsAt place (journal ++ [pieceEffect p.sink piece]) = effectsAt place journal := by
    intro place not_at
    have unseen : ¬ (pieceEffect p.sink piece).isAt place = true :=
      Bool.not_eq_true _ ▸ not_at
    rw [effectsAt_concat, if_neg unseen, List.append_nil]
  refine ⟨fun place m q pieces' writing at_place => ?_, fun place none_writing => ?_⟩
  · by_cases same : m = n
    · subst same
      rw [Function.update_self, after] at writing
      cases writing
      -- the thread's own place: the piece goes behind those that it has written
      rw [here place at_place, streams.busy place m p pieces before at_place, List.map_append,
        List.append_assoc, List.map_singleton]
    · rw [Function.update_of_ne same] at writing
      cases at_p : p.sink.id.same place with
      | true =>
        -- another thread cannot be writing at this place
        exact absurd (alone place at_p m q pieces' writing at_place) same
      | false =>
        rw [elsewhere place at_p]
        exact streams.busy place m q pieces' writing at_place
  · have not_at := none_writing n p _ (by rw [Function.update_self, after])
    rw [elsewhere place not_at]
    refine streams.quiet place fun m q pieces' writing => ?_
    by_cases same : m = n
    · subst same
      rw [before] at writing
      cases writing
      exact not_at
    · exact none_writing m q pieces' (by rw [Function.update_of_ne same, writing])

/-- A flush turns the pieces that the thread at a place has written into a delivery. -/
theorem flush (streams : Streams journal delivered phases) (alone : Alone phases n p)
    (before : (phases n).writing? = some (p, pieces)) (after : phase.writing? = none) :
    Streams (journal ++ [flushEffect p.sink]) (delivered ++ [⟨n, p, pieces⟩])
      (Function.update phases n phase) := by
  have elsewhere : ∀ place, p.sink.id.same place = false →
      effectsAt place (journal ++ [flushEffect p.sink]) = effectsAt place journal ∧
        deliveredAt place (delivered ++ [⟨n, p, pieces⟩]) = deliveredAt place delivered := by
    intro place not_at
    have unseen : ¬ p.sink.id.same place = true := Bool.not_eq_true _ ▸ not_at
    constructor
    · rw [effectsAt_concat, if_neg (show ¬ (flushEffect p.sink).isAt place = true from unseen),
        List.append_nil]
    · rw [deliveredAt_concat, if_neg unseen, List.append_nil]
  refine ⟨fun place m q pieces' writing at_place => ?_, fun place none_writing => ?_⟩
  · have other : m ≠ n := by
      rintro rfl
      rw [Function.update_self, after] at writing
      cases writing
    rw [Function.update_of_ne other] at writing
    cases at_p : p.sink.id.same place with
    | true => exact absurd (alone place at_p m q pieces' writing at_place) other
    | false =>
      rw [(elsewhere place at_p).1, (elsewhere place at_p).2]
      exact streams.busy place m q pieces' writing at_place
  · cases at_p : p.sink.id.same place with
    | true =>
      -- the pieces and the flush behind them become the last delivery
      have behind := streams.busy place n p pieces before at_p
      rw [effectsAt_concat, if_pos (show (flushEffect p.sink).isAt place = true from at_p), behind,
        deliveredAt_concat, if_pos at_p, List.flatMap_append, List.flatMap_singleton,
        Delivery.effects, List.append_assoc]
    | false =>
      rw [(elsewhere place at_p).1, (elsewhere place at_p).2]
      refine streams.quiet place fun m q pieces' writing => ?_
      by_cases same : m = n
      · subst same
        rw [before] at writing
        cases writing
        exact at_p
      · exact none_writing m q pieces' (by rw [Function.update_of_ne same, writing])

end Streams

/-- A thread that is writing is alone at its place. -/
theorem alone_of_writing? [Calendar.Formatter] (merged : routes.Merged)
    (faithful : s.Faithful routes trap) (exclusive : Exclusive s.holder s.phases) {p : Parcel}
    {pieces : List (List UInt8)}
    (writing : (s.phases n).writing? = some (p, pieces)) : Alone s.phases n p :=
  fun _ at_place _ _ _ writing' at_place' =>
    eq_of_holds? merged faithful exclusive (Phase.holds?_of_writing? writing')
      (Phase.holds?_of_writing? writing) at_place' at_place

/-- **One step keeps the streams**: whichever thread takes it, what stands at a place is its
deliveries and the pieces that are being written there. -/
theorem Streams.step [Calendar.Formatter] (merged : routes.Merged)
    (faithful : s.Faithful routes trap) (exclusive : Exclusive s.holder s.phases)
    (streams : Streams s.journal s.delivered s.phases)
    (step : Step routes trap n a s s') : Streams s'.journal s'.delivered s'.phases := by
  have unseen : ∀ place, effectsAt place s.journal = effectsAt place s.journal := fun _ => rfl
  cases step with
  | load idle next => exact streams.keep unseen (by rw [idle]; rfl) rfl
  | look loaded setup => exact streams.keep unseen (by rw [loaded]; rfl) rfl
  | layOut looked setup response layout route =>
    exact streams.keep unseen (by rw [looked]; rfl) rfl
  | @lock _ p encoded free =>
    refine streams.begin (fun m q pieces writing place at_q => ?_) (by rw [encoded]; rfl) rfl
    -- a thread that writes at the place would have the lock, which is free
    have holds := Phase.holds?_of_writing? writing
    cases at_p : p.sink.id.same place with
    | false => rfl
    | true =>
      have sinks : q.sink = p.sink := by
        refine merged.eq_of_same ?_ ?_ (SinkId.same_trans at_q (SinkId.same_symm at_p))
        · rw [(faithful.parcel_of_holds? holds).sink]
          exact merged.sink_mem _
        · rw [Parcel.Faithful.sink (faithful.phase encoded)]
          exact merged.sink_mem _
      have owner := exclusive.held m q holds
      rw [sinks, free] at owner
      cases owner
  | write writing =>
    exact streams.write
      (alone_of_writing? merged faithful exclusive (by rw [writing]; rfl))
      (by rw [writing]; rfl) rfl
  | flush writing =>
    exact streams.flush
      (alone_of_writing? merged faithful exclusive (by rw [writing]; rfl))
      (by rw [writing]; rfl) rfl
  | unlock flushed => exact streams.keep unseen (by rw [flushed]; rfl) rfl
  | @build _ c e rest setup w idle next made =>
    refine streams.keep (fun place => ?_) (by rw [idle]; rfl) rfl
    have journal : (Setup.build c routes trap { environment := e, journal := s.journal }).2 = w :=
      congrArg Prod.snd made
    rw [← journal, effectsAt_build]
  | install built => exact streams.keep unseen (by rw [built]; rfl) rfl
  | announce installed => exact streams.keep unseen (by rw [installed]; rfl) rfl

/-- Every state that a run of a builder's logger reaches keeps the invariant of the places. -/
theorem streams_of_run [Calendar.Formatter] {b : Builder} {e : Environment}
    {calls : Nat → List Call} {steps : List (Nat × Action)}
    (run : Run b.allRoutes b.trap (start b e calls) steps s) :
    Streams s.journal s.delivered s.phases := by
  induction run with
  | nil =>
    refine ⟨fun place m p pieces writing => ?_, fun place _ => ?_⟩
    · cases writing
    · have built : effectsAt place
          (Setup.build b.config b.allRoutes b.trap { environment := e }).2.journal = [] :=
        effectsAt_build place b.config { environment := e }
      exact built
  | snoc run step ih =>
    exact ih.step b.allRoutes_merged (faithful_of_run run) (exclusive_of_run run) step

/-- What stands behind the deliveries at a place: nothing, or the pieces of the record of the thread
that has the lock. -/
theorem Streams.exists_opened (streams : Streams s.journal s.delivered s.phases)
    (exclusive : Exclusive s.holder s.phases) (place : SinkId) :
    ∃ opened, effectsAt place s.journal
        = (deliveredAt place s.delivered).flatMap Delivery.effects ++ opened ∧
      (opened = [] ∨ ∃ n p pieces rest, s.phases n = .writing p pieces rest ∧
        s.holder p.sink.handle = some n ∧ p.sink.id.same place = true ∧
        opened = pieces.map (pieceEffect p.sink)) := by
  by_cases writer : ∃ n p pieces, (s.phases n).writing? = some (p, pieces) ∧
      p.sink.id.same place = true
  -- a thread is writing there, and it has the lock
  · obtain ⟨n, p, pieces, writing, at_place⟩ := writer
    refine ⟨_, streams.busy place n p pieces writing at_place, Or.inr ?_⟩
    cases phase : s.phases n with
    | writing q pieces' rest =>
      rw [phase] at writing
      cases writing
      exact ⟨n, p, pieces, rest, phase, exclusive.held n p (by rw [phase]; rfl), at_place, rfl⟩
    | _ =>
      rw [phase] at writing
      cases writing
  · refine ⟨[], ?_, Or.inl rfl⟩
    rw [List.append_nil]
    refine streams.quiet place fun n p pieces writing => ?_
    cases at_p : p.sink.id.same place with
    | false => rfl
    | true => exact absurd ⟨n, p, pieces, writing, at_p⟩ writer

end SharedLogger

end Logline
