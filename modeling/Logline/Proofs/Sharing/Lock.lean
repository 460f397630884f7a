import Logline.Proofs.Sharing.Record

/-! # The locks of a shared logger

A thread has the lock of a sink object from the moment it takes it to the moment it gives it back,
whatever setups are installed meanwhile: all setups of a logger write to the sinks of the same
routes, so that the writers of an old setup and of a new one wait for the same lock.

* `SharedLogger.Exclusive` — the lock of a sink object is held by the thread that writes to it
* `SharedLogger.eq_of_holds?` — one thread at a time has a lock for a place
* `SharedLogger.exists_step` — a thread that waits for a lock does not wait for itself: as long as
  some thread has work left, some thread can take a step -/

namespace Logline.SharedLogger

variable {routes : Routes} {trap : Trap} {s s' : SharedLogger} {n : Nat} {a : Action}

/-- The record for which a thread has a lock. -/
def Phase.holds? : Phase → Option Parcel
  | .writing p _ _ => some p
  | .flushed p => some p
  | _ => none

/-- The invariant of the locks: a lock is held by one thread, which has it for a record on its way
to the lock's sink. -/
structure Exclusive (holder : Nat → Option Nat) (phases : Nat → Phase) : Prop where
  held : ∀ n p, (phases n).holds? = some p → holder p.sink.handle = some n
  owned : ∀ handle n, holder handle = some n →
    ∃ p, (phases n).holds? = some p ∧ p.sink.handle = handle

namespace Exclusive

variable {holder : Nat → Option Nat} {phases : Nat → Phase} {phase : Phase} {p : Parcel}

/-- A thread that neither takes nor gives back a lock keeps locks exclusive. -/
theorem keep (exclusive : Exclusive holder phases) (same : phase.holds? = (phases n).holds?) :
    Exclusive holder (Function.update phases n phase) := by
  have all : ∀ m, (Function.update phases n phase m).holds? = (phases m).holds? :=
    (Function.forall_update_iff phases fun m phase => phase.holds? = (phases m).holds?).2
      ⟨same, fun _ _ => rfl⟩
  refine ⟨fun m p holds => ?_, fun handle m owner => ?_⟩
  · rw [all] at holds
    exact exclusive.held m p holds
  · obtain ⟨p, holds, eq⟩ := exclusive.owned handle m owner
    exact ⟨p, by rw [all, holds], eq⟩

/-- A thread that takes a free lock keeps locks exclusive. -/
theorem take (exclusive : Exclusive holder phases) (free : holder p.sink.handle = none)
    (before : (phases n).holds? = none) (after : phase.holds? = some p) :
    Exclusive (Function.update holder p.sink.handle (some n)) (Function.update phases n phase) := by
  refine ⟨fun m q holds => ?_, fun handle m owner => ?_⟩
  · by_cases same : m = n
    · subst same
      rw [Function.update_self, after] at holds
      cases holds
      exact Function.update_self _ _ _
    · rw [Function.update_of_ne same] at holds
      have owner := exclusive.held m q holds
      -- the other thread has a lock, and the one that is taken was free
      have other : q.sink.handle ≠ p.sink.handle := by
        intro eq
        rw [eq, free] at owner
        cases owner
      rw [Function.update_of_ne other, owner]
  · by_cases same : handle = p.sink.handle
    · subst same
      rw [Function.update_self] at owner
      cases owner
      exact ⟨p, by rw [Function.update_self, after], rfl⟩
    · rw [Function.update_of_ne same] at owner
      obtain ⟨q, holds, eq⟩ := exclusive.owned handle m owner
      have other : m ≠ n := by
        intro eq
        rw [eq, before] at holds
        cases holds
      exact ⟨q, by rw [Function.update_of_ne other, holds], eq⟩

/-- A thread that gives its lock back keeps locks exclusive. -/
theorem giveBack (exclusive : Exclusive holder phases) (before : (phases n).holds? = some p)
    (after : phase.holds? = none) :
    Exclusive (Function.update holder p.sink.handle none) (Function.update phases n phase) := by
  have mine := exclusive.held n p before
  refine ⟨fun m q holds => ?_, fun handle m owner => ?_⟩
  · by_cases same : m = n
    · subst same
      rw [Function.update_self, after] at holds
      cases holds
    · rw [Function.update_of_ne same] at holds
      have owner := exclusive.held m q holds
      -- two threads would hold one lock
      have other : q.sink.handle ≠ p.sink.handle := by
        intro eq
        rw [eq, mine] at owner
        cases owner
        exact same rfl
      rw [Function.update_of_ne other, owner]
  · by_cases same : handle = p.sink.handle
    · subst same
      rw [Function.update_self] at owner
      cases owner
    · rw [Function.update_of_ne same] at owner
      obtain ⟨q, holds, eq⟩ := exclusive.owned handle m owner
      -- the thread has no other lock
      have other : m ≠ n := by
        rintro rfl
        rw [before] at holds
        cases holds
        exact same eq.symm
      exact ⟨q, by rw [Function.update_of_ne other, holds], eq⟩

/-- **One step keeps locks exclusive**, whichever thread takes it. -/
theorem step [Calendar.Formatter] (exclusive : Exclusive s.holder s.phases)
    (step : Step routes trap n a s s') : Exclusive s'.holder s'.phases := by
  cases step with
  | load idle next => exact exclusive.keep (by rw [idle]; rfl)
  | look loaded setup => exact exclusive.keep (by rw [loaded]; rfl)
  | layOut looked setup response layout route => exact exclusive.keep (by rw [looked]; rfl)
  | lock encoded free => exact exclusive.take free (by rw [encoded]; rfl) rfl
  | write writing => exact exclusive.keep (by rw [writing]; rfl)
  | flush writing => exact exclusive.keep (by rw [writing]; rfl)
  | unlock flushed => exact exclusive.giveBack (by rw [flushed]; rfl) rfl
  | build idle next made => exact exclusive.keep (by rw [idle]; rfl)
  | install built => exact exclusive.keep (by rw [built]; rfl)
  | announce installed => exact exclusive.keep (by rw [installed]; rfl)

end Exclusive

/-- Every state that a run of a new logger reaches has exclusive locks. -/
theorem exclusive_of_run [Calendar.Formatter] {b : Builder} {e : Environment}
    {calls : Nat → List Call} {steps : List (Nat × Action)}
    (run : Run routes trap (start b e calls) steps s) :
    Exclusive s.holder s.phases := by
  induction run with
  | nil =>
    refine ⟨fun m p holds => ?_, fun handle m owner => ?_⟩
    · cases holds
    · cases owner
  | snoc _ step ih => exact ih.step step

/-! ## One writer at a place -/

/-- A parcel for which a thread has a lock is faithful. -/
theorem Faithful.parcel_of_holds? [Calendar.Formatter] (faithful : s.Faithful routes trap)
    {p : Parcel} (holds : (s.phases n).holds? = some p) : p.Faithful routes s.setups := by
  cases phase : s.phases n with
  | writing q pieces rest =>
    rw [phase] at holds
    cases holds
    exact (faithful.phase phase).1
  | flushed q =>
    rw [phase] at holds
    cases holds
    exact faithful.phase phase
  | _ =>
    rw [phase] at holds
    cases holds

/-- Threads that have locks for records at one place are one thread. -/
theorem eq_of_holds? [Calendar.Formatter] (merged : routes.Merged)
    (faithful : s.Faithful routes trap) (exclusive : Exclusive s.holder s.phases) {m : Nat}
    {p q : Parcel} {place : SinkId}
    (holds : (s.phases n).holds? = some p) (holds' : (s.phases m).holds? = some q)
    (at_place : p.sink.id.same place = true) (at_place' : q.sink.id.same place = true) : n = m := by
  -- two sinks of one place are one object, and an object has one lock
  have sinks : p.sink = q.sink := by
    have mem : ∀ {k : Nat} {r : Parcel}, (s.phases k).holds? = some r → r.sink ∈ routes.sinks := by
      intro k r holds
      rw [(faithful.parcel_of_holds? holds).sink]
      exact merged.sink_mem _
    exact merged.eq_of_same (mem holds) (mem holds')
      (SinkId.same_trans at_place (SinkId.same_symm at_place'))
  have owner := exclusive.held n p holds
  rw [sinks, exclusive.held m q holds'] at owner
  cases owner
  rfl

/-! ## No deadlock -/

/-- A thread that has a lock can take a step. -/
theorem exists_step_of_holds? [Calendar.Formatter] {p : Parcel}
    (holds : (s.phases n).holds? = some p) : ∃ a s', Step routes trap n a s s' := by
  cases phase : s.phases n with
  | writing q pieces rest =>
    -- the whole rest may reach the sink in one piece
    rw [← List.append_nil rest] at phase
    exact ⟨_, _, Step.write phase⟩
  | flushed q => exact ⟨_, _, Step.unlock phase⟩
  | _ =>
    rw [phase] at holds
    cases holds

/-- **No deadlock.** As long as some thread has work left, some thread can take a step. -/
theorem exists_step [Calendar.Formatter] {b : Builder} {e : Environment} {calls : Nat → List Call}
    {steps : List (Nat × Action)} (run : Run b.allRoutes b.trap (start b e calls) steps s)
    (busy : ¬ (s.phases n = .idle ∧ s.todo n = [])) :
    ∃ m a s', Step b.allRoutes b.trap m a s s' := by
  have faithful := faithful_of_run run
  have exclusive := exclusive_of_run run
  cases phase : s.phases n with
  | idle =>
    cases todo : s.todo n with
    | nil => exact absurd ⟨phase, todo⟩ busy
    | cons call rest =>
      cases call with
      | log request => exact ⟨n, _, _, Step.load phase todo⟩
      | reconfigure c e => exact ⟨n, _, _, Step.build phase todo rfl⟩
  | loaded request number =>
    obtain ⟨c, e, setup, source⟩ := faithful.phase phase
    exact ⟨n, _, _, Step.look phase source⟩
  | looked request number seen =>
    obtain ⟨c, e, ⟨setup, source⟩, -⟩ := faithful.phase phase
    have router := (faithful.setups _ (List.mem_of_getElem? source)).router
    -- every level has a writer, so that no event is dropped
    have route := b.allRoutes_merged.writer?_build (Charset.resolve c.charset).1 b.trap
    exact ⟨n, _, _, Step.layOut phase source rfl rfl (by rw [router, route])⟩
  | encoded p =>
    cases owner : s.holder p.sink.handle with
    | none => exact ⟨n, _, _, Step.lock phase owner⟩
    | some m =>
      -- the thread that has the lock does not wait for anything
      obtain ⟨q, holds, -⟩ := exclusive.owned _ m owner
      exact ⟨m, exists_step_of_holds? holds⟩
  | writing p pieces rest => exact ⟨n, exists_step_of_holds? (p := p) (by rw [phase]; rfl)⟩
  | flushed p => exact ⟨n, exists_step_of_holds? (p := p) (by rw [phase]; rfl)⟩
  | built number c => exact ⟨n, _, _, Step.install phase⟩
  | installed number c => exact ⟨n, _, _, Step.announce phase⟩

end Logline.SharedLogger
