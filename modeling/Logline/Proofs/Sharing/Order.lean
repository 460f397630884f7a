import Logline.Proofs.Sharing.Record

/-! # The order of records

A thread delivers the records of its log calls in the order of its calls, one record for each, and
every record is laid out by the setup that was installed at the moment its call began.

* `SharedLogger.course` — the requests of a thread: delivered, being worked on, and yet to begin
* `SharedLogger.course_of_run` — no run changes the course of a thread
* `SharedLogger.LoadedAt` — the moment of a run at which a call loaded its setup
* `SharedLogger.traced_of_run` — every record has such a moment -/

namespace Logline.SharedLogger

variable {routes : Routes} {trap : Trap} {s s' : SharedLogger} {n m : Nat} {a : Action}

/-- What a thread has delivered, in order. -/
def deliveredBy (n : Nat) (delivered : List Delivery) : List Delivery :=
  delivered.filter fun d => d.thread == n

/-- A delivery comes behind the earlier ones of its thread. -/
theorem deliveredBy_concat (n : Nat) (delivered : List Delivery) (d : Delivery) :
    deliveredBy n (delivered ++ [d])
      = deliveredBy n delivered ++ if d.thread = n then [d] else [] := by
  simp only [deliveredBy, List.filter_append, List.filter_cons, List.filter_nil, beq_iff_eq]

/-- A step of one thread leaves the others where they are. -/
theorem Step.frame [Calendar.Formatter] (step : Step routes trap n a s s') (other : m ≠ n) :
    s'.phases m = s.phases m ∧ s'.todo m = s.todo m ∧
      deliveredBy m s'.delivered = deliveredBy m s.delivered := by
  cases step with
  | load idle next =>
    exact ⟨Function.update_of_ne other _ _, Function.update_of_ne other _ _, rfl⟩
  | build idle next made =>
    exact ⟨Function.update_of_ne other _ _, Function.update_of_ne other _ _, rfl⟩
  | @flush _ p pieces writing =>
    refine ⟨Function.update_of_ne other _ _, rfl, ?_⟩
    rw [deliveredBy_concat, if_neg (Ne.symm other), List.append_nil]
  | _ => exact ⟨Function.update_of_ne other _ _, rfl, rfl⟩

/-! ## Program order -/

/-- The request that a thread is working on, up to the flush behind its record. -/
def Phase.pending? : Phase → Option Request
  | .loaded r _ => some r
  | .looked r _ _ => some r
  | .encoded p => some p.request
  | .writing p _ _ => some p.request
  | _ => none

/-- The **course** of a thread: the requests that it has delivered, then the one that it is working
on, then those that it has yet to begin. -/
def course (s : SharedLogger) (n : Nat) : List Request :=
  (deliveredBy n s.delivered).map (fun d => d.parcel.request)
    ++ ((s.phases n).pending?.toList ++ (s.todo n).filterMap Call.request?)

/-- No step changes the course of any thread. -/
theorem course_step [Calendar.Formatter] (step : Step routes trap n a s s') (m : Nat) :
    s'.course m = s.course m := by
  by_cases same : m = n
  · subst same
    -- a request moves from one part of the course to the next, or nothing does
    cases step with
    | load idle next =>
      simp [course, idle, next, Phase.pending?, Call.request?]
    | build idle next made =>
      simp [course, idle, next, Phase.pending?, List.filterMap_cons, Call.request?]
    | flush writing =>
      simp [course, writing, deliveredBy_concat, Phase.pending?]
    | look phase => simp [course, phase, Phase.pending?]
    | layOut phase => simp [course, phase, Phase.pending?]
    | lock phase => simp [course, phase, Phase.pending?]
    | write phase => simp [course, phase, Phase.pending?]
    | unlock phase => simp [course, phase, Phase.pending?]
    | install phase => simp [course, phase, Phase.pending?]
    | announce phase => simp [course, phase, Phase.pending?]
  · obtain ⟨phases, todo, delivered⟩ := step.frame same
    rw [course, course, phases, todo, delivered]

/-- **Program order.** In every state that a run reaches, the course of a thread is the log calls of
its program. -/
theorem course_of_run [Calendar.Formatter] {b : Builder} {e : Environment} {calls : Nat → List Call}
    {steps : List (Nat × Action)} (run : Run routes trap (start b e calls) steps s) (n : Nat) :
    s.course n = (calls n).filterMap Call.request? := by
  induction run with
  | nil => rfl
  | snoc _ step ih => rw [course_step step, ih]

/-! ## The moment of a record -/

/-- The request that a thread works on, and the number of the setup that it has loaded for it. -/
def Phase.origin? : Phase → Option (Request × Nat)
  | .loaded r number => some (r, number)
  | .looked r number _ => some (r, number)
  | .encoded p => some (p.request, p.number)
  | .writing p _ _ => some (p.request, p.number)
  | _ => none

section Traced

variable [Calendar.Formatter] {origin : SharedLogger} {steps : List (Nat × Action)} {r : Request}
  {number : Nat}

/-- A run went through a state in which a thread began to log `r`, and the setup with a number was
installed in that state. -/
def LoadedAt (routes : Routes) (trap : Trap) (origin : SharedLogger) (steps : List (Nat × Action))
    (s : SharedLogger) (n : Nat) (r : Request) (number : Nat) : Prop :=
  ∃ before after s₀ rest, steps = before ++ (n, Action.load) :: after ∧
    Run routes trap origin before s₀ ∧ Run routes trap s₀ ((n, Action.load) :: after) s ∧
    s₀.phases n = .idle ∧ s₀.todo n = .log r :: rest ∧ s₀.installed = number

/-- A further step leaves the moment at which a call loaded its setup. -/
theorem LoadedAt.snoc (loaded : LoadedAt routes trap origin steps s n r number)
    (step : Step routes trap m a s s') :
    LoadedAt routes trap origin (steps ++ [(m, a)]) s' n r number := by
  obtain ⟨before, after, s₀, rest, rfl, run, run', facts⟩ := loaded
  refine ⟨before, after ++ [(m, a)], s₀, rest, ?_, run, run'.snoc step, facts⟩
  rw [List.append_assoc, List.cons_append]

/-- Every record, delivered or not, has the moment at which its call loaded its setup. -/
structure Traced (routes : Routes) (trap : Trap) (origin : SharedLogger)
    (steps : List (Nat × Action)) (s : SharedLogger) : Prop where
  phases : ∀ n r number, (s.phases n).origin? = some (r, number) →
    LoadedAt routes trap origin steps s n r number
  delivered : ∀ d ∈ s.delivered,
    LoadedAt routes trap origin steps s d.thread d.parcel.request d.parcel.number

/-- What a thread works on after a step it worked on before, unless the step loads. -/
theorem Step.origin?_eq (step : Step routes trap n a s s') (no_load : a ≠ .load)
    (origin : (s'.phases n).origin? = some (r, number)) :
    (s.phases n).origin? = some (r, number) := by
  cases step with
  | load idle next => exact absurd rfl no_load
  | look phase => simpa [phase, Phase.origin?] using origin
  | layOut phase => simpa [phase, Phase.origin?] using origin
  | lock phase => simpa [phase, Phase.origin?] using origin
  | write phase => simpa [phase, Phase.origin?] using origin
  | _ => simp [Phase.origin?] at origin

/-- **One step keeps every record traced** to the moment at which its call loaded its setup. -/
theorem Traced.step (run : Run routes trap origin steps s)
    (traced : Traced routes trap origin steps s) (step : Step routes trap n a s s') :
    Traced routes trap origin (steps ++ [(n, a)]) s' := by
  constructor
  · intro m r number from_origin
    by_cases same : m = n
    · subst same
      by_cases load : a = .load
      · -- the moment is this very step
        subst load
        have moment := Run.nil.snoc step
        cases step with
        | load idle next =>
          simp only [Function.update_self, Phase.origin?] at from_origin
          cases from_origin
          exact ⟨steps, [], s, _, rfl, run, moment, idle, next, rfl⟩
      · exact (traced.phases m r number (step.origin?_eq load from_origin)).snoc step
    · rw [(step.frame same).1] at from_origin
      exact (traced.phases m r number from_origin).snoc step
  · intro d mem
    have old : d ∈ s.delivered →
        LoadedAt routes trap origin (steps ++ [(n, a)]) s' d.thread d.parcel.request
          d.parcel.number :=
      fun mem => (traced.delivered d mem).snoc step
    -- a flush adds the delivery of a record that was being written; no other step adds one
    cases step with
    | @flush _ p pieces writing =>
      rcases List.mem_append.1 mem with mem | mem
      · exact old mem
      · obtain rfl := List.mem_singleton.1 mem
        exact (traced.phases n p.request p.number (by rw [writing]; rfl)).snoc (.flush writing)
    | _ => exact old mem

/-- **Every record of a run is traced** to the moment at which its call loaded its setup. -/
theorem traced_of_run {b : Builder} {e : Environment} {calls : Nat → List Call}
    (run : Run routes trap (start b e calls) steps s) :
    Traced routes trap (start b e calls) steps s := by
  induction run with
  | nil =>
    constructor
    · intro n r number from_origin
      cases from_origin
    · intro d mem
      cases mem
  | snoc run step ih => exact ih.step run step

end Traced

end Logline.SharedLogger
