import Logline.Proofs.Sharing.Order

/-! # The configuration in effect

A logger keeps what it has installed in one cell and what it announces in another, and a
reconfiguration stores into the one and then into the other. The two agree as long as
reconfigurations come one after another; where the stores of two of them cross, the logger goes on
announcing a configuration that it does not use.

* `SharedLogger.InEffect` — the logger announces the configuration of the installed setup
* `SharedLogger.inEffect_iff_sources` — exactly when it does
* `SharedLogger.inEffect_of_one_thread` — it does whenever a single thread reconfigures it
* `SharedLogger.exists_run_crossed` — stores that cross, whatever the configurations -/

namespace Logline.SharedLogger

variable {routes : Routes} {trap : Trap} {s s' : SharedLogger} {n : Nat} {a : Action}

/-- The logger announces the configuration that the installed setup was built from. -/
def InEffect (s : SharedLogger) : Prop := ∃ e, Source s.setups s.installed s.announced e

/-- The setup that a thread's reconfiguration has made, from its building to the announcement. -/
def Phase.makes? : Phase → Option (Nat × Config)
  | .built number c => some (number, c)
  | .installed number c => some (number, c)
  | _ => none

/-- No thread is in a reconfiguration. -/
def Quiet (s : SharedLogger) : Prop := ∀ n, (s.phases n).makes? = none

/-! ## The two cells -/

/-- The number of the setup that was installed last; the first setup is number zero. -/
def lastInstalled (steps : List (Nat × Action)) : Nat :=
  steps.foldl (fun last step => if let .install number := step.2 then number else last) 0

/-- The number of the setup whose configuration was announced last. -/
def lastAnnounced (steps : List (Nat × Action)) : Nat :=
  steps.foldl (fun last step => if let .announce number := step.2 then number else last) 0

section Cells

variable {b : Builder} {e : Environment} {calls : Nat → List Call} {steps : List (Nat × Action)}

/-- The setup that is installed is the last one that a step of the run installed. -/
theorem installed_eq_lastInstalled [Calendar.Formatter]
    (run : Run routes trap (start b e calls) steps s) : s.installed = lastInstalled steps := by
  induction run with
  | nil => rfl
  | snoc _ step ih =>
    rw [lastInstalled, List.foldl_append]
    cases step with
    | install built => rfl
    | _ => exact ih

/-- The configuration that is announced is that of the setup announced last. -/
theorem source_lastAnnounced [Calendar.Formatter]
    (run : Run b.allRoutes b.trap (start b e calls) steps s) :
    ∃ e, Source s.setups (lastAnnounced steps) s.announced e := by
  induction run with
  | nil => exact ⟨e, _, rfl⟩
  | snoc run step ih =>
    rw [lastAnnounced, List.foldl_append]
    obtain ⟨e, source⟩ := ih
    have later := step.source source
    cases step with
    | announce installed => exact (faithful_of_run run).phase installed
    | _ => exact ⟨e, later⟩

/-- **When the announced configuration is in effect.** It is in effect exactly when the last
reconfiguration to install its setup and the last one to announce its configuration have one
configuration. -/
theorem inEffect_iff_sources [Calendar.Formatter]
    (run : Run b.allRoutes b.trap (start b e calls) steps s) :
    s.InEffect ↔ ∃ c e₁ e₂, Source s.setups (lastInstalled steps) c e₁ ∧
      Source s.setups (lastAnnounced steps) c e₂ := by
  obtain ⟨e₂, announced⟩ := source_lastAnnounced run
  rw [InEffect, installed_eq_lastInstalled run]
  constructor
  · rintro ⟨e₁, installed⟩
    exact ⟨s.announced, e₁, e₂, installed, announced⟩
  · rintro ⟨c, e₁, e₂', installed, announced'⟩
    obtain ⟨rfl, -⟩ := announced'.unique announced
    exact ⟨e₁, installed⟩

/-- Two threads that reconfigure a logger one after the other. -/
theorem inEffect_one_by_one :
    letI := Calendar.Formatter.verbatim
    let b : Builder := ⟨{}, .reliable 0 .stdout, [], .recorder⟩
    let json : Config := { format := .json }
    let calls : Nat → List Call := fun n =>
      if n = 0 then [.reconfigure {} []] else if n = 1 then [.reconfigure json []] else []
    ∃ steps s, Run b.allRoutes b.trap (start b [] calls) steps s ∧ lastInstalled steps = 2 ∧
      lastAnnounced steps = 2 ∧ s.announced = json ∧ s.InEffect := by
  let _ := Calendar.Formatter.verbatim
  intro b json calls
  have run₁ : Run b.allRoutes b.trap (start b [] calls) _ _ :=
    Run.nil.snoc (n := 0) (.build rfl rfl rfl)
  have run₂ := run₁.snoc (n := 1) (.build rfl rfl rfl)
  have run₃ := run₂.snoc (n := 0) (.install rfl)
  have run₄ := run₃.snoc (n := 0) (.announce rfl)
  have run₅ := run₄.snoc (n := 1) (.install rfl)
  have run₆ := run₅.snoc (n := 1) (.announce rfl)
  refine ⟨_, _, run₆, rfl, rfl, rfl, (inEffect_iff_sources run₆).2 ?_⟩
  exact ⟨json, [], [], ⟨_, rfl⟩, ⟨_, rfl⟩⟩

end Cells

/-- A step that stores into neither cell does not change what is in effect. -/
theorem Step.inEffect_iff [Calendar.Formatter] (faithful : s.Faithful routes trap)
    (step : Step routes trap n a s s') (installed : s'.installed = s.installed)
    (announced : s'.announced = s.announced) :
    s'.InEffect ↔ s.InEffect := by
  rw [InEffect, InEffect, installed, announced]
  constructor
  · rintro ⟨e, source⟩
    obtain ⟨c, e', source'⟩ := faithful.installed
    obtain ⟨rfl, -⟩ := (step.source source').unique source
    exact ⟨e', source'⟩
  · rintro ⟨e, source⟩
    exact ⟨e, step.source source⟩

/-! ## One thread that reconfigures -/

/-- Whether a step belongs to a log call. -/
def Action.logs : Action → Bool
  | .build | .install _ | .announce _ => false
  | _ => true

/-- A log call's step stores into neither cell, and its thread is in no reconfiguration. -/
theorem Step.of_logs [Calendar.Formatter] (step : Step routes trap n a s s')
    (logs : a.logs = true) :
    (s.phases n).makes? = none ∧ (s'.phases n).makes? = none ∧
      s'.installed = s.installed ∧ s'.announced = s.announced := by
  cases step with
  | build | install | announce => cases logs
  | load phase | look phase | layOut phase | lock phase | write phase | flush phase
  | unlock phase => simp [phase, Phase.makes?]

/-- However much is logged, a configuration that is announced and not in effect stays so. -/
theorem Run.inEffect_iff [Calendar.Formatter] (merged : routes.Merged)
    (faithful : s.Faithful routes trap) {steps : List (Nat × Action)}
    (run : Run routes trap s steps s')
    (logs : ∀ step ∈ steps, step.2.logs = true) : s'.InEffect ↔ s.InEffect := by
  induction run with
  | nil => exact Iff.rfl
  | snoc run step ih =>
    have last := logs _ (List.mem_append_right _ List.mem_cons_self)
    obtain ⟨-, -, installed, announced⟩ := step.of_logs last
    rw [step.inEffect_iff (run.faithful merged faithful) installed announced]
    exact ih fun step mem => logs step (List.mem_append_left _ mem)

/-- Calls that a thread has yet to begin it had yet to begin before. -/
theorem Step.todo_subset [Calendar.Formatter] (step : Step routes trap n a s s') (m : Nat) :
    s'.todo m ⊆ s.todo m := by
  by_cases same : m = n
  · subst same
    cases step with
    | load idle next | build idle next made =>
      simp only [Function.update_self, next]
      exact List.subset_cons_self _ _
    | _ => exact List.Subset.refl _
  · rw [(step.frame same).2.1]
    exact List.Subset.refl _

/-- What holds as long as thread `m` is the only one that reconfigures. -/
structure OneThread (m : Nat) (s : SharedLogger) : Prop where
  todo : ∀ n, n ≠ m → ∀ c e, Call.reconfigure c e ∉ s.todo n
  phases : ∀ n, n ≠ m → (s.phases n).makes? = none
  /-- A setup that is installed and not announced is the last one that was installed. -/
  installed : ∀ number c, s.phases m = .installed number c → s.installed = number
  /-- Otherwise the configuration that is announced is in effect. -/
  inEffect : (∀ number c, s.phases m ≠ .installed number c) → s.InEffect

namespace OneThread

variable {m : Nat}

/-- The steps of log calls, whichever thread takes them. -/
theorem step_of_logs [Calendar.Formatter] (faithful : s.Faithful routes trap) (one : OneThread m s)
    (step : Step routes trap n a s s') (logs : a.logs = true) : OneThread m s' := by
  obtain ⟨before, after, installed, announced⟩ := step.of_logs logs
  -- either thread `m` took the step, which makes nothing, or it stands where it stood
  have phase_m : s'.phases m = s.phases m ∨
      (s.phases m).makes? = none ∧ (s'.phases m).makes? = none := by
    by_cases same : m = n
    · subst same
      exact Or.inr ⟨before, after⟩
    · exact Or.inl (step.frame same).1
  refine ⟨fun k other c e mem => ?_, fun k other => ?_, fun number c eq => ?_,
    fun none_installed => ?_⟩
  · exact one.todo k other c e (step.todo_subset k mem)
  · by_cases same : k = n
    · subst same
      exact after
    · rw [(step.frame same).1]
      exact one.phases k other
  · rw [installed]
    rcases phase_m with kept | ⟨-, after⟩
    · exact one.installed number c (kept ▸ eq)
    · rw [eq] at after
      cases after
  · refine (step.inEffect_iff faithful installed announced).2 (one.inEffect fun number c eq => ?_)
    rcases phase_m with kept | ⟨before, -⟩
    · exact none_installed number c (kept ▸ eq)
    · rw [eq] at before
      cases before

/-- **One step keeps one thread the only one that reconfigures.** -/
theorem step [Calendar.Formatter] (faithful : s.Faithful routes trap) (one : OneThread m s)
    (step : Step routes trap n a s s') : OneThread m s' := by
  cases logs : a.logs with
  | true => exact one.step_of_logs faithful step logs
  | false =>
    -- the steps that are left belong to reconfigurations, and these to thread `m`
    have reconfigures : n = m := by
      by_contra other
      have makes := one.phases n other
      cases step with
      | build idle next made => exact one.todo n other _ _ (next ▸ List.mem_cons_self)
      | install built => rw [built] at makes; cases makes
      | announce installed => rw [installed] at makes; cases makes
      | _ => cases logs
    subst reconfigures
    have todo : ∀ k, k ≠ n → ∀ c e, Call.reconfigure c e ∉ s'.todo k :=
      fun k other c e mem => one.todo k other c e (step.todo_subset k mem)
    have phases : ∀ k, k ≠ n → (s'.phases k).makes? = none := by
      intro k other
      rw [(step.frame other).1]
      exact one.phases k other
    have moved := step
    cases step with
    | build idle next made =>
      refine ⟨todo, phases, ?_, fun _ => ?_⟩
      · simp
      · exact (moved.inEffect_iff faithful rfl rfl).2 (one.inEffect (by simp [idle]))
    | install built =>
      refine ⟨todo, phases, ?_, fun none_installed => ?_⟩
      · simp
      · simp at none_installed
    | announce installed =>
      -- nothing was installed since the setup that is announced now
      obtain ⟨e, source⟩ := faithful.phase installed
      refine ⟨todo, phases, ?_, fun _ => ⟨e, ?_⟩⟩
      · simp
      · rw [one.installed _ _ installed]
        exact source
    | _ => cases logs

end OneThread

/-- **One thread that reconfigures.** As long as one thread only reconfigures a logger, what the
logger announces between its reconfigurations is in effect. -/
theorem inEffect_of_one_thread [Calendar.Formatter] {b : Builder} {e : Environment}
    {calls : Nat → List Call} {steps : List (Nat × Action)} (m : Nat)
    (one : ∀ n, n ≠ m → ∀ c e, Call.reconfigure c e ∉ calls n)
    (run : Run b.allRoutes b.trap (start b e calls) steps s) (quiet : (s.phases m).makes? = none) :
    s.InEffect := by
  have kept : OneThread m s := by
    clear quiet
    induction run with
    | nil =>
      refine ⟨one, fun n _ => rfl, ?_, fun _ => ⟨e, _, rfl⟩⟩
      intro number c eq
      cases eq
    | snoc run step ih => exact ih.step (faithful_of_run run) step
  refine kept.inEffect fun number c eq => ?_
  rw [eq] at quiet
  cases quiet

/-! ## Stores that cross -/

/-- The steps of two reconfigurations whose stores cross: the second one installs and announces its
setup between the installation and the announcement of the first one. -/
def crossed : List (Nat × Action) :=
  [(0, .build), (1, .build), (0, .install 1), (1, .install 2), (1, .announce 2), (0, .announce 1)]

/-- **Stores that cross.** Whatever two configurations two threads put into effect, a run leaves the
setup of the one installed and the other one announced, with both calls returned. -/
theorem exists_run_crossed [Calendar.Formatter] (b : Builder) (e : Environment) (c₁ c₂ : Config) :
    ∃ calls s, Run b.allRoutes b.trap (start b e calls) crossed s ∧ s.Quiet ∧ s.announced = c₁ ∧
      Source s.setups s.installed c₂ e := by
  let calls : Nat → List Call := fun n =>
    if n = 0 then [.reconfigure c₁ e] else if n = 1 then [.reconfigure c₂ e] else []
  have run₁ : Run b.allRoutes b.trap (start b e calls) _ _ :=
    Run.nil.snoc (n := 0) (.build rfl rfl rfl)
  have run₂ := run₁.snoc (n := 1) (.build rfl rfl rfl)
  have run₃ := run₂.snoc (n := 0) (.install rfl)
  -- the setup of thread 1 replaces that of thread 0, and its announcement is replaced in turn
  have run₄ := run₃.snoc (n := 1) (.install rfl)
  have run₅ := run₄.snoc (n := 1) (.announce rfl)
  have run₆ := run₅.snoc (n := 0) (.announce rfl)
  refine ⟨calls, _, run₆, fun n => ?_, rfl, _, rfl⟩
  by_cases first : n = 0
  · subst first
    rfl
  · by_cases second : n = 1
    · subst second
      rfl
    · simp [start, Function.update, first, second, Phase.makes?]

/-- What a logger announces when no thread is in a reconfiguration need not be in effect: it may
announce lines of text and write JSON objects. -/
theorem not_inEffect_of_quiet :
    letI := Calendar.Formatter.verbatim
    ¬ ∀ (b : Builder) (e : Environment) (calls : Nat → List Call) (steps : List (Nat × Action))
      (s : SharedLogger), Run b.allRoutes b.trap (start b e calls) steps s → s.Quiet →
        s.InEffect := by
  let _ := Calendar.Formatter.verbatim
  intro always
  let b : Builder := ⟨{}, .reliable 0 .stdout, [], .recorder⟩
  obtain ⟨calls, s, run, quiet, announced, source⟩ :=
    exists_run_crossed b [] { format := .text } { format := .json }
  obtain ⟨e, in_effect⟩ := always b [] calls crossed s run quiet
  obtain ⟨config, -⟩ := source.unique in_effect
  rw [announced] at config
  exact absurd (congrArg Config.format config) (by decide)

end Logline.SharedLogger
