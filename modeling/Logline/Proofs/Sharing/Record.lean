import Logline.Proofs.Pipeline.Cell
import Logline.Proofs.Routes.Merged
import Logline.Proofs.Sharing.Step

/-! # Records of a shared logger

Whatever the interleaving, a record is the one that a new logger would write for the same event
under the same configuration, and it goes to the sink of its level: pipeline and charset come from
one setup, and the cell of the pipeline does not show.

* `SharedLogger.record` — the bytes of a record, by its configuration and request
* `SharedLogger.Faithful` — the invariant of setups and records
* `SharedLogger.faithful_of_run` — every state that a run reaches is faithful -/

namespace Logline.SharedLogger

/-- The bytes that a configuration, put into effect in an environment, gives to a request. -/
def record [Calendar.Formatter] (c : Config) (e : Environment) (r : Request) : List UInt8 :=
  (Charset.resolve c.charset).1.encode
    ((Pipeline.build c e).1.render r.surroundings r.event).1.buffer

/-- Whether the setup with a number was built from a configuration in an environment. -/
def Source (setups : List Built) (number : Nat) (c : Config) (e : Environment) : Prop :=
  ∃ setup, setups[number]? = some ⟨c, e, setup⟩

/-! ## Setups -/

/-- A setup is **sound** if it is the setup of its configuration, except that its cell may hold a
sound stamp. -/
structure Built.Sound [Calendar.Formatter] (routes : Routes) (trap : Trap) (b : Built) : Prop where
  router : b.setup.router = Router.build routes (Charset.resolve b.config.charset).1 trap
  layouts : b.setup.pipeline.layouts = (Pipeline.build b.config b.environment).1.layouts
  timestamps : b.setup.pipeline.timestamps = (Pipeline.build b.config b.environment).1.timestamps
  cell : b.setup.pipeline.Sound

namespace Built.Sound

variable [Calendar.Formatter] {routes : Routes} {trap : Trap} {b : Built}
  (sound : b.Sound routes trap)

include sound

/-- Whether a stamp is sound does not depend on what the cell of the setup holds. -/
theorem seesSound {seen : Option Stamp} :
    b.setup.pipeline.SeesSound seen ↔ (Pipeline.build b.config b.environment).1.SeesSound seen := by
  rw [Pipeline.SeesSound, Pipeline.SeesSound, sound.timestamps]

/-- A setup stays sound when a sound stamp is stored in its cell. -/
theorem store {stored : Option Stamp} (new : b.setup.pipeline.SeesSound stored) :
    (b.store stored).Sound routes trap :=
  ⟨sound.router, sound.layouts, sound.timestamps, Pipeline.store_sound sound.cell new⟩

/-- What a sound setup lays out and encodes is the record of its configuration. -/
theorem encode_layOut {seen : Option Stamp} (seen_sound : b.setup.pipeline.SeesSound seen)
    (r : Request) :
    (Charset.resolve b.config.charset).1.encode
        (b.setup.pipeline.layOut r.surroundings
          (b.setup.pipeline.respond seen r.event.millis).1 r.event).buffer
      = record b.config b.environment r := by
  have time : b.setup.pipeline.timeText r.event.millis
      = (Pipeline.build b.config b.environment).1.timeText r.event.millis := by
    rw [Pipeline.timeText, Pipeline.timeText, sound.timestamps]
  rw [record, Pipeline.render_eq_layOut (Pipeline.build_sound _ _),
    (Pipeline.respond_sound seen_sound _).1, time, Pipeline.layOut, Pipeline.layOut, sound.layouts]

end Built.Sound

/-- A setup that was just built is sound. -/
theorem built_sound [Calendar.Formatter] (routes : Routes) (trap : Trap) (c : Config) (w : World) :
    Built.Sound routes trap ⟨c, w.environment, (Setup.build c routes trap w).1⟩ :=
  ⟨rfl, rfl, rfl, Pipeline.build_sound c w.environment⟩

/-- Setups stay sound when a sound stamp is stored in the cell of one of them. -/
theorem sound_store [Calendar.Formatter] {routes : Routes} {trap : Trap} {setups : List Built}
    (sound : ∀ b ∈ setups, b.Sound routes trap) {number : Nat} {b : Built}
    (setup : setups[number]? = some b) {stored : Option Stamp}
    (new : b.setup.pipeline.SeesSound stored) :
    ∀ b' ∈ store setups number stored, b'.Sound routes trap := by
  intro b' mem
  obtain ⟨k, getElem⟩ := List.mem_iff_getElem?.1 mem
  rw [getElem?_store] at getElem
  obtain ⟨b₀, eq, rfl⟩ := Option.map_eq_some_iff.1 getElem
  by_cases same : number = k
  · -- the setup that has the cell changes, and the others stay as they are
    rw [← same, setup] at eq
    cases eq
    rw [if_pos same]
    exact (sound b (List.mem_of_getElem? setup)).store new
  · rw [if_neg same]
    exact sound b₀ (List.mem_of_getElem? eq)

/-! ## Sources last -/

section Source

variable {setups : List Built} {number : Nat} {c : Config} {e : Environment}

/-- A setup has its configuration and environment for its source. -/
theorem source_of_getElem? {b : Built} (eq : setups[number]? = some b) :
    Source setups number b.config b.environment := ⟨b.setup, eq⟩

/-- A setup has one source. -/
theorem Source.unique {c' : Config} {e' : Environment} (source : Source setups number c e)
    (source' : Source setups number c' e') : c = c' ∧ e = e' := by
  obtain ⟨setup, eq⟩ := source
  obtain ⟨setup', eq'⟩ := source'
  rw [eq] at eq'
  cases eq'
  exact ⟨rfl, rfl⟩

/-- Further setups leave the sources of the earlier ones as they are. -/
theorem Source.append (source : Source setups number c e) (more : List Built) :
    Source (setups ++ more) number c e := by
  obtain ⟨setup, eq⟩ := source
  exact ⟨setup, List.getElem?_append_left (List.getElem?_eq_some_iff.1 eq).1 ▸ eq⟩

/-- The number of a new setup is how many there were before it. -/
theorem Source.last (setups : List Built) (b : Built) :
    Source (setups ++ [b]) setups.length b.config b.environment :=
  source_of_getElem? List.getElem?_concat_length

/-- A store in a cell leaves all sources as they are. -/
theorem Source.store (source : Source setups number c e) (number' : Nat) (stored : Option Stamp) :
    Source (store setups number' stored) number c e := by
  obtain ⟨setup, eq⟩ := source
  rw [Source, getElem?_store, eq, Option.map_some]
  by_cases same : number' = number
  · rw [if_pos same]
    exact ⟨_, rfl⟩
  · rw [if_neg same]
    exact ⟨_, rfl⟩

end Source

/-! ## Faithful states -/

/-- A record is **faithful** if it is the record of the setup that laid it out, and on its way to
the sink of its level. -/
structure Parcel.Faithful [Calendar.Formatter] (routes : Routes) (setups : List Built)
    (p : Parcel) : Prop where
  bytes : ∃ c e, Source setups p.number c e ∧ p.bytes = record c e p.request
  sink : p.sink = routes.sink p.request.event.level

/-- What a thread works with is faithful. -/
def Phase.Faithful [Calendar.Formatter] (routes : Routes) (setups : List Built) : Phase → Prop
  | .idle => True
  | .loaded _ number => ∃ c e, Source setups number c e
  | .looked _ number seen =>
    ∃ c e, Source setups number c e ∧ (Pipeline.build c e).1.SeesSound seen
  | .encoded p => p.Faithful routes setups
  | .writing p pieces rest => p.Faithful routes setups ∧ pieces.flatten ++ rest = p.bytes
  | .flushed p => p.Faithful routes setups
  | .built number c => ∃ e, Source setups number c e
  | .installed number c => ∃ e, Source setups number c e

/-- A delivery is faithful: its record is, and its pieces are the record. -/
structure Delivery.Faithful [Calendar.Formatter] (routes : Routes) (setups : List Built)
    (d : Delivery) : Prop where
  parcel : d.parcel.Faithful routes setups
  pieces : d.pieces.flatten = d.parcel.bytes

/-- What a sound setup lays out, with what is in its cell or was there before, is a faithful
record. -/
theorem Built.Sound.parcel [Calendar.Formatter] {routes : Routes} {trap : Trap}
    (merged : routes.Merged) {setups : List Built} {number : Nat} {b : Built}
    (sound : b.Sound routes trap)
    (setup : setups[number]? = some b) {seen : Option Stamp}
    (seen_sound : b.setup.pipeline.SeesSound seen) {r : Request} {writer : Writer}
    (route : b.setup.router.writer? r.event.level = some writer) :
    Parcel.Faithful routes setups
      ⟨r, number, writer.sink, writer.charset.encode
        (b.setup.pipeline.layOut r.surroundings
          (b.setup.pipeline.respond seen r.event.millis).1 r.event).buffer⟩ := by
  rw [sound.router, merged.writer?_build] at route
  cases route
  exact ⟨⟨_, _, source_of_getElem? setup, sound.encode_layOut seen_sound r⟩, rfl⟩

/-- The invariant of setups and records. -/
structure Faithful [Calendar.Formatter] (routes : Routes) (trap : Trap) (s : SharedLogger) :
    Prop where
  setups : ∀ b ∈ s.setups, b.Sound routes trap
  installed : ∃ c e, Source s.setups s.installed c e
  phases : ∀ n, (s.phases n).Faithful routes s.setups
  delivered : ∀ d ∈ s.delivered, d.Faithful routes s.setups

section Kept

variable [Calendar.Formatter] {routes : Routes} {setups setups' : List Built}
  (kept : ∀ {number c e}, Source setups number c e → Source setups' number c e)

include kept

/-- A faithful record stays faithful while sources stay. -/
theorem Parcel.Faithful.mono {p : Parcel} (faithful : p.Faithful routes setups) :
    p.Faithful routes setups' := by
  obtain ⟨c, e, source, bytes⟩ := faithful.bytes
  exact ⟨⟨c, e, kept source, bytes⟩, faithful.sink⟩

/-- What is faithful stays so as long as setups keep their sources. -/
theorem Phase.Faithful.mono {phase : Phase} (faithful : phase.Faithful routes setups) :
    phase.Faithful routes setups' := by
  -- whatever the thread works with names its source, which is kept
  cases phase with
  | idle => trivial
  | loaded r number =>
    obtain ⟨c, e, source⟩ := faithful
    exact ⟨c, e, kept source⟩
  | looked r number seen =>
    obtain ⟨c, e, source, sound⟩ := faithful
    exact ⟨c, e, kept source, sound⟩
  | encoded p => exact Parcel.Faithful.mono kept faithful
  | writing p pieces rest => exact ⟨Parcel.Faithful.mono kept faithful.1, faithful.2⟩
  | flushed p => exact Parcel.Faithful.mono kept faithful
  | built number c =>
    obtain ⟨e, source⟩ := faithful
    exact ⟨e, kept source⟩
  | installed number c =>
    obtain ⟨e, source⟩ := faithful
    exact ⟨e, kept source⟩

/-- A faithful delivery stays faithful while sources stay. -/
theorem Delivery.Faithful.mono {d : Delivery} (faithful : d.Faithful routes setups) :
    d.Faithful routes setups' :=
  ⟨Parcel.Faithful.mono kept faithful.parcel, faithful.pieces⟩

end Kept

section Run

variable [Calendar.Formatter] {routes : Routes} {trap : Trap} {s s' : SharedLogger} {n : Nat}
  {a : Action}

/-- What a thread works with, found out from its phase. -/
theorem Faithful.phase (faithful : s.Faithful routes trap) {phase : Phase}
    (eq : s.phases n = phase) : phase.Faithful routes s.setups := by
  rw [← eq]
  exact faithful.phases n

/-- What a thread saw, it saw in the cell of the setup that it loaded. -/
theorem Faithful.seesSound (faithful : s.Faithful routes trap) {request : Request} {number : Nat}
    {seen : Option Stamp} (looked : s.phases n = .looked request number seen) {b : Built}
    (setup : s.setups[number]? = some b) : b.setup.pipeline.SeesSound seen := by
  obtain ⟨c, e, source, seen_sound⟩ := faithful.phase looked
  obtain ⟨rfl, rfl⟩ := source.unique (source_of_getElem? setup)
  exact (faithful.setups b (List.mem_of_getElem? setup)).seesSound.2 seen_sound

/-- A step that leaves the setups alone keeps a state faithful, if the new phase is faithful. -/
theorem Faithful.phase_step (faithful : s.Faithful routes trap) {phase : Phase}
    (new : phase.Faithful routes s.setups) (m : Nat) :
    (Function.update s.phases n phase m).Faithful routes s.setups :=
  (Function.forall_update_iff s.phases fun _ phase => phase.Faithful routes s.setups).2
    ⟨new, fun m _ => faithful.phases m⟩ m

/-- No step changes what a setup was built from. -/
theorem Step.source (step : Step routes trap n a s s') {number : Nat} {c : Config} {e : Environment}
    (source : Source s.setups number c e) : Source s'.setups number c e := by
  cases step with
  | layOut looked setup response layout route => exact source.store _ _
  | build idle next made => exact source.append _
  | _ => exact source

/-- A run leaves all sources as they are. -/
theorem Run.source {steps : List (Nat × Action)} (run : Run routes trap s steps s') {number : Nat}
    {c : Config} {e : Environment} (source : Source s.setups number c e) :
    Source s'.setups number c e := by
  induction run with
  | nil => exact source
  | snoc _ step ih => exact step.source ih

/-- **One step keeps states faithful**, whichever thread takes it and whatever it does. -/
theorem Faithful.step (merged : routes.Merged) (faithful : s.Faithful routes trap)
    (step : Step routes trap n a s s') : s'.Faithful routes trap := by
  have kept : ∀ {k c e}, Source s.setups k c e → Source s'.setups k c e := step.source
  cases step with
  | load idle next =>
    exact ⟨faithful.setups, faithful.installed, faithful.phase_step faithful.installed,
      faithful.delivered⟩
  | @look _ request number b loaded setup =>
    have sound := faithful.setups b (List.mem_of_getElem? setup)
    exact ⟨faithful.setups, faithful.installed,
      faithful.phase_step ⟨_, _, source_of_getElem? setup, sound.seesSound.1 sound.cell⟩,
      faithful.delivered⟩
  | @layOut _ request number seen b time stored e writer looked setup response layout route =>
    have sound := faithful.setups b (List.mem_of_getElem? setup)
    have seen_sound := faithful.seesSound looked setup
    have time_eq : (b.setup.pipeline.respond seen request.event.millis).1 = time :=
      congrArg Prod.fst response
    have stored_eq : (b.setup.pipeline.respond seen request.event.millis).2 = stored :=
      congrArg Prod.snd response
    have stored_sound : b.setup.pipeline.SeesSound stored := by
      rw [← stored_eq]
      exact (Pipeline.respond_sound seen_sound _).2
    have parcel : Parcel.Faithful routes s.setups
        ⟨request, number, writer.sink, writer.charset.encode e.buffer⟩ := by
      rw [← layout, ← time_eq] at route ⊢
      exact sound.parcel merged setup seen_sound (Pipeline.layOut_level .. ▸ route)
    refine ⟨sound_store faithful.setups setup stored_sound, ?_, ?_,
      fun d mem => (faithful.delivered d mem).mono kept⟩
    · obtain ⟨c, e, source⟩ := faithful.installed
      exact ⟨c, e, kept source⟩
    · exact (Function.forall_update_iff s.phases fun _ phase => phase.Faithful routes _).2
        ⟨parcel.mono kept, fun m _ => (faithful.phases m).mono kept⟩
  | lock encoded free =>
    exact ⟨faithful.setups, faithful.installed,
      faithful.phase_step ⟨faithful.phase encoded, List.nil_append _⟩, faithful.delivered⟩
  | @write _ p pieces piece rest writing =>
    -- a piece moves from what is left to what is written
    obtain ⟨parcel, bytes⟩ := faithful.phase writing
    refine ⟨faithful.setups, faithful.installed, faithful.phase_step ⟨parcel, ?_⟩,
      faithful.delivered⟩
    rw [← bytes, List.flatten_append, List.append_assoc, List.flatten_singleton]
  | @flush _ p pieces writing =>
    obtain ⟨parcel, bytes⟩ := faithful.phase writing
    refine ⟨faithful.setups, faithful.installed, faithful.phase_step parcel, fun d mem => ?_⟩
    rcases List.mem_append.1 mem with old | new
    · exact faithful.delivered d old
    · rw [List.mem_singleton.1 new]
      exact ⟨parcel, by rw [← bytes, List.append_nil]⟩
  | unlock flushed =>
    exact ⟨faithful.setups, faithful.installed, faithful.phase_step trivial, faithful.delivered⟩
  | @build _ c e rest setup w idle next made =>
    have setup_eq : (Setup.build c routes trap
        { environment := e, journal := s.journal }).1 = setup := congrArg Prod.fst made
    refine ⟨fun b mem => ?_, ?_, ?_, fun d mem => (faithful.delivered d mem).mono kept⟩
    · rcases List.mem_append.1 mem with old | new
      · exact faithful.setups b old
      · rw [List.mem_singleton.1 new, ← setup_eq]
        exact built_sound routes trap c { environment := e, journal := s.journal }
    · obtain ⟨c, e, source⟩ := faithful.installed
      exact ⟨c, e, kept source⟩
    · exact (Function.forall_update_iff s.phases fun _ phase => phase.Faithful routes _).2
        ⟨⟨e, Source.last s.setups ⟨c, e, setup⟩⟩, fun m _ => (faithful.phases m).mono kept⟩
  | @install _ number c built =>
    have source := faithful.phase built
    obtain ⟨e, source'⟩ := source
    exact ⟨faithful.setups, ⟨c, e, source'⟩, faithful.phase_step ⟨e, source'⟩, faithful.delivered⟩
  | announce installed =>
    exact ⟨faithful.setups, faithful.installed, faithful.phase_step trivial, faithful.delivered⟩

/-- At first nothing is on its way, and the only setup is that of the start. -/
theorem start_faithful (b : Builder) (e : Environment) (calls : Nat → List Call) :
    (start b e calls).Faithful b.allRoutes b.trap := by
  have sound : Built.Sound b.allRoutes b.trap ⟨b.config, e, _⟩ :=
    built_sound b.allRoutes b.trap b.config { environment := e }
  refine ⟨fun b' mem => ?_, ⟨b.config, e, _, rfl⟩, fun _ => trivial, fun d mem => ?_⟩
  · rw [List.mem_singleton.1 mem]
    exact sound
  · cases mem

/-- **A run keeps states faithful**, whatever the interleaving. -/
theorem Run.faithful (merged : routes.Merged) (faithful : s.Faithful routes trap)
    {steps : List (Nat × Action)} (run : Run routes trap s steps s') : s'.Faithful routes trap := by
  induction run with
  | nil => exact faithful
  | snoc _ step ih => exact ih.step merged step

/-- Every state that a run of a builder's logger reaches is faithful. -/
theorem faithful_of_run {b : Builder} {e : Environment} {calls : Nat → List Call}
    {steps : List (Nat × Action)}
    (run : Run b.allRoutes b.trap (start b e calls) steps s) : s.Faithful b.allRoutes b.trap :=
  run.faithful b.allRoutes_merged (start_faithful b e calls)

end Run

end Logline.SharedLogger
