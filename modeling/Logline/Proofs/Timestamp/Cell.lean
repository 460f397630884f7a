import Logline.Proofs.Timestamp.Stem
import Mathlib.Logic.Function.Basic
import Mathlib.Logic.Relation

/-! # The cell of timestamps, shared by threads

Threads that show times through one cell load it, work out a text, and may store a stamp; between
these steps the other threads take theirs. A thread may so work with a cell that was overwritten
meanwhile, and overwrite a newer one.

* `Stamp.Sound` — what every stamp promises, whoever stored it
* `CellStep` — the steps of one thread
* `Timestamps.returned_eq_uncached` — under every interleaving each call returns the text that the
  calendar gives -/

namespace Logline

/-! ## Sound stamps -/

/-- A stamp is **sound** if its text is the one that the calendar gives, and its stem, where it has
one, is the stem of every standard text of its span. -/
structure Stamp.Sound (t : Timestamps) (s : Stamp) : Prop where
  text_eq : s.text = t.uncached s.millis
  standard : ∀ {span stem}, s.stem = some (span, stem) → t.pattern = none
  stem_eq : ∀ {span stem}, s.stem = some (span, stem) → stem = t.stemOf span

/-- A cell is sound if it is empty or holds a sound stamp. -/
def CellSound (t : Timestamps) (cell : Option Stamp) : Prop := ∀ s ∈ cell, s.Sound t

namespace CellSound

variable {t : Timestamps}

/-- An empty cell is sound. -/
theorem none : CellSound t none := by
  intro s mem
  cases mem

/-- A cell that holds a sound stamp is sound. -/
theorem some {s : Stamp} (sound : s.Sound t) : CellSound t (some s) := by
  intro s' mem
  cases mem
  exact sound

/-- Storing a sound stamp, or nothing, keeps a cell sound. -/
theorem or {stored cell : Option Stamp} (new : CellSound t stored) (old : CellSound t cell) :
    CellSound t (stored.or cell) := by
  cases stored with
  | none => exact old
  | some s => exact new

end CellSound

namespace Timestamps

variable {t : Timestamps} {millis : Int}

/-- Going by the calendar gives the text of the time and a sound stamp. -/
theorem computed_sound (civil : t.output.isCivil = true) (date : hasDate millis = true) :
    CellSound t (t.computed millis (t.localMillis millis / spanMillis)).2 := by
  have stem : ∀ {span stem},
      t.stem? (t.localMillis millis / spanMillis) (t.uncached millis) = some (span, stem) →
        t.pattern = none ∧ stem = t.stemOf span := by
    intro span stem eq
    -- a stem is cut off standard texts only, and those are completed stems
    cases pattern : t.pattern with
    | none =>
      rw [uncached_eq_complete civil pattern date, stem?_complete pattern] at eq
      cases eq
      exact ⟨rfl, rfl⟩
    | some _ => simp [stem?, pattern] at eq
  exact CellSound.some ⟨rfl, fun eq => (stem eq).1, fun eq => (stem eq).2⟩

/-- What a call works out for a time other than the remembered one: the text of the calendar, and a
sound stamp. The stem that it takes over is good for every time of the span, whatever offset the
zone had when the stem was cut. -/
theorem fresh_sound (civil : t.output.isCivil = true) {known : Option (Int × String)}
    (standard : ∀ {span stem}, known = some (span, stem) → t.pattern = none)
    (stem_eq : ∀ {span stem}, known = some (span, stem) → stem = t.stemOf span) :
    (t.fresh known millis).1 = t.uncached millis ∧ CellSound t (t.fresh known millis).2 := by
  by_cases date : hasDate millis = true
  · rw [fresh, if_pos date]
    cases known with
    | none => exact ⟨rfl, computed_sound civil date⟩
    | some k =>
      obtain ⟨span, stem⟩ := k
      have standard := standard rfl
      have stem_eq := stem_eq rfl
      -- the remembered stem serves the span of the time, or the calendar is asked
      by_cases same : span = t.localMillis millis / spanMillis
      · have text : complete stem (t.localMillis millis) = t.uncached millis := by
          rw [uncached_eq_complete civil standard date, stem_eq, same]
        simp only [if_pos same]
        refine ⟨text, CellSound.some ⟨text, fun _ => standard, ?_⟩⟩
        intro span' stem' eq
        cases eq
        rw [stem_eq, same]
      · simp only [if_neg same]
        exact ⟨rfl, computed_sound civil date⟩
  · rw [fresh, if_neg date]
    exact ⟨rfl, CellSound.none⟩

/-- From a sound cell a call works out the text of the calendar, and stores a sound stamp or
nothing. -/
theorem respond_sound {cell : Option Stamp} (sound : CellSound t cell) :
    (t.respond cell millis).1 = t.uncached millis ∧ CellSound t (t.respond cell millis).2 := by
  by_cases civil : t.output.isCivil = true
  · rw [respond, if_pos civil]
    cases cell with
    | none => exact fresh_sound civil (fun eq => by cases eq) (fun eq => by cases eq)
    | some s =>
      have stamp := sound s rfl
      by_cases same : s.millis = millis
      · rw [answer, if_pos same]
        exact ⟨by rw [stamp.text_eq, same], CellSound.none⟩
      · rw [answer, if_neg same]
        exact fresh_sound civil stamp.standard stamp.stem_eq
  · rw [respond, if_neg civil]
    exact ⟨rfl, CellSound.none⟩

end Timestamps

/-! ## Interleaved calls -/

/-- What a thread is doing with a cell. -/
inductive CellUse where
  /-- Nothing. -/
  | idle
  /-- It shows a time, and found this in the cell when it loaded it. -/
  | loaded (millis : Int) (seen : Option Stamp)
  /-- It has the text of a time, and what it is going to store. -/
  | computed (millis : Int) (text : String) (stored : Option Stamp)

/-- The time that a thread is about to show. -/
def CellUse.millis? : CellUse → Option Int
  | .idle => none
  | .loaded millis _ => some millis
  | .computed millis _ _ => some millis

/-- A cell, the threads that use it, and the calls that returned: thread, time and text. -/
structure CellState where
  cell : Option Stamp
  uses : Nat → CellUse
  returned : List (Nat × Int × String)

/-- An empty cell that no thread uses. -/
def CellState.fresh : CellState := ⟨none, fun _ => .idle, []⟩

/-- The steps of thread `n`. -/
inductive CellStep (t : Timestamps) (n : Nat) : CellState → CellState → Prop
  /-- A call for any time begins: the cell is loaded. -/
  | load {s : CellState} (millis : Int) (idle : s.uses n = .idle) :
      CellStep t n s { s with uses := Function.update s.uses n (.loaded millis s.cell) }
  /-- The text is worked out from what was loaded. -/
  | compute {s : CellState} {millis : Int} {seen : Option Stamp}
      (loaded : s.uses n = .loaded millis seen) :
      CellStep t n s
        { s with
          uses := Function.update s.uses n
            (.computed millis (t.respond seen millis).1 (t.respond seen millis).2) }
  /-- The stamp is stored, where there is one, and the call returns. -/
  | finish {s : CellState} {millis : Int} {text : String} {stored : Option Stamp}
      (computed : s.uses n = .computed millis text stored) :
      CellStep t n s
        { cell := stored.or s.cell
          uses := Function.update s.uses n .idle
          returned := s.returned ++ [(n, millis, text)] }

/-- A step of any thread. -/
def CellStep.Any (t : Timestamps) (s s' : CellState) : Prop := ∃ n, CellStep t n s s'

/-- What a thread works with is sound: the cell as it found it, or the text and the stamp that it
worked out. -/
def CellUse.Sound (t : Timestamps) : CellUse → Prop
  | .idle => True
  | .loaded _ seen => CellSound t seen
  | .computed millis text stored => text = t.uncached millis ∧ CellSound t stored

/-- The invariant of the cell and its threads. -/
structure CellState.Sound (t : Timestamps) (s : CellState) : Prop where
  cell : CellSound t s.cell
  uses : ∀ n, (s.uses n).Sound t
  returned : ∀ c ∈ s.returned, c.2.2 = t.uncached c.2.1

namespace CellState

variable {t : Timestamps} {s s' : CellState} {n : Nat}

/-- A fresh cell is sound, and nothing has been returned from it. -/
theorem fresh_sound : fresh.Sound t :=
  ⟨CellSound.none, fun _ => trivial, fun _ mem => absurd mem List.not_mem_nil⟩

/-- One thread's new work leaves the work of the others as it is. -/
theorem uses_update_sound {uses : Nat → CellUse} {u : CellUse} (old : ∀ m, (uses m).Sound t)
    (new : u.Sound t) (m : Nat) : (Function.update uses n u m).Sound t :=
  (Function.forall_update_iff uses fun _ u => u.Sound t).2 ⟨new, fun m _ => old m⟩ m

/-- **One step keeps a cell sound**, whichever thread takes it and whatever it has loaded before. -/
theorem Sound.step (sound : s.Sound t) (step : CellStep t n s s') : s'.Sound t := by
  cases step with
  | load millis idle =>
    exact ⟨sound.cell, uses_update_sound sound.uses sound.cell, sound.returned⟩
  | compute loaded =>
    have seen := sound.uses n
    rw [loaded] at seen
    exact ⟨sound.cell, uses_update_sound sound.uses (Timestamps.respond_sound seen), sound.returned⟩
  | finish computed =>
    have use := sound.uses n
    rw [computed] at use
    refine ⟨CellSound.or use.2 sound.cell, uses_update_sound sound.uses trivial, ?_⟩
    intro c mem
    rcases List.mem_append.1 mem with old | new
    · exact sound.returned c old
    · cases List.mem_singleton.1 new
      exact use.1

/-- Every state that interleaved calls reach is sound. -/
theorem sound_of_run (run : Relation.ReflTransGen (CellStep.Any t) fresh s) : s.Sound t := by
  induction run with
  | refl => exact fresh_sound
  | tail _ step ih =>
    obtain ⟨n, step⟩ := step
    exact ih.step step

/-- A thread that has begun a call ends it by its own steps, whatever it found in the cell. -/
theorem Sound.finishes (sound : s.Sound t) {millis : Int}
    (busy : (s.uses n).millis? = some millis) :
    ∃ s', Relation.ReflTransGen (CellStep t n) s s' ∧
      s'.returned = s.returned ++ [(n, millis, t.uncached millis)] := by
  have computed_finishes : ∀ {r : CellState} {stored : Option Stamp},
      r.uses n = .computed millis (t.uncached millis) stored →
        ∃ s', CellStep t n r s' ∧ s'.returned = r.returned ++ [(n, millis, t.uncached millis)] :=
    fun eq => ⟨_, CellStep.finish eq, rfl⟩
  cases use : s.uses n with
  | idle => simp [use, CellUse.millis?] at busy
  | loaded m seen =>
    rw [use] at busy
    cases busy
    have seen_sound := sound.uses n
    rw [use] at seen_sound
    -- from what it loaded it works out the text of the calendar
    obtain ⟨s', last, returned⟩ := computed_finishes
      (r := { s with
        uses := Function.update s.uses n
          (.computed millis (t.respond seen millis).1 (t.respond seen millis).2) })
      (by rw [← (Timestamps.respond_sound seen_sound).1]; exact Function.update_self _ _ _)
    exact ⟨s', .tail (.single (CellStep.compute use)) last, returned⟩
  | computed m text stored =>
    rw [use] at busy
    cases busy
    have use_sound := sound.uses n
    rw [use] at use_sound
    obtain ⟨s', last, returned⟩ := computed_finishes (by rw [use, use_sound.1])
    exact ⟨s', .single last, returned⟩

/-- A call that no other thread comes between does what `format` does. -/
theorem exists_run_format (idle : s.uses n = .idle) (millis : Int) :
    ∃ s', Relation.ReflTransGen (CellStep t n) s s' ∧
      s'.cell = (t.format s.cell millis).2 ∧
      s'.returned = s.returned ++ [(n, millis, (t.format s.cell millis).1)] := by
  have run₁ : Relation.ReflTransGen (CellStep t n) s _ := .single (.load millis idle)
  have run₂ := run₁.tail (.compute (Function.update_self _ _ _))
  have run₃ := run₂.tail (.finish (Function.update_self _ _ _))
  exact ⟨_, run₃, rfl, rfl⟩

end CellState

/-! ## The cell is invisible -/

namespace Timestamps

/-- **The cell is invisible.** Whatever steps any number of threads have taken from an empty cell
on, every call that returned gave the text of the calendar, and every call in progress returns it by
steps of its own thread. -/
theorem returned_eq_uncached (t : Timestamps) {s : CellState}
    (run : Relation.ReflTransGen (CellStep.Any t) CellState.fresh s) :
    (∀ n millis text, (n, millis, text) ∈ s.returned → text = t.uncached millis) ∧
      ∀ n millis, (s.uses n).millis? = some millis →
        ∃ s', Relation.ReflTransGen (CellStep t n) s s' ∧
          s'.returned = s.returned ++ [(n, millis, t.uncached millis)] := by
  have sound := CellState.sound_of_run run
  exact ⟨fun n millis text mem => sound.returned (n, millis, text) mem,
    fun n millis busy => sound.finishes busy⟩

/-- Two threads in a zone five seconds ahead: the second one loads the empty cell before the first
one has stored anything, and stores its stamp while the first one is at its second call. -/
theorem returned_eq_uncached_five_seconds :
    let t : Timestamps := ⟨.dateTime, none, .fixed 5, 0⟩
    ∃ s, Relation.ReflTransGen (CellStep.Any t) CellState.fresh s ∧
      s.returned.map (fun c => (c.1, c.2.2)) =
        [(0, "2023-11-14T22:13:26.000"), (1, "1970-01-01T00:00:04.999"),
          (0, "2023-11-14T22:13:28.250")] ∧
      ∀ n millis text, (n, millis, text) ∈ s.returned → text = t.uncached millis := by
  intro t
  have run₁ : Relation.ReflTransGen (CellStep.Any t) CellState.fresh _ :=
    .single ⟨0, .load 1700000001000 rfl⟩
  have run₂ := run₁.tail ⟨1, .load (-1) rfl⟩
  have run₃ := run₂.tail ⟨0, .compute rfl⟩
  have run₄ := run₃.tail ⟨0, .finish rfl⟩
  -- the second time of the first thread lies in the span that the cell knows by now
  have run₅ := run₄.tail ⟨0, .load 1700000003250 rfl⟩
  have run₆ := run₅.tail ⟨0, .compute rfl⟩
  have run₇ := run₆.tail ⟨1, .compute rfl⟩
  have run₈ := run₇.tail ⟨1, .finish rfl⟩
  have run₉ := run₈.tail ⟨0, .finish rfl⟩
  exact ⟨_, run₉, by decide +kernel, (returned_eq_uncached t run₉).1⟩

end Timestamps

end Logline
