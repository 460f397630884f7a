import Logline.Proofs.Sharing.Record

/-! # One thread at a time

A call that no other thread comes between does what the logger does: its steps lead from a shared
logger that stands for a logger and a journal to one that stands for the logger and the journal
after the call.

* `SharedLogger.StandsFor` — what a shared logger has of a logger and a journal
* `SharedLogger.exists_run_logEvent` — a log call
* `SharedLogger.exists_run_reconfigure` — a reconfiguration -/

namespace Logline

namespace Writer

/-- A writer whose sink never fails adds a write and a flush to the journal. -/
theorem journal_write {writer : Writer} (writes : ∀ k, writer.sink.writeFault k = none)
    (flushes : ∀ k, writer.sink.flushFault k = none) (text : String) (w : World) :
    (writer.write text w).journal = w.journal
      ++ [SharedLogger.pieceEffect writer.sink (writer.charset.encode text)]
      ++ [SharedLogger.flushEffect writer.sink] := by
  simp only [Writer.write, deliver, World.write, World.flush, writes, flushes, World.add,
    SharedLogger.pieceEffect, SharedLogger.flushEffect]

end Writer

/-- What a log call adds to the journal, where the sink of the level never fails. -/
theorem Logger.journal_logEvent {l : Logger} {t : Thread} {event : Event} {w : World}
    {time : String} {stored : Option Stamp} {writer : Writer}
    (response : l.setup.pipeline.respond l.setup.pipeline.cell event.millis = (time, stored))
    (route : l.setup.router.writer? event.level = some writer)
    (writes : ∀ k, writer.sink.writeFault k = none)
    (flushes : ∀ k, writer.sink.flushFault k = none) :
    (l.logEvent t event w).2.journal = w.journal
      ++ [SharedLogger.pieceEffect writer.sink (writer.charset.encode
          (l.setup.pipeline.layOut (surroundings t w) time event).buffer)]
      ++ [SharedLogger.flushEffect writer.sink] := by
  rw [← Pipeline.layOut_level l.setup.pipeline (surroundings t w) time event] at route
  rw [Logger.logEvent, Pipeline.render, response]
  dsimp only
  rw [Router.write, route]
  exact Writer.journal_write writes flushes _ _

namespace SharedLogger

variable {routes : Routes} {trap : Trap} {s : SharedLogger} {n : Nat}

/-- A shared logger **stands for** a logger and the journal of a world. -/
structure StandsFor (s : SharedLogger) (l : Logger) (w : World) : Prop where
  setup : ∃ c e, s.setups[s.installed]? = some ⟨c, e, l.setup⟩
  announced : s.announced = l.config
  journal : s.journal = w.journal

/-- A new shared logger stands for the logger that its builder builds. -/
theorem start_standsFor [Calendar.Formatter] (b : Builder) (e : Environment)
    (calls : Nat → List Call) :
    (start b e calls).StandsFor (b.build { environment := e }).1
      (b.build { environment := e }).2 :=
  ⟨⟨b.config, e, rfl⟩, rfl, rfl⟩

/-- A log call that no other thread comes between. -/
theorem exists_run_logEvent [Calendar.Formatter] (merged : routes.Merged) {l : Logger} {w : World}
    {charset : Charset} (stands : s.StandsFor l w)
    (router : l.setup.router = Router.build routes charset trap)
    {t : Thread} {event : Event} {rest : List Call} (idle : s.phases n = .idle)
    (next : s.todo n = .log ⟨Logger.surroundings t w, event⟩ :: rest)
    (free : s.holder (routes.sink event.level).handle = none)
    (writes : ∀ k, (routes.sink event.level).writeFault k = none)
    (flushes : ∀ k, (routes.sink event.level).flushFault k = none) :
    ∃ steps s', Run routes trap s steps s' ∧ (∀ step ∈ steps, step.1 = n) ∧
      s'.phases n = .idle ∧ s'.todo n = rest ∧
      s'.StandsFor (l.logEvent t event w).1 (l.logEvent t event w).2 := by
  obtain ⟨c, e, setup⟩ := stands.setup
  have route : l.setup.router.writer? event.level
      = some ⟨routes.sink event.level, charset, trap⟩ := by
    rw [router, merged.writer?_build]
  have route' : ∀ time, l.setup.router.writer?
      (l.setup.pipeline.layOut (Logger.surroundings t w) time event).level
        = some ⟨routes.sink event.level, charset, trap⟩ := by
    intro time
    rw [Pipeline.layOut_level, route]
  have run₁ : Run routes trap s _ _ := Run.nil.snoc (.load idle next)
  have run₂ := run₁.snoc (.look (Function.update_self _ _ _) setup)
  have run₃ := run₂.snoc
    (.layOut (Function.update_self _ _ _) setup Prod.mk.eta.symm rfl (route' _))
  have run₄ := run₃.snoc (.lock (Function.update_self _ _ _) free)
  -- the whole record reaches the sink in one piece
  have run₅ := run₄.snoc (.write ((Function.update_self _ _ _).trans
    (congrArg _ (List.append_nil _).symm)))
  have run₆ := run₅.snoc (.flush (Function.update_self _ _ _))
  have run₇ := run₆.snoc (.unlock (Function.update_self _ _ _))
  refine ⟨_, _, run₇, by simp, Function.update_self _ _ _, Function.update_self _ _ _, ?_⟩
  refine ⟨⟨c, e, ?_⟩, stands.announced, ?_⟩
  · rw [getElem?_store, setup, Option.map_some, if_pos rfl]
    rfl
  · have journal : (l.logEvent t event w).2.journal = _ :=
      Logger.journal_logEvent Prod.mk.eta.symm route writes flushes
    dsimp only
    rw [journal, ← stands.journal]

/-- A reconfiguration that no other thread comes between. -/
theorem exists_run_reconfigure [Calendar.Formatter] {l : Logger} {w : World}
    (stands : s.StandsFor l w) {c : Config} {rest : List Call} (idle : s.phases n = .idle)
    (next : s.todo n = .reconfigure c w.environment :: rest) :
    ∃ steps s', Run l.routes l.trap s steps s' ∧ (∀ step ∈ steps, step.1 = n) ∧
      s'.phases n = .idle ∧ s'.todo n = rest ∧
      s'.StandsFor (l.reconfigure c w).1 (l.reconfigure c w).2 := by
  have run₁ : Run l.routes l.trap s _ _ := Run.nil.snoc (.build idle next Prod.mk.eta.symm)
  have run₂ := run₁.snoc (.install (Function.update_self _ _ _))
  have run₃ := run₂.snoc (.announce (Function.update_self _ _ _))
  refine ⟨_, _, run₃, by simp, Function.update_self _ _ _, Function.update_self _ _ _, ?_⟩
  refine ⟨⟨c, w.environment, ?_⟩, rfl, ?_⟩
  · exact List.getElem?_concat_length
  · simp only [Setup.build, World.journal_reportAll, Logger.reconfigure, stands.journal]

end SharedLogger

end Logline
