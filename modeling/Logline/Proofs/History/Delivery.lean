import Logline.Proofs.Routes.Merged

/-! # Calls of a sink

What a writer does to its sink can be told from the outcomes of the sink's calls. A record is one
call that writes; behind it comes one call that flushes, if the first one succeeds; and whichever of
the two fails, it is reported once.

* `Sink.nextWrite`, `Sink.nextFlush` — the outcomes of the next calls
* `Sink.recordEffects`, `Sink.flushEffects` — what writing a record and flushing look like from
  outside
* `Writer.write_eq`, `Writer.flush_eq` — what a writer does to the world
* `Router.write_build`, `Router.flush_build` — what a router does to the world -/

namespace Logline

/-- The error of the next call that writes to a sink, where it fails. -/
def Sink.nextWrite (s : Sink) (journal : List Effect) : Option Error :=
  s.writeFault (journal.countP (Effect.writesTo s.handle))

/-- The error of the next call that flushes a sink, where it fails. -/
def Sink.nextFlush (s : Sink) (journal : List Effect) : Option Error :=
  s.flushFault (journal.countP (Effect.flushes s.handle))

/-- What writing a record looks like from outside, by the outcome of the call that writes and of
that which flushes, if there is one. -/
def Sink.recordEffects (s : Sink) (trap : Trap) (bytes : List UInt8)
    (written flushed : Option Error) : List Effect :=
  [.write s.handle s.id bytes written]
    ++ (if written.isNone then [.flush s.handle s.id flushed] else [])
    ++ (written.or flushed).toList.map fun e =>
        .report trap (Writer.writeReport s.id bytes.length e)

/-- What a flush looks like from outside, by its outcome. -/
def Sink.flushEffects (s : Sink) (trap : Trap) (flushed : Option Error) : List Effect :=
  .flush s.handle s.id flushed
    :: flushed.toList.map fun e => .report trap (Writer.flushReport s.id e)

/-- A journal after a flush of a sink. -/
def Sink.flushBehind (trap : Trap) (journal : List Effect) (s : Sink) : List Effect :=
  journal ++ s.flushEffects trap (s.nextFlush journal)

namespace World

/-- A write is one effect, with the outcome that is next for the sink. -/
theorem write_eq (w : World) (s : Sink) (bytes : List UInt8) :
    w.write s bytes
      = (w.addAll [.write s.handle s.id bytes (s.nextWrite w.journal)], s.nextWrite w.journal) :=
  rfl

/-- A flush is one effect, with the outcome that is next for the sink. -/
theorem flush_eq (w : World) (s : Sink) :
    w.flush s = (w.addAll [.flush s.handle s.id (s.nextFlush w.journal)], s.nextFlush w.journal) :=
  rfl

/-- What asking arguments comes to: they are noted, and those that failed are reported. -/
theorem asking_eq {α : Type} (w : World) (f : Heap → List Attempt → α × List Attempt) :
    w.asking f = ((f w.heap w.attempts).1,
      { w with attempts := (f w.heap w.attempts).2 }.addAll
        ((((f w.heap w.attempts).2.drop w.attempts.length).filterMap Attempt.report?).map
          (.report w.processTrap))) :=
  Prod.ext rfl (reportAll_eq _ _ _)

end World

namespace Writer

/-- A writer writes a record: what comes of it is told by the outcomes of two calls. -/
theorem write_eq (writer : Writer) (text : String) (w : World) :
    writer.write text w = w.addAll (writer.sink.recordEffects writer.trap
      (writer.charset.encode text) (writer.sink.nextWrite w.journal)
      (writer.sink.nextFlush w.journal)) := by
  -- a call that writes does not count as one that flushes
  have flushes : ∀ error, writer.sink.nextFlush (w.journal
      ++ [.write writer.sink.handle writer.sink.id (writer.charset.encode text) error])
        = writer.sink.nextFlush w.journal := by
    intro error
    simp [Sink.nextFlush, Effect.flushes]
  rw [write, deliver, World.write_eq]
  cases written : writer.sink.nextWrite w.journal with
  | some e => simp [Sink.recordEffects, World.report_eq]
  | none =>
    simp only [World.flush_eq, World.journal_addAll, flushes]
    cases flushed : writer.sink.nextFlush w.journal with
    | some e => simp [Sink.recordEffects, World.report_eq]
    | none => simp [Sink.recordEffects]

/-- To write a record, a writer calls its sink once to write. -/
theorem exists_journal_write (writer : Writer) (text : String) (w : World) :
    ∃ error after, (writer.write text w).journal = w.journal
        ++ .write writer.sink.handle writer.sink.id (writer.charset.encode text) error :: after ∧
      ∀ e ∈ after, ∀ sink, e.writesTo sink = false := by
  rw [write_eq, World.journal_addAll, Sink.recordEffects, List.append_assoc, List.singleton_append]
  refine ⟨_, _, rfl, List.forall_mem_append.2 ⟨fun e mem sink => ?_, fun e mem sink => ?_⟩⟩
  · split at mem
    · rw [List.mem_singleton.1 mem]
      rfl
    · cases mem
  · obtain ⟨error, -, rfl⟩ := List.mem_map.1 mem
    rfl

/-- A writer flushes its sink. -/
theorem flush_eq (writer : Writer) (w : World) :
    writer.flush w
      = w.addAll (writer.sink.flushEffects writer.trap (writer.sink.nextFlush w.journal)) := by
  rw [flush, World.flush_eq]
  cases flushed : writer.sink.nextFlush w.journal with
  | some e => simp [Sink.flushEffects, World.report_eq]
  | none => simp [Sink.flushEffects]

end Writer

namespace Router

/-- A router writes a record to the sink of its level. -/
theorem write_build {routes : Routes} (merged : routes.Merged) (charset : Charset) (trap : Trap)
    (level : Level) (text : String) (w : World) :
    (build routes charset trap).write level text w
      = w.addAll ((routes.sink level).recordEffects trap (charset.encode text)
          ((routes.sink level).nextWrite w.journal) ((routes.sink level).nextFlush w.journal)) := by
  rw [write, merged.writer?_build]
  exact Writer.write_eq _ _ _

/-- A router flushes every sink, in order, whichever of them fail. -/
theorem flush_build (routes : Routes) (charset : Charset) (trap : Trap) (w : World) :
    (build routes charset trap).flush w
      = { w with journal := routes.sinks.foldl (Sink.flushBehind trap) w.journal } := by
  rw [build, flush]
  generalize routes.sinks = sinks
  induction sinks generalizing w with
  | nil => rfl
  | cons s sinks ih =>
    rw [List.map_cons, List.foldl_cons, ih, Writer.flush_eq]
    rfl

end Router

end Logline
