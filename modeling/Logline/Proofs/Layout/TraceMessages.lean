import Logline.Proofs.Layout.JsonRecord
import Logline.Proofs.Trace.Told

/-! # The messages of throwables in JSON objects

A record as a JSON object has the message of its throwable under a key of its own, and a list of the
frames and circles of the stack trace. The message of every throwable that the trace tells of is
found there. That of a silent throwable is not: the record does not depend on it.

* `JsonRecord.Conveys` — the records in which a message is found
* `Pipeline.conveys_or_silent` — which messages are found in a record -/

namespace Logline

open Layout

/-- An item of a stack trace **conveys** the message of a throwable if it is an object that has it
as its message, or the mark of a circle with class and message. -/
def Json.Conveys (className message : String) : Json → Prop
  | .object members => ("message", .string message) ∈ members
  | .string mark => mark = Trace.circularMark (className ++ ": " ++ message)
  | _ => False

namespace Trace.Entry

variable {h : Heap} {id : ThrowableId} {e : Entry}

/-- An entry that tells of a throwable conveys its message. -/
theorem exists_json?_of_tells (tells : e.Tells id) {message : String}
    (has : (h.throwable id).message = some message) :
    ∃ j, e.json? h = some j ∧ j.Conveys (h.throwable id).className message := by
  cases e with
  | caption | elided => exact tells.elim
  | frame depth owner index f =>
    obtain ⟨rfl, rfl⟩ := tells
    refine ⟨_, rfl, ?_⟩
    simp [Json.Conveys, has]
  | circular depth label again =>
    obtain rfl := tells
    refine ⟨_, rfl, ?_⟩
    rw [Json.Conveys, Heap.caption, Throwable.caption, has]

/-- An entry that does not tell of a throwable does not depend on its message. -/
theorem json?_withMessage (untold : ¬ e.Tells id) (message : Option String) :
    e.json? (h.withMessage id message) = e.json? h := by
  cases e with
  | caption | elided => rfl
  | frame depth owner index f =>
    by_cases first : index = 0
    · have other : owner ≠ id := fun same => untold ⟨same, first⟩
      rw [json?, json?, Heap.throwable_withMessage_of_ne other]
    · rw [json?, json?, if_neg first, if_neg first]
  | circular depth label again =>
    have other : again ≠ id := untold
    rw [json?, json?, Heap.caption, Heap.caption, Heap.throwable_withMessage_of_ne other]

end Trace.Entry

namespace JsonRecord

variable {c : Config} {start : Environment} {s : Surroundings} {event : Event}
  {root id : ThrowableId}

/-- A record **conveys** the message of a throwable if it is the message of the record's own one, or
if an item of its stack trace conveys it. -/
def Conveys (className message : String) (members : List (String × Json)) : Prop :=
  ("exception", .string message) ∈ members ∨
    ∃ items, ("stacktrace", .array items) ∈ members ∧ ∃ j ∈ items, j.Conveys className message

/-- The members of an event with a throwable end with its message and its trace. -/
theorem members_eq [Calendar.Formatter] (thrown : event.throwable = some root) :
    members c start s event = Slot.visible (eventSlots c start s event)
      ++ [("exception", Json.ofOption (s.heap.throwable root).message),
        ("stacktrace", Object.traceJson s.heap root)] := by
  rw [members, slots, Slot.visible_append, visible_throwableSlots, thrown]
  rfl

/-- A record conveys the messages of all throwables but the silent ones. -/
theorem conveys_members [Calendar.Formatter] (thrown : event.throwable = some root)
    (reached : s.heap.Reaches root id)
    {message : String} (has : (s.heap.throwable id).message = some message)
    (told : ¬ s.heap.Silent root id) :
    Conveys (s.heap.throwable id).className message (members c start s event) := by
  rw [members_eq thrown]
  -- the record's own throwable has a key for its message, the others have the stack trace only
  by_cases inner : id = root
  · subst inner
    rw [has]
    exact Or.inl (List.mem_append_right _ List.mem_cons_self)
  · obtain ⟨e, mem, tells⟩ := (Heap.exists_tells_iff reached inner).2 told
    obtain ⟨j, item, conveys⟩ := Trace.Entry.exists_json?_of_tells tells has
    exact Or.inr ⟨_, List.mem_append_right _ (List.mem_cons_of_mem _ List.mem_cons_self), j,
      List.mem_filterMap.2 ⟨e, mem, item⟩, conveys⟩

/-- A record does not depend on the message of a silent throwable. -/
theorem members_withMessage [Calendar.Formatter] (thrown : event.throwable = some root)
    (reached : s.heap.Reaches root id) (silent : s.heap.Silent root id) (message : Option String) :
    members c start { s with heap := s.heap.withMessage id message } event
      = members c start s event := by
  have inner : id ≠ root := by
    obtain ⟨owner, only, -⟩ := silent
    exact only.inner
  have untold : ∀ e ∈ s.heap.trace root, ¬ e.Tells id := fun e mem tells =>
    (Heap.exists_tells_iff reached inner).1 ⟨e, mem, tells⟩ silent
  have items : Object.traceJson (s.heap.withMessage id message) root
      = Object.traceJson s.heap root := by
    rw [Object.traceJson, Object.traceJson, Heap.trace_withMessage]
    exact congrArg Json.array (List.filterMap_congr fun e mem =>
      Trace.Entry.json?_withMessage (untold e mem) message)
  rw [members_eq thrown, members_eq thrown, items, Heap.throwable_withMessage_of_ne inner.symm]
  rfl

end JsonRecord

namespace Pipeline

/-- **The messages of throwables.** Whatever was laid out before, a record of an event with a
throwable conveys the message of each throwable that is reached from it, unless that one is silent;
then the record is the same whatever its message is. -/
theorem conveys_or_silent [Calendar.Formatter] (c : Config) (format : c.format = .json)
    (start : Environment) (earlier : List (Surroundings × Event)) (s : Surroundings) (event : Event)
    {root id : ThrowableId} {message : String} (thrown : event.throwable = some root)
    (reached : s.heap.Reaches root id) (has : (s.heap.throwable id).message = some message) :
    (¬ s.heap.Silent root id → ∃ line members,
      (((build c start).1.after earlier).render s event).1.buffer = event.buffer ++ line ++ "\n" ∧
      Json.read line = some (.object members) ∧
      JsonRecord.Conveys (s.heap.throwable id).className message members) ∧
    (s.heap.Silent root id → ∀ other,
      (((build c start).1.after earlier).render
          { s with heap := s.heap.withMessage id other } event).1.buffer
        = (((build c start).1.after earlier).render s event).1.buffer) := by
  constructor
  · intro told
    exact ⟨_, _, buffer_render_after format start earlier s event,
      Json.read_text (JsonRecord.spelled_members c start s event),
      JsonRecord.conveys_members thrown reached has told⟩
  · intro silent other
    -- both records have the same members
    rw [buffer_render_after format, buffer_render_after format,
      JsonRecord.members_withMessage thrown reached silent]

/-- A throwable without frames that another one suppresses and has as its cause. -/
theorem conveys_or_silent_met_again :
    letI := Calendar.Formatter.verbatim
    let c : Config := { format := .json }
    let h : Heap :=
      { throwables := [⟨"E", some "outer", [], some 1, [1]⟩, ⟨"C", some "inner", [], none, []⟩] }
    let s : Surroundings := ⟨[], ⟨0, some "main"⟩, [], h⟩
    h.Reaches 0 1 ∧ (h.throwable 1).message = some "inner" ∧ ¬ h.Silent 0 1 ∧
    ∃ line members,
      ((build c []).1.render s (.ofText "app" .error (some "m") (some 0) 0)).1.buffer
        = "" ++ line ++ "\n" ∧
      Json.read line = some (.object members) ∧ JsonRecord.Conveys "C" "inner" members := by
  let _ := Calendar.Formatter.verbatim
  intro c h s
  have reached : h.Reaches 0 1 :=
    .single (by simp [Heap.Refers, h, Heap.throwable, Throwable.references])
  have told : ¬ h.Silent 0 1 := by
    rintro ⟨owner, only, -⟩
    have once := only.once
    rcases owner with _ | _ | owner
    · exact absurd once (by decide)
    · exact absurd once (by decide)
    · simp [h, Heap.throwable, Heap.nothing, Throwable.alone, Throwable.references] at once
  exact ⟨reached, rfl, told,
    (conveys_or_silent c rfl [] [] s (.ofText "app" .error (some "m") (some 0) 0) rfl reached
      rfl).1 told⟩

/-- A record without the message of a cause that has no frames. -/
theorem not_conveys_frameless_cause :
    letI := Calendar.Formatter.verbatim
    let c : Config := { format := .json, showThreadName := false }
    let h : Heap :=
      { throwables := [⟨"E", some "outer", [], some 1, []⟩, ⟨"C", some "inner", [], none, []⟩] }
    let s : Surroundings := ⟨[], ⟨0, some "main"⟩, [], h⟩
    let members : List (String × Json) :=
      [("level", .string "ERROR"), ("logger", .string "app"), ("message", .string "m"),
        ("exception", .string "outer"), ("stacktrace", .array [])]
    h.Reaches 0 1 ∧ (h.throwable 1).message = some "inner" ∧
    (∃ line, ((build c []).1.render s (.ofText "app" .error (some "m") (some 0) 0)).1.buffer
        = line ++ "\n" ∧
      Json.read line = some (.object members)) ∧
    ∀ className, ¬ JsonRecord.Conveys className "inner" members := by
  let _ := Calendar.Formatter.verbatim
  intro c h s members
  have trace : h.trace 0 = [.caption 0 .root 0, .caption 0 .cause 1] := by
    simp [h, Heap.trace, Trace.entries, Trace.ownEntries, Trace.inside, Heap.throwable,
      Trace.sharedEnd, Trace.sharedStart]
  have eq : JsonRecord.members c [] s (.ofText "app" .error (some "m") (some 0) 0) = members := by
    rw [JsonRecord.members_eq rfl, Object.traceJson]
    simp only [s, trace]
    rfl
  refine ⟨.single (by simp [Heap.Refers, h, Heap.throwable, Throwable.references]), rfl,
    ⟨(Json.object members).text, ?_, ?_⟩, ?_⟩
  · rw [← eq]
    exact (buffer_render_after rfl [] [] s _).trans (by rw [Event.ofText, String.empty_append])
  · rw [← eq]
    exact Json.read_text (JsonRecord.spelled_members c [] s _)
  · intro className conveys
    simp [JsonRecord.Conveys, members] at conveys

end Pipeline

end Logline
