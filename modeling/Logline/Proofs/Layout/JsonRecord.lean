import Logline.Proofs.Json.RoundTrip
import Logline.Proofs.Layout.Segments
import Logline.Proofs.Layout.Variables

/-! # Records as JSON objects

A record of a configuration of JSON objects is one object on one line: whatever characters stand in
its texts and whatever its throwable refers to, a reader of JSON gets back every text that went into
the record, under its key.

* `JsonRecord.slots` — the keys of records in order, when each is shown, and its value
* `JsonRecord.members` — the members of a record
* `Pipeline.read_render` — what is read back from a record -/

namespace Logline

open Layout

/-- A place in a record: a key, whether it is shown, and its value. -/
structure Slot where
  key : String
  shown : Bool
  value : Json

/-- The members that are shown. -/
def Slot.visible (slots : List Slot) : List (String × Json) :=
  (slots.filter Slot.shown).map fun m => (m.key, m.value)

/-- The members of two lists of slots stand one behind the other. -/
theorem Slot.visible_append (slots more : List Slot) :
    visible (slots ++ more) = visible slots ++ visible more := by
  rw [visible, List.filter_append, List.map_append, visible, visible]

/-- A member is looked for slot by slot. -/
theorem Slot.lookup_visible_cons (key : String) (slot : Slot) (slots : List Slot) :
    (visible (slot :: slots)).lookup key
      = if slot.shown && key == slot.key then some slot.value else (visible slots).lookup key := by
  rw [visible, List.filter_cons]
  cases slot.shown with
  | false => rfl
  | true =>
    rw [if_pos rfl, List.map_cons, List.lookup_cons, visible, Bool.true_and]
    cases key == slot.key <;> rfl

namespace JsonRecord

/-- Environment variables as a JSON array: in the order of their names, null for those that are not
set, where they are shown at all, and with their names, where these are shown. -/
def environmentJson (c : Config) (e : Environment) : Json :=
  .array (c.environments.filterMap fun name =>
    if (e.get? name).isSome || c.environmentShowNullable then
      some (if c.environmentShowName then
        .object [("name", .string name), ("value", Json.ofOption (e.get? name))]
      else Json.ofOption (e.get? name))
    else none)

/-- The places in front of those of the throwable. The environment was `start` when the
configuration took effect. -/
def eventSlots [Calendar.Formatter] (c : Config) (start : Environment) (s : Surroundings)
    (event : Event) : List Slot :=
  [⟨"timestamp", c.showDateTime, .string ((Timestamps.ofConfig c).1.uncached event.millis)⟩,
    ⟨"implementation", c.showImplementationVersion, .string c.implementationVersion⟩,
    ⟨"level", true, .string (c.levelLabels event.level)⟩,
    ⟨"environment", !c.environments.isEmpty,
      environmentJson c (if c.environmentRememberOnStart then start else s.environment)⟩,
    ⟨"thread", c.showThreadName, .string s.thread.label⟩,
    ⟨"context", c.showContext, .object (s.context.map fun v => (v.1, .string v.2))⟩,
    ⟨"logger", c.loggerName != .hidden, .string (c.loggerName.apply event.logger)⟩,
    ⟨"message", true, Json.ofOption event.message⟩]

/-- The places of the throwable. -/
def throwableSlots (h : Heap) (throwable : Option ThrowableId) : List Slot :=
  [⟨"exception", throwable.isSome,
      Json.ofOption (throwable.bind fun id => (h.throwable id).message)⟩,
    ⟨"stacktrace", throwable.isSome, (throwable.map (Object.traceJson h)).getD (.array [])⟩]

/-- The places of a record, in order. -/
def slots [Calendar.Formatter] (c : Config) (start : Environment) (s : Surroundings)
    (event : Event) : List Slot :=
  eventSlots c start s event ++ throwableSlots s.heap event.throwable

/-- The members of a record. -/
def members [Calendar.Formatter] (c : Config) (start : Environment) (s : Surroundings)
    (event : Event) :
    List (String × Json) :=
  Slot.visible (slots c start s event)

/-- The keys of records, in order. -/
def keys : List String :=
  ["timestamp", "implementation", "level", "environment", "thread", "context", "logger", "message",
    "exception", "stacktrace"]

/-- The keys of a record are some of the ten, in order. -/
theorem map_fst_members_sublist [Calendar.Formatter] (c : Config) (start : Environment)
    (s : Surroundings) (event : Event) : ((members c start s event).map Prod.fst).Sublist keys := by
  have all : (slots c start s event).map Slot.key = keys := rfl
  rw [members, Slot.visible, List.map_map, ← all]
  exact List.filter_sublist.map Slot.key

/-- No key stands in a record twice. -/
theorem nodup_map_fst_members [Calendar.Formatter] (c : Config) (start : Environment)
    (s : Surroundings) (event : Event) : ((members c start s event).map Prod.fst).Nodup := by
  have ten : keys.Nodup := by decide
  exact ten.sublist (map_fst_members_sublist c start s event)

/-! ## Segments and members -/

section Adds

variable {s : Scene} {event : Event}

/-- Environment variables as JSON are the same ones as in a line of text. -/
theorem environmentJson_eq (c : Config) (e : Environment) :
    environmentJson c e = .array ((c.shownVariables e.get?).map c.variableJson) := by
  rw [environmentJson, Config.shownVariables, List.map_filterMap]
  congr 1
  refine List.filterMap_congr fun name _ => ?_
  split <;> rfl

/-- The environment variables of a record, if the configuration names any. -/
theorem lookup_environment [Calendar.Formatter] (c : Config) (start : Environment)
    (s : Surroundings) (event : Event) :
    (members c start s event).lookup "environment" = if c.environments.isEmpty then none
      else some (environmentJson c
        (if c.environmentRememberOnStart then start else s.environment)) := by
  have no_slots : (Slot.visible []).lookup "environment" = none := rfl
  rw [members, slots, eventSlots, throwableSlots]
  cases c.environments.isEmpty <;> simp [Slot.lookup_visible_cons, no_slots]

/-- A segment that is shown where its member is. -/
theorem adds_shown {m : Object} {key : String} {j : Json} {ms : List Object} {rest : List Slot}
    (condition : Bool) (add : condition = true → Object.Adds s event m (key, j))
    (adds : List.Forall₂ (Object.Adds s event) ms (Slot.visible rest)) :
    List.Forall₂ (Object.Adds s event) (Object.shown condition m ++ ms)
      (Slot.visible (⟨key, condition, j⟩ :: rest)) := by
  cases condition with
  | false => exact adds
  | true => exact .cons (add rfl) adds

/-- The segment of the environment, with its text fixed in advance or not. -/
theorem adds_environment {c : Config} {start : Environment} {ms : List Object} {rest : List Slot}
    (adds : List.Forall₂ (Object.Adds s event) ms (Slot.visible rest)) :
    List.Forall₂ (Object.Adds s event)
      ((EnvironmentPart.ofConfig? c Selection.json start).toList.map .environment ++ ms)
      (Slot.visible (⟨"environment", !c.environments.isEmpty,
        environmentJson c (if c.environmentRememberOnStart then start else s.environment)⟩
          :: rest)) := by
  rw [EnvironmentPart.ofConfig?, Selection.ofConfig?]
  cases empty : c.environments.isEmpty with
  | true => exact adds
  | false =>
    -- a text that was fixed in advance was read from the environment at the start
    refine .cons ?_ adds
    rw [Object.Adds, environmentJson_eq, ← Selection.read_selection]
    cases c.environmentRememberOnStart <;> rfl

/-- The segments of a configuration add the members in front of those of the throwable. -/
theorem adds_members [Calendar.Formatter] (c : Config) (start : Environment) (s : Surroundings)
    (event : Event) {time : String} (shown_time : c.showDateTime = true →
      time = (Timestamps.ofConfig c).1.uncached event.millis) :
    List.Forall₂ (Object.Adds { s with time } event) (Object.members c start)
      (Slot.visible (eventSlots c start s event)) := by
  -- segment by segment, in the order in which they are made
  rw [Object.members_eq_shownMembers, Object.shownMembers]
  simp only [List.append_assoc]
  refine adds_shown _ (fun shown => by rw [Object.Adds, Object.text, shown_time shown]) ?_
  refine adds_shown _ (fun _ => rfl) ?_
  refine adds_shown true (fun _ => rfl) ?_
  refine adds_environment ?_
  refine adds_shown _ (fun _ => rfl) ?_
  refine adds_shown _ (fun _ => rfl) ?_
  refine adds_shown _ (fun _ => rfl) ?_
  exact adds_shown true (fun _ => rfl) .nil

/-- The level is shown always. -/
theorem visible_eventSlots_ne_nil [Calendar.Formatter] (c : Config) (start : Environment)
    (s : Surroundings) (event : Event) : Slot.visible (eventSlots c start s event) ≠ [] := by
  have level : (⟨"level", true, .string (c.levelLabels event.level)⟩ : Slot)
      ∈ eventSlots c start s event := by
    simp [eventSlots]
  exact List.ne_nil_of_mem (List.mem_map_of_mem (List.mem_filter.2 ⟨level, rfl⟩))

/-- The slots of a throwable show its members. -/
theorem visible_throwableSlots (h : Heap) (throwable : Option ThrowableId) :
    Slot.visible (throwableSlots h throwable) = Object.thrownMembers h throwable := by
  cases throwable <;> rfl

end Adds

/-! ## Values without numbers -/

/-- An optional text has no numbers. -/
theorem spelled_ofOption (s : Option String) : (Json.ofOption s).spelled = true := by
  cases s <;> rfl

/-- The environment has no numbers that are misspelled. -/
theorem spelled_environmentJson (c : Config) (e : Environment) :
    (environmentJson c e).spelled = true := by
  rw [environmentJson, Json.spelled, Json.itemsSpelled_iff]
  intro j mem
  obtain ⟨name, -, eq⟩ := List.mem_filterMap.1 mem
  split_ifs at eq
  · cases eq
    simp [Json.spelled, Json.membersSpelled, spelled_ofOption]
  · cases eq
    exact spelled_ofOption _

/-- A stack trace has no numbers that are misspelled. -/
theorem spelled_traceJson (h : Heap) (id : ThrowableId) :
    (Object.traceJson h id).spelled = true := by
  rw [Object.traceJson, Json.spelled, Json.itemsSpelled_iff]
  intro j mem
  obtain ⟨entry, -, eq⟩ := List.mem_filterMap.1 mem
  cases entry with
  | caption | elided => cases eq
  | circular => cases eq; rfl
  | frame depth id index f =>
    cases eq
    rw [Json.spelled, Json.membersSpelled_iff]
    intro m mem
    -- a class, a message where there is one, and a method, all of them strings
    simp only [List.mem_append, List.mem_singleton, List.mem_map] at mem
    rcases mem with (rfl | ⟨message, -, rfl⟩) | rfl <;> rfl

/-- The members of a throwable have no numbers that are misspelled. -/
theorem spelled_throwableSlots (h : Heap) (throwable : Option ThrowableId) :
    ∀ slot ∈ throwableSlots h throwable, slot.value.spelled = true := by
  intro slot mem
  rcases List.mem_pair.1 mem with rfl | rfl
  · exact spelled_ofOption _
  · cases throwable with
    | none => rfl
    | some id => exact spelled_traceJson h id

/-- The members of an event have no numbers that are misspelled. -/
theorem spelled_eventSlots [Calendar.Formatter] (c : Config) (start : Environment)
    (s : Surroundings) (event : Event) :
    ∀ slot ∈ eventSlots c start s event, slot.value.spelled = true := by
  have context : (Json.object (s.context.map fun v => (v.1, .string v.2))).spelled = true := by
    rw [Json.spelled, Json.membersSpelled_iff]
    intro m mem
    obtain ⟨v, -, rfl⟩ := List.mem_map.1 mem
    rfl
  simp only [eventSlots, List.forall_mem_cons]
  exact ⟨rfl, rfl, rfl, spelled_environmentJson c _, rfl, context, rfl, spelled_ofOption _,
    List.forall_mem_nil _⟩

/-- Records have no numbers. -/
theorem spelled_members [Calendar.Formatter] (c : Config) (start : Environment) (s : Surroundings)
    (event : Event) :
    (Json.object (members c start s event)).spelled = true := by
  rw [Json.spelled, Json.membersSpelled_iff]
  intro m mem
  obtain ⟨slot, place, rfl⟩ := List.mem_map.1 mem
  rcases List.mem_append.1 (List.mem_of_mem_filter place) with mem | mem
  · exact spelled_eventSlots c start s event slot mem
  · exact spelled_throwableSlots s.heap event.throwable slot mem

end JsonRecord

namespace Pipeline

/-- What is added to an event is an object of the members that are shown, on a line. -/
theorem buffer_render_after [Calendar.Formatter] {c : Config} (format : c.format = .json)
    (start : Environment)
    (earlier : List (Surroundings × Event)) (s : Surroundings) (event : Event) :
    (((build c start).1.after earlier).render s event).1.buffer
      = event.buffer ++ (Json.object (JsonRecord.members c start s event)).text ++ "\n" := by
  have adds := JsonRecord.adds_members c start s event fun shown =>
    timeText_build shown start event.millis
  have nonempty := JsonRecord.visible_eventSlots_ne_nil c start s event
  rw [render_after_object format, Event.append, Object.join_ofConfig adds nonempty,
    String.append_assoc, JsonRecord.members, JsonRecord.slots, Slot.visible_append,
    JsonRecord.visible_throwableSlots]

/-- **Records as JSON objects.** Whatever was laid out before, a record is one object on one line:
no character of it but the end of the line is a control character, and it is read back as the
members that its configuration shows, no key twice. -/
theorem read_render [Calendar.Formatter] (c : Config) (format : c.format = .json)
    (start : Environment)
    (earlier : List (Surroundings × Event)) (s : Surroundings) (event : Event) :
    ∃ line, (((build c start).1.after earlier).render s event).1.buffer
        = event.buffer ++ line ++ "\n" ∧
      (∀ ch ∈ line.toList, 0x20 ≤ ch.toNat) ∧
      Json.read line = some (.object (JsonRecord.members c start s event)) ∧
      ((JsonRecord.members c start s event).map Prod.fst).Sublist JsonRecord.keys ∧
      ((JsonRecord.members c start s event).map Prod.fst).Nodup := by
  have spelled := JsonRecord.spelled_members c start s event
  exact ⟨_, buffer_render_after format start earlier s event, Json.text_clean _ spelled,
    Json.read_text spelled, JsonRecord.map_fst_members_sublist c start s event,
    JsonRecord.nodup_map_fst_members c start s event⟩

/-- An event with a throwable that is its own cause, and characters to escape. -/
theorem read_render_circular :
    letI := Calendar.Formatter.verbatim
    let c : Config :=
      { format := .json, environments := ["A", "B"], environmentShowNullable := true,
        showContext := true, loggerName := .hidden }
    let h : Heap :=
      { throwables := [⟨"E", some "\x01", [⟨"app", "main", none, some 3, false⟩], some 0, []⟩] }
    let s : Surroundings := ⟨[("B", .text "\n")], ⟨0, some "main"⟩, [("k", "\"")], h⟩
    c.format = .json ∧ ∃ line,
      ((build c []).1.render s (.ofText "app" .warn (some "\\") (some 0) 0)).1.buffer
        = line ++ "\n" ∧
      Json.read line = some (.object [("level", .string "WARN"),
        ("environment", .array [.null, .string "\n"]), ("thread", .string "main"),
        ("context", .object [("k", .string "\"")]), ("message", .string "\\"),
        ("exception", .string "\x01"),
        ("stacktrace", .array [
          .object [("clazz", .string "app"), ("message", .string "\x01"),
            ("method", .string "main:3")],
          .string "[CIRCULAR REFERENCE: E: \x01]"])]) := by
  let _ := Calendar.Formatter.verbatim
  intro c h s
  have trace : h.trace 0
      = [.caption 0 .root 0, .frame 0 0 0 ⟨"app", "main", none, some 3, false⟩,
        .circular 0 .cause 0] := by
    simp [h, Heap.trace, Trace.entries, Trace.ownEntries, Trace.inside, Heap.throwable,
      Trace.sharedEnd, Trace.sharedStart]
  obtain ⟨line, buffer, -, reads, -⟩ :=
    read_render c rfl [] [] s (.ofText "app" .warn (some "\\") (some 0) 0)
  refine ⟨rfl, line, buffer, ?_⟩
  rw [reads, JsonRecord.members, JsonRecord.slots, Slot.visible_append,
    JsonRecord.visible_throwableSlots]
  have stacktrace : Object.traceJson h 0 = .array [
      .object [("clazz", .string "app"), ("message", .string "\x01"), ("method", .string "main:3")],
      .string "[CIRCULAR REFERENCE: E: \x01]"] := by
    rw [Object.traceJson, trace]
    rfl
  simp only [Event.ofText, Object.thrownMembers, s, stacktrace]
  rfl

end Pipeline

end Logline
