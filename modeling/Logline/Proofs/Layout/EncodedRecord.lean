import Logline.Proofs.Charset.Decoding
import Logline.Proofs.History.Delivery
import Logline.Proofs.Json.Texts
import Logline.Proofs.Layout.JsonRecord

/-! # JSON objects in a charset

A record that is a JSON object stays one in every charset. What a charset lacks is written as a
question mark, also in the midst of a JSON object; but it lacks no character that JSON is made of,
and a question mark is none of these. So the record that is read from the bytes of a sink is the
record that was laid out, with question marks in its strings.

* `Charset.literal_written` — a charset leaves JSON intact
* `Pipeline.read_legible` — what is read from the bytes of a record -/

namespace Logline

namespace Charset

/-- Every charset has the ASCII characters. -/
theorem has_of_ascii (cs : Charset) {c : Char} (ascii : c.toNat < 0x80) : cs.has c = true := by
  cases cs with
  | utf8 | utf16be | utf16le => rfl
  | ascii => exact decide_eq_true ascii
  | latin1 => exact decide_eq_true (Nat.lt_trans ascii (by decide))

/-- A charset leaves JSON intact: it has all of ASCII, and question marks are not escaped. -/
theorem literal_written (cs : Charset) : Json.Literal cs.written := by
  intro c replaced
  have lacks : ¬ cs.has c = true := fun has => replaced (written_eq_self has)
  have mark : cs.written c = '?' := if_neg lacks
  refine ⟨Nat.not_lt.1 fun ascii => lacks (cs.has_of_ascii ascii), ?_⟩
  rw [mark]
  decide

/-- ASCII text is written as it is in every charset. -/
theorem legible_of_ascii (cs : Charset) {s : String}
    (ascii : (s.toList.all fun c => decide (c.toNat < 0x80)) = true) : cs.legible s = s :=
  legible_eq_self fun c mem => cs.has_of_ascii (of_decide_eq_true (List.all_eq_true.1 ascii c mem))

/-- Two texts written together are legible as they are on their own. -/
theorem legible_append (cs : Charset) (s t : String) :
    cs.legible (s ++ t) = cs.legible s ++ cs.legible t := by
  rw [← String.toList_inj]
  simp [legible]

end Charset

namespace JsonRecord

/-- The keys of records are in every charset. -/
theorem legible_key [Calendar.Formatter] {c : Config} {start : Environment}
    {s : Layout.Surroundings} {event : Event}
    {m : String × Json} (mem : m ∈ members c start s event) (cs : Charset) :
    cs.legible m.1 = m.1 := by
  have ascii : (keys.all fun key => key.toList.all fun c => decide (c.toNat < 0x80)) = true := by
    decide
  have key := (map_fst_members_sublist c start s event).subset (List.mem_map_of_mem mem)
  exact cs.legible_of_ascii (List.all_eq_true.1 ascii m.1 key)

/-- The members of an event are rewritten one by one, and the keys stay. -/
theorem mapTexts_members [Calendar.Formatter] (c : Config) (start : Environment)
    (s : Layout.Surroundings) (event : Event) (cs : Charset) :
    (Json.object (members c start s event)).mapTexts cs.legible
      = .object ((members c start s event).map fun m => (m.1, m.2.mapTexts cs.legible)) := by
  rw [Json.mapTexts, Json.mapTextsOfMembers_eq_map]
  exact congrArg Json.object (List.map_congr_left fun m mem => by rw [legible_key mem])

end JsonRecord

namespace Pipeline

open Layout

/-- **JSON objects in a charset.** A writer calls its sink once to write a record, and the bytes are
read in its charset as what was in the buffer before and one object on one line. That has the keys
of the object that was laid out, in the same order, and the same values but for their strings, in
which a question mark stands for every character that the charset lacks. -/
theorem read_legible [Calendar.Formatter] (c : Config) (format : c.format = .json)
    (start : Environment)
    (earlier : List (Surroundings × Event)) (s : Surroundings) (event : Event) (writer : Writer)
    (w : World) :
    ∃ line bytes error after,
      (((build c start).1.after earlier).render s event).1.buffer = event.buffer ++ line ++ "\n" ∧
      Json.read line = some (.object (JsonRecord.members c start s event)) ∧
      (writer.write (((build c start).1.after earlier).render s event).1.buffer w).journal
        = w.journal ++ .write writer.sink.handle writer.sink.id bytes error :: after ∧
      (∀ e ∈ after, ∀ sink, e.writesTo sink = false) ∧
      writer.charset.decode? bytes
        = some (writer.charset.legible event.buffer ++ writer.charset.legible line ++ "\n") ∧
      (∀ ch ∈ (writer.charset.legible line).toList, 0x20 ≤ ch.toNat) ∧
      Json.read (writer.charset.legible line)
        = some (.object ((JsonRecord.members c start s event).map fun m =>
            (m.1, m.2.mapTexts writer.charset.legible))) := by
  have spelled := JsonRecord.spelled_members c start s event
  have literal := writer.charset.literal_written
  have buffer := buffer_render_after format start earlier s event
  have line_end : writer.charset.legible "\n" = "\n" := writer.charset.legible_of_ascii (by decide)
  obtain ⟨error, after, journal, others⟩ := writer.exists_journal_write
    (((build c start).1.after earlier).render s event).1.buffer w
  refine ⟨_, _, error, after, buffer, Json.read_text spelled, journal, others, ?_, ?_, ?_⟩
  · rw [Charset.decode?_encode, buffer, Charset.legible_append, Charset.legible_append, line_end]
  -- what is replaced is replaced inside strings, so that the line is again the text of a value
  · rw [Charset.legible, ← Json.text_mapTexts literal spelled]
    exact Json.text_clean _ ((Json.spelled_mapTexts _ _).trans spelled)
  · rw [← JsonRecord.mapTexts_members]
    exact Json.read_map_text literal spelled

/-- A record in ASCII whose context has two keys that look the same there. -/
theorem read_legible_alike_keys :
    letI := Calendar.Formatter.verbatim
    let c : Config := { format := .json, showContext := true, loggerName := .hidden }
    let s : Surroundings := ⟨[], ⟨0, some "main"⟩, [("ä", "é"), ("ö", "1")], Heap.empty⟩
    let event : Event := .ofText "app" .warn (some "ü\n") none 0
    let writer : Writer := ⟨.reliable 0 .stdout, .ascii, .recorder⟩
    c.format = .json ∧ ∃ line bytes error after,
      (writer.write ((build c []).1.render s event).1.buffer {}).journal
        = .write 0 .stdout bytes error :: after ∧
      Charset.decode? .ascii bytes = some (line ++ "\n") ∧
      Json.read line = some (.object [("level", .string "WARN"), ("thread", .string "main"),
        ("context", .object [("?", .string "?"), ("?", .string "1")]),
        ("message", .string "?\n")]) := by
  let _ := Calendar.Formatter.verbatim
  intro c s event writer
  obtain ⟨line, bytes, error, after, -, -, journal, -, decoded, -, reads⟩ :=
    read_legible c rfl [] [] s event writer {}
  have members : JsonRecord.members c [] s event = [("level", .string "WARN"),
      ("thread", .string "main"), ("context", .object [("ä", .string "é"), ("ö", .string "1")]),
      ("message", .string "ü\n")] := rfl
  have marks : writer.charset.legible "é" = "?" ∧ writer.charset.legible "ü\n" = "?\n" ∧
      writer.charset.legible "ä" = "?" ∧ writer.charset.legible "ö" = "?" := by
    simp only [Charset.legible, ← String.toList_inj, String.toList_map]
    decide
  have ascii : writer.charset.legible "" = "" ∧ writer.charset.legible "WARN" = "WARN" ∧
      writer.charset.legible "main" = "main" ∧ writer.charset.legible "1" = "1" := by
    simp only [Charset.legible, ← String.toList_inj, String.toList_map]
    decide
  refine ⟨rfl, _, bytes, error, after, journal, ?_, reads.trans ?_⟩
  · have empty : event.buffer = "" := rfl
    rw [decoded, empty, ascii.1, String.empty_append]
  · simp [members, Json.mapTexts, Json.mapTextsOfMembers, marks, ascii]

end Pipeline

end Logline
