import Logline.Proofs.Pipeline.Segments
import Mathlib.Data.List.Forall2

/-! # Segments of JSON objects

The segments of a configuration stand in order as they are made, so that neither the sort of the
members nor that of the pipeline moves one, and what they add, braces and commas included, is one
JSON object.

* `Layout.Object.pairwise_ofConfig` — the segments stand in order
* `Layout.Object.join_ofConfig` — what the segments of a configuration add
* `Pipeline.render_after_object` — what a pipeline of such segments adds to an event -/

namespace Logline.Layout.Object

/-! ## Order -/

/-- The orders of the members that a configuration shows are some of eight, in order. -/
theorem map_shownMembers_sublist (c : Config) (e : Environment) :
    ((shownMembers c e).map fun m => m.order.index).Sublist [0, 1, 2, 3, 4, 5, 6, 7] := by
  have environment : (((EnvironmentPart.ofConfig? c Selection.json e).toList.map
      Object.environment).map fun m => m.order.index).Sublist [3] := by
    apply map_toList_sublist
    intro part
    rfl
  -- one segment for each of the eight orders, or none
  have eight : [0, 1, 2, 3, 4, 5, 6, 7]
      = [0] ++ [1] ++ [2] ++ [3] ++ [4] ++ [5] ++ [6] ++ [7] := rfl
  simp only [shownMembers, List.map_append, eight]
  exact (((((((map_shown_sublist _ _ _).append (map_shown_sublist _ _ _)).append
    (List.Sublist.refl _)).append environment).append
    (map_shown_sublist _ _ _)).append (map_shown_sublist _ _ _)).append
    (map_shown_sublist _ _ _)).append (List.Sublist.refl _)

/-- The members that a configuration shows are in order. -/
theorem pairwise_shownMembers (c : Config) (e : Environment) :
    (shownMembers c e).Pairwise fun a b => a.order.index ≤ b.order.index := by
  have eight : [0, 1, 2, 3, 4, 5, 6, 7].Pairwise (· ≤ ·) := by decide
  exact List.pairwise_map.1 (eight.sublist (map_shownMembers_sublist c e))

/-- The members that a configuration shows are in order already. -/
theorem members_eq_shownMembers (c : Config) (e : Environment) : members c e = shownMembers c e :=
  List.mergeSort_of_pairwise ((pairwise_shownMembers c e).imp Order.le_iff.2)

/-- A member and the comma in front of it have one place. -/
theorem order_of_mem {a m : Object} (mem : a ∈ [.comma m.order, m]) : a.order = m.order := by
  rcases List.mem_pair.1 mem with rfl | rfl <;> rfl

/-- Commas do not disturb the order of members. -/
theorem pairwise_separated {ms : List Object}
    (sorted : ms.Pairwise fun a b => a.order.index ≤ b.order.index) :
    (separated ms).Pairwise fun a b => a.order.index ≤ b.order.index := by
  cases ms with
  | nil => exact List.Pairwise.nil
  | cons m ms =>
    obtain ⟨first, rest⟩ := List.pairwise_cons.1 sorted
    rw [separated, List.pairwise_cons, List.pairwise_flatMap]
    -- the first member against the others, a member against its comma, and pair against pair
    refine ⟨fun a mem => ?_, fun b _ => ?_, rest.imp fun le a mem a' mem' => ?_⟩
    · obtain ⟨b, mem, mem'⟩ := List.mem_flatMap.1 mem
      rw [order_of_mem mem']
      exact first b mem
    · exact List.pairwise_pair.2 (Nat.le_refl _)
    · rw [order_of_mem mem, order_of_mem mem']
      exact le

/-- What is separated by commas stands at the place of a member. -/
theorem mem_separated {ms : List Object} {a : Object} (mem : a ∈ separated ms) :
    ∃ m ∈ ms, a.order = m.order := by
  cases ms with
  | nil => cases mem
  | cons m ms =>
    rcases List.mem_cons.1 mem with rfl | mem
    · exact ⟨a, List.mem_cons_self, rfl⟩
    · obtain ⟨b, mem, mem'⟩ := List.mem_flatMap.1 mem
      exact ⟨b, List.mem_cons_of_mem _ mem, order_of_mem mem'⟩

/-- The segments of a configuration are in order. -/
theorem pairwise_ofConfig (c : Config) (e : Environment) :
    (ofConfig c e).Pairwise fun a b => a.order.index ≤ b.order.index := by
  have sorted : (members c e).Pairwise fun a b => a.order.index ≤ b.order.index := by
    rw [members_eq_shownMembers]
    exact pairwise_shownMembers c e
  have end_last : ∀ o : Order, o.index ≤ Order.eventEnd.index := by
    intro o
    cases o <;> decide
  -- members come before the throwable, since each has one of the eight orders
  have before_throwable : ∀ a ∈ separated (members c e), a.order.index ≤ Order.throwable.index := by
    intro a mem
    obtain ⟨m, mem, eq⟩ := mem_separated mem
    rw [members_eq_shownMembers] at mem
    have place := (map_shownMembers_sublist c e).subset (List.mem_map_of_mem mem)
    have early : ∀ i ∈ [0, 1, 2, 3, 4, 5, 6, 7], i ≤ Order.throwable.index := by decide
    rw [eq]
    exact early _ place
  -- the opening brace, the members with their commas, the throwable and the closing brace
  rw [ofConfig, List.cons_append, List.pairwise_cons, List.pairwise_append]
  refine ⟨fun a _ => Nat.zero_le _, pairwise_separated sorted, ?_, fun a mem b mem' => ?_⟩
  · exact List.pairwise_pair.2 (end_last _)
  · rcases List.mem_pair.1 mem' with rfl | rfl
    · exact before_throwable a mem
    · exact end_last _

/-! ## Texts -/

variable {s : Scene} {event : Event}

/-- A segment **adds** a member if its text is that of the member. -/
def Adds (s : Scene) (event : Event) (m : Object) (member : String × Json) : Prop :=
  m.text s event = Json.member member.1 member.2

/-- Members, each behind a comma. -/
def behindCommas (members : List (String × Json)) : String :=
  String.join (members.map fun m => "," ++ Json.member m.1 m.2)

/-- Behind the first member every other one has a comma in front of it. -/
theorem textOfMembers_cons (m : String × Json) (members : List (String × Json)) :
    Json.textOfMembers (m :: members) = Json.member m.1 m.2 ++ behindCommas members := by
  induction members generalizing m with
  | nil => simp [Json.textOfMembers, Json.member, behindCommas]
  | cons m' members ih =>
    have tail : behindCommas (m' :: members)
        = "," ++ Json.member m'.1 m'.2 ++ behindCommas members := by
      rw [behindCommas, List.map_cons, String.join_cons, behindCommas]
    rw [tail, String.append_assoc, ← ih m']
    simp [Json.textOfMembers, Json.member, String.append_assoc]

/-- Further members come behind commas. -/
theorem textOfMembers_append {members : List (String × Json)} (nonempty : members ≠ [])
    (more : List (String × Json)) :
    Json.textOfMembers (members ++ more) = Json.textOfMembers members ++ behindCommas more := by
  cases members with
  | nil => exact absurd rfl nonempty
  | cons m members =>
    rw [List.cons_append, textOfMembers_cons, textOfMembers_cons, String.append_assoc, behindCommas,
      List.map_append, String.join_append, behindCommas, behindCommas]

/-- Segments that add members, each behind its comma. -/
theorem join_commas {ms : List Object} {members : List (String × Json)}
    (adds : List.Forall₂ (Adds s event) ms members) :
    String.join ((ms.flatMap fun m => [.comma m.order, m]).map (text s event))
      = behindCommas members := by
  induction adds with
  | nil => rfl
  | cons add _ ih =>
    simp only [List.flatMap_cons, List.map_append, String.join_append, ih, List.map_cons,
      List.map_nil, String.join_cons, String.join_nil, behindCommas, String.append_empty]
    rw [add]
    rfl

/-- Segments that add members, with commas between them. -/
theorem join_separated {ms : List Object} {members : List (String × Json)}
    (adds : List.Forall₂ (Adds s event) ms members) :
    String.join ((separated ms).map (text s event)) = Json.textOfMembers members := by
  cases adds with
  | nil => rfl
  | cons add adds =>
    rw [separated, List.map_cons, String.join_cons, join_commas adds, add, textOfMembers_cons]

/-- The members of a throwable. -/
def thrownMembers (h : Heap) : Option ThrowableId → List (String × Json)
  | none => []
  | some id =>
    [("exception", Json.ofOption (h.throwable id).message), ("stacktrace", traceJson h id)]

/-- The members of a throwable come behind commas. -/
theorem text_throwable (s : Scene) (event : Event) :
    text s event .throwable = behindCommas (thrownMembers s.heap event.throwable) := by
  rw [text]
  cases event.throwable with
  | none => rfl
  | some id => simp [throwableText, behindCommas, thrownMembers, String.append_assoc]

/-- What the segments of a configuration add is an object on a line: the members that are shown, and
those of the throwable. -/
theorem join_ofConfig {c : Config} {e : Environment} {members : List (String × Json)}
    (adds : List.Forall₂ (Adds s event) (Object.members c e) members) (nonempty : members ≠ []) :
    String.join ((ofConfig c e).map (text s event))
      = (Json.object (members ++ thrownMembers s.heap event.throwable)).text ++ "\n" := by
  have opening : text s event .opening = "\x7b" := rfl
  have closing : text s event .closing = "\x7d" ++ "\n" := rfl
  rw [ofConfig, List.cons_append, List.map_cons, List.map_append, String.join_cons,
    String.join_append, join_separated adds, List.map_cons, List.map_cons, List.map_nil,
    String.join_cons, String.join_cons, String.join_nil, text_throwable, opening, closing,
    Json.text, textOfMembers_append nonempty]
  simp only [String.append_assoc, String.append_empty]

end Logline.Layout.Object

namespace Logline.Pipeline

open Layout

/-- The pipeline of a configuration of JSON objects adds what its segments add. -/
theorem render_after_object [Calendar.Formatter] {c : Config} (format : c.format = .json)
    (start : Environment) (earlier : List (Surroundings × Event)) (s : Surroundings)
    (event : Event) :
    (((build c start).1.after earlier).render s event).1
      = event.append (String.join ((Object.ofConfig c start).map
          (Object.text { s with time := (build c start).1.timeText event.millis } event))) := by
  have layouts : layoutsOf c start = (Object.ofConfig c start).map .object := by
    rw [layoutsOf, format]
  refine render_after_of_blind layouts (Object.pairwise_ofConfig c start) ?_ earlier s event
  intro s segment e buffer
  cases segment <;> rfl

end Logline.Pipeline
