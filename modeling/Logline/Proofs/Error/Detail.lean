import Logline.Error.Detail
import Logline.Proofs.Text.Lossy
import Logline.Proofs.Text.Quoted

/-! # What errors show

The report of an error has its message, all of its details, and all texts in the chains of its
causes. Its dump shows everything behind it at any depth; whatever the texts are, it is made of
printable lines, and each of them is one line of the dump.

* `PartOf` — a text that is part of another one
* `Error.partOf_report_of_detail`, `Error.partOf_report_of_chain` — reports leave nothing out
* `Cause.Within` — one cause behind another one, at any depth
* `Cause.dump_within`, `Error.dump_within` — dumps leave nothing out
* `Error.lines_dump` — the lines of a dump -/

namespace Logline

open Text

/-! ## Chains -/

/-- A chain begins with what the cause shows. -/
theorem Cause.head?_chain (c : Cause) : c.chain.head? = some c.display := by
  cases c with
  | error message details causes => simp [chain, display]
  | _ => rfl

/-! ## Parts of texts -/

/-- A text is **part** of another one. -/
def PartOf (s t : String) : Prop := s.toList <:+: t.toList

namespace PartOf

variable {s t u : String}

/-- Every text is part of itself. -/
theorem refl (s : String) : PartOf s s := List.infix_refl _

/-- Parts of parts are parts. -/
theorem trans (first : PartOf s t) (second : PartOf t u) : PartOf s u :=
  List.IsInfix.trans first second

/-- A part of a text is a part with something behind the text. -/
theorem append_right (part : PartOf s t) (u : String) : PartOf s (t ++ u) := by
  rw [PartOf, String.toList_append]
  exact List.IsInfix.trans part (List.prefix_append _ _).isInfix

/-- And with something in front of it. -/
theorem append_left (part : PartOf s t) (u : String) : PartOf s (u ++ t) := by
  rw [PartOf, String.toList_append]
  exact List.IsInfix.trans part (List.suffix_append _ _).isInfix

/-- Each of some texts is part of them all. -/
theorem join {texts : List String} (mem : s ∈ texts) : PartOf s (String.join texts) := by
  obtain ⟨before, behind, rfl⟩ := List.append_of_mem mem
  rw [PartOf, String.toList_join, List.flatMap_append, List.flatMap_cons]
  exact ⟨_, _, by rw [List.append_assoc]⟩

/-- So it is with something between them. -/
theorem intercalate {texts : List String} (between : String) (mem : s ∈ texts) :
    PartOf s (between.intercalate texts) := by
  induction texts with
  | nil => cases mem
  | cons t texts ih =>
    by_cases alone : texts = []
    · subst alone
      rw [List.mem_singleton.1 mem, String.intercalate_singleton]
      exact refl t
    · rw [String.intercalate_cons_of_ne_nil alone]
      rcases List.mem_cons.1 mem with rfl | mem
      · exact ((refl s).append_right _).append_right _
      · exact (ih mem).append_left _

end PartOf

/-! ## Reports -/

namespace Error

variable {e : Error}

/-- A report has the message. -/
theorem partOf_report_message (e : Error) : PartOf e.message e.report := by
  rw [report]
  exact (((PartOf.refl _).append_right _).append_right _).append_right _

/-- A report has every detail, by its name. -/
theorem partOf_report_of_detail {key value : String} (mem : (key, value) ∈ e.details) :
    PartOf (key ++ ": " ++ value) e.report := by
  have some_detail : e.details.isEmpty = false :=
    List.isEmpty_eq_false_iff.2 (List.ne_nil_of_mem mem)
  have line : PartOf (key ++ ": " ++ value) ("   " ++ key ++ ": " ++ value ++ "\n") := by
    have spelled : "   " ++ key ++ ": " ++ value ++ "\n"
        = "   " ++ (key ++ ": " ++ value) ++ "\n" := by simp only [String.append_assoc]
    rw [spelled]
    exact ((PartOf.refl _).append_left _).append_right _
  have lines :
      PartOf _ (String.join (e.details.map fun d => "   " ++ d.1 ++ ": " ++ d.2 ++ "\n")) :=
    PartOf.join (List.mem_map_of_mem mem)
  rw [report, some_detail]
  exact (((line.trans lines).append_left _).append_left _).append_right _

/-- A report has every text in the chain of every cause. -/
theorem partOf_report_of_chain {c : Cause} (mem : c ∈ e.causes) {s : String} (among : s ∈ c.chain) :
    PartOf s e.report := by
  have some_cause : e.causes.isEmpty = false :=
    List.isEmpty_eq_false_iff.2 (List.ne_nil_of_mem mem)
  have line : PartOf s ("   " ++ ": ".intercalate c.chain ++ "\n") :=
    ((PartOf.intercalate ": " among).append_left _).append_right _
  have lines : PartOf _ (String.join (e.causes.map fun c =>
      "   " ++ ": ".intercalate c.chain ++ "\n")) :=
    PartOf.join (List.mem_map_of_mem mem)
  rw [report, some_cause]
  exact ((line.trans lines).append_left _).append_left _

/-- A report has what its causes show. -/
theorem partOf_report_of_cause {c : Cause} (mem : c ∈ e.causes) : PartOf c.display e.report :=
  partOf_report_of_chain mem (List.mem_of_mem_head? c.head?_chain)

/-- A report has the line of each error behind the error. -/
theorem partOf_report_of_error {behind : Error} (mem : behind.toCause ∈ e.causes) :
    PartOf behind.display e.report := by
  rw [← display_toCause]
  exact partOf_report_of_cause mem

end Error

/-! ## Lines of dumps -/

namespace Dump

variable {items : List (List String)} {item lines : List String} {line : String}

/-- Lines that stand inside others are part of what they become. -/
theorem exists_mem_nested (mem : line ∈ lines) : ∃ line' ∈ nested lines, PartOf line line' := by
  induction lines using nested.induct with
  | case1 => cases mem
  | case2 only =>
    rw [List.mem_singleton.1 mem]
    exact ⟨_, List.mem_singleton_self _, ((PartOf.refl _).append_left _).append_right _⟩
  | case3 first rest more ih =>
    rw [nested]
    · rcases List.mem_cons.1 mem with rfl | mem
      · exact ⟨_, List.mem_cons_self, (PartOf.refl _).append_left _⟩
      · obtain ⟨line', mem', part⟩ := ih mem
        exact ⟨line', List.mem_cons_of_mem _ mem', part⟩
    · exact more

/-- Items between brackets are part of what they become. -/
theorem exists_mem_between (first last : String) (among : item ∈ items) (mem : line ∈ item) :
    ∃ line' ∈ between first last items, PartOf line line' := by
  obtain ⟨line', mem', part⟩ := exists_mem_nested mem
  exact ⟨line', List.mem_append_left _ (List.mem_cons_of_mem _
    (List.mem_flatMap_of_mem among mem')), part⟩

/-- The lines of a field are part of what they become. -/
theorem exists_mem_field (name : String) (mem : line ∈ lines) :
    ∃ line' ∈ field name lines, PartOf line line' := by
  cases lines with
  | nil => cases mem
  | cons first rest =>
    rcases List.mem_cons.1 mem with rfl | mem
    · exact ⟨_, List.mem_cons_self, (PartOf.refl _).append_left _⟩
    · exact ⟨line, List.mem_cons_of_mem _ mem, .refl line⟩

/-- The lines of an item are part of what a list of items becomes. -/
theorem exists_mem_list (among : item ∈ items) (mem : line ∈ item) :
    ∃ line' ∈ list items, PartOf line line' := by
  cases items with
  | nil => cases among
  | cons first rest => exact exists_mem_between "[" "]" among mem

/-- The structures of causes are part of the structure of an error. -/
theorem exists_mem_error (message : String) (details : List (String × String))
    (among : item ∈ items) (mem : line ∈ item) :
    ∃ line' ∈ error message details items, PartOf line line' := by
  obtain ⟨line₁, mem₁, part₁⟩ := exists_mem_list among mem
  obtain ⟨line₂, mem₂, part₂⟩ := exists_mem_field "sources" mem₁
  have last : field "sources" (list items) ∈
      [field "message" [Text.quote message], field "context" (list (details.map fun d =>
        between "(" ")" [[Text.quote d.1], [Text.quote d.2]])), field "sources" (list items)] :=
    List.mem_of_mem_getLast? rfl
  obtain ⟨line₃, mem₃, part₃⟩ := exists_mem_between "Error \x7b" "\x7d" last mem₂
  exact ⟨line₃, mem₃, (part₁.trans part₂).trans part₃⟩

/-- All lines of some items are printable. -/
def AllPrintable (items : List (List String)) : Prop :=
  ∀ item ∈ items, ∀ line ∈ item, Printable line

/-- Lines that stand inside others stay printable. -/
theorem nested_printable (each : ∀ line ∈ lines, Printable line) :
    ∀ line ∈ nested lines, Printable line := by
  have indent : Printable "    " := printable_of_all (by decide)
  induction lines using nested.induct with
  | case1 => exact fun line mem => nomatch mem
  | case2 only =>
    intro line mem
    rw [List.mem_singleton.1 mem]
    exact (indent.append (each only List.mem_cons_self)).append (printable_of_all (by decide))
  | case3 first rest more ih =>
    rw [nested]
    · refine List.forall_mem_cons.2 ⟨indent.append (each first List.mem_cons_self), ?_⟩
      exact ih fun line mem => each line (List.mem_cons_of_mem first mem)
    · exact more

/-- Items between brackets stay printable. -/
theorem between_printable {first last : String} (begins : Printable first) (ends : Printable last)
    (each : AllPrintable items) : ∀ line ∈ between first last items, Printable line := by
  intro line mem
  rcases List.mem_append.1 mem with mem | mem
  · rcases List.mem_cons.1 mem with rfl | mem
    · exact begins
    · obtain ⟨item, among, mem⟩ := List.mem_flatMap.1 mem
      exact nested_printable (each item among) line mem
  · exact List.mem_singleton.1 mem ▸ ends

/-- The lines of a field stay printable. -/
theorem field_printable {name : String} (named : Printable name)
    (each : ∀ line ∈ lines, Printable line) : ∀ line ∈ field name lines, Printable line := by
  have front := named.append (printable_of_all (s := ": ") (by decide))
  cases lines with
  | nil => exact fun line mem => List.mem_singleton.1 mem ▸ front
  | cons first rest =>
    refine List.forall_mem_cons.2 ⟨front.append (each first List.mem_cons_self), ?_⟩
    exact fun line mem => each line (List.mem_cons_of_mem first mem)

/-- A list of printable items is printable. -/
theorem list_printable (each : AllPrintable items) : ∀ line ∈ list items, Printable line := by
  cases items with
  | nil => exact fun line mem => List.mem_singleton.1 mem ▸ printable_of_all (by decide)
  | cons first rest =>
    exact between_printable (printable_of_all (by decide)) (printable_of_all (by decide)) each

/-- A structure with printable fields is printable. -/
theorem record_printable {name : String} (named : Printable name) (each : AllPrintable items) :
    ∀ line ∈ record name items, Printable line :=
  between_printable (named.append (printable_of_all (by decide)))
    (printable_of_all (by decide)) each

/-- A single line that is printable. -/
theorem singleton_printable {line : String} (printable : Printable line) :
    ∀ line' ∈ [line], Printable line' := fun _ mem => List.mem_singleton.1 mem ▸ printable

/-- The structure of an error is printable if those of its causes are. -/
theorem error_printable (message : String) (details : List (String × String))
    {causes : List (List String)} (each : AllPrintable causes) :
    ∀ line ∈ error message details causes, Printable line := by
  have pairs : AllPrintable (details.map fun d =>
      between "(" ")" [[Text.quote d.1], [Text.quote d.2]]) := by
    intro item mem
    obtain ⟨d, -, rfl⟩ := List.mem_map.1 mem
    refine between_printable (printable_of_all (by decide)) (printable_of_all (by decide)) ?_
    simp only [AllPrintable, List.forall_mem_cons]
    exact ⟨⟨quote_printable d.1, by simp⟩, ⟨quote_printable d.2, by simp⟩, by simp⟩
  refine record_printable (printable_of_all (by decide)) ?_
  simp only [AllPrintable, List.forall_mem_cons]
  refine ⟨field_printable (printable_of_all (by decide)) (singleton_printable (quote_printable _)),
    field_printable (printable_of_all (by decide)) (list_printable pairs),
    field_printable (printable_of_all (by decide)) (list_printable each), by simp⟩

end Dump

namespace Cause

open Dump

mutual

/-- The lines of the structure of a cause are printable. -/
theorem dump_printable : (c : Cause) → ∀ line ∈ c.dump, Printable line
  | .text message => singleton_printable (quote_printable message)
  | .context message inner => by
    refine record_printable (printable_of_all (by decide)) ?_
    simp only [AllPrintable, List.forall_mem_cons]
    exact ⟨field_printable (printable_of_all (by decide))
        (singleton_printable (quoteJoined_printable message)),
      field_printable (printable_of_all (by decide)) inner.dump_printable, by simp⟩
  | .io kind => by
    have named : Printable kind.name := by cases kind <;> exact printable_of_all (by decide)
    refine between_printable (printable_of_all (by decide)) (printable_of_all (by decide)) ?_
    simp only [AllPrintable, List.forall_mem_cons]
    exact ⟨⟨named, by simp⟩, by simp⟩
  | .ioText message => by
    refine record_printable (printable_of_all (by decide)) ?_
    simp only [AllPrintable, List.forall_mem_cons]
    exact ⟨field_printable (printable_of_all (by decide))
        (singleton_printable (printable_of_all (by decide))),
      field_printable (printable_of_all (by decide))
        (singleton_printable (quote_printable message)),
      by simp⟩
  | .format => singleton_printable (printable_of_all (by decide))
  | .error message details causes => error_printable message details (dumpAll_printable causes)

/-- So are those of some causes. -/
theorem dumpAll_printable : (cs : List Cause) → AllPrintable (dumpAll cs)
  | [] => fun _ mem => nomatch mem
  | c :: cs => List.forall_mem_cons.2 ⟨c.dump_printable, dumpAll_printable cs⟩

end

/-- The structures of causes, one by one. -/
theorem dumpAll_eq_map (cs : List Cause) : dumpAll cs = cs.map dump := by
  induction cs with
  | nil => rfl
  | cons c cs ih => rw [dumpAll, ih, List.map_cons]

/-! ## What is behind a cause -/

/-- One cause is **within** another one if it is that cause or lies behind it, at any depth. -/
inductive Within (c : Cause) : Cause → Prop
  | refl : Within c c
  | context {message : String} {inner : Cause} : Within c inner → Within c (.context message inner)
  | error {message : String} {details : List (String × String)} {causes : List Cause} {d : Cause} :
      d ∈ causes → Within c d → Within c (.error message details causes)

/-- **Nothing is left out.** Whatever is within a cause, its lines are part of those of the
cause. -/
theorem dump_within {c d : Cause} (within : Within c d) {line : String} (mem : line ∈ c.dump) :
    ∃ line' ∈ d.dump, PartOf line line' := by
  induction within with
  | refl => exact ⟨line, mem, .refl line⟩
  | context _ ih =>
    obtain ⟨line₁, mem₁, part₁⟩ := ih
    obtain ⟨line₂, mem₂, part₂⟩ := exists_mem_field "source" mem₁
    obtain ⟨line₃, mem₃, part₃⟩ := exists_mem_between "Error \x7b" "\x7d"
      (List.mem_cons_of_mem _ (List.mem_singleton_self _)) mem₂
    exact ⟨line₃, mem₃, (part₁.trans part₂).trans part₃⟩
  | error among _ ih =>
    obtain ⟨line₁, mem₁, part₁⟩ := ih
    have item := List.mem_map_of_mem (f := dump) among
    rw [← dumpAll_eq_map] at item
    obtain ⟨line₂, mem₂, part₂⟩ := exists_mem_error _ _ item mem₁
    exact ⟨line₂, mem₂, part₁.trans part₂⟩

end Cause

/-- A printable text is a line. -/
theorem Text.isLine_of_printable {s : String} (printable : Printable s) : IsLine s := by
  constructor
  · intro mem
    exact absurd (printable _ mem) (by decide)
  · intro last
    exact absurd (printable _ (List.mem_of_mem_getLast? last)) (by decide)

namespace Error

variable {e : Error}

/-- **Printable lines.** Whatever the texts of an error are, its dump has the lines of its
structure, all of them printable. -/
theorem lines_dump (e : Error) :
    lines e.dump = Dump.error e.message e.details (Cause.dumpAll e.causes) ∧
      ∀ line ∈ lines e.dump, Printable line := by
  have printable := Dump.error_printable e.message e.details (Cause.dumpAll_printable e.causes)
  have split : lines e.dump = Dump.error e.message e.details (Cause.dumpAll e.causes) := by
    refine lines_intercalate (fun line mem => isLine_of_printable (printable line mem)) ?_
    -- the last line is a bracket
    rw [Dump.error, Dump.record, Dump.between, List.getLast?_concat]
    decide
  exact ⟨split, split ▸ printable⟩

/-- **Nothing is left out.** Whatever is behind an error, at any depth, its lines are part of the
lines of the dump. -/
theorem dump_within {c d : Cause} (among : d ∈ e.causes) (within : c.Within d) {line : String}
    (mem : line ∈ c.dump) : ∃ line' ∈ lines e.dump, PartOf line line' := by
  obtain ⟨line', mem', part⟩ :=
    Cause.dump_within (d := e.toCause) (.error among within) mem
  rw [(lines_dump e).1]
  exact ⟨line', mem', part⟩

end Error

end Logline
