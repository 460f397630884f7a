import Logline.Message
import Logline.Proofs.Template.Bytes
import Mathlib.Data.List.Sort

/-! # Reading templates by a cursor

A template may be read in place. A cursor stands at the byte where the text not yet written begins;
the next slot is looked for from there on, the text in front of it is written, and the cursor moves
behind the slot, or behind the opening brace of an escaped one. The backslashes in front of a slot
are looked for in the whole template, so it has to be made sure that they are not in front of the
cursor, that text is cut between characters only, and that the cursor moves on.

* `Template.Progress`, `Template.Progress.pass?` — a reading on its way, and one turn of it
* `Template.Progress.read` — a whole reading, with a record of its turns
* `Template.Turn.Sound` — what holds of a turn
* `Template.Progress.At.pass` — what one turn keeps
* `Template.read_start` — readings come to an end, and to what the pieces of the template come to -/

namespace Logline.Template

open String (utf8Len)

/-! ## Readings -/

/-- A reading on its way. -/
structure Progress where
  /-- The byte at which the text begins that is not yet written. -/
  cursor : Nat
  /-- The arguments that are left. -/
  args : List Value
  written : Rendering

namespace Progress

/-- The start of a reading. -/
def start (attempts : List Attempt) (args : List Value) : Progress := ⟨0, args, ⟨"", [], attempts⟩⟩

/-- A turn at a slot, with the next argument and those behind it. There is no progress where the
template is to be cut inside a character or from back to front. -/
def pass? (h : Heap) (t : String) (p : Progress) (v : Value) (vs : List Value) (slot : Nat) :
    Option Progress :=
  if SlashAt t 1 slot then
    (slice? t p.cursor (slot - 1)).map fun lead =>
      if SlashAt t 2 slot then ⟨slot + 2, vs, (p.written.put lead).append h v⟩
      else ⟨slot + 1, v :: vs, (p.written.put lead).put "\x7b"⟩
  else (slice? t p.cursor slot).map fun lead => ⟨slot + 2, vs, (p.written.put lead).append h v⟩

end Progress

/-- A turn: the cursor before it, the slot that was found, and the cursor after it. -/
structure Turn where
  cursor : Nat
  slot : Nat
  next : Nat
  deriving DecidableEq, Repr

/-- A reading to its end: the turns that it took, and what is written, unless the template was to be
cut where it cannot be. -/
structure Reading where
  turns : List Turn
  written : Option Rendering

/-- A turn leads behind the opening brace of its slot. -/
theorem Progress.slot_lt_cursor_of_pass? {h : Heap} {t : String} {p p' : Progress} {v : Value}
    {vs : List Value} {slot : Nat} (passed : p.pass? h t v vs slot = some p') :
    slot < p'.cursor := by
  rw [pass?] at passed
  split_ifs at passed <;>
    obtain ⟨lead, -, rfl⟩ := Option.map_eq_some_iff.1 passed <;>
    simp

/-- Reads a template from a cursor on. -/
def Progress.read (h : Heap) (t : String) (p : Progress) : Reading :=
  match p.args, _ : nextSlot? t p.cursor with
  | v :: vs, some slot =>
    match _ : p.pass? h t v vs slot with
    | some p' =>
      let others := p'.read h t
      ⟨⟨p.cursor, slot, p'.cursor⟩ :: others.turns, others.written⟩
    | none => ⟨[], none⟩
  | _, _ => ⟨[], (slice? t p.cursor t.utf8ByteSize).map p.written.put⟩
termination_by t.utf8ByteSize - p.cursor
decreasing_by
  have ahead := nextSlot?_eq_some_iff.1 ‹nextSlot? t p.cursor = some slot›
  have inside := ahead.1.lt
  have behind := slot_lt_cursor_of_pass? ‹p.pass? h t v vs slot = some p'›
  omega

variable {h : Heap} {t : String} {p p' : Progress} {v : Value} {vs : List Value} {slot : Nat}

namespace Progress

section Pass
variable {lead : String}

/-- A slot without a backslash takes the next argument. -/
theorem pass?_open (no_slash : ¬ SlashAt t 1 slot)
    (cut : slice? t p.cursor slot = some lead) :
    p.pass? h t v vs slot = some ⟨slot + 2, vs, (p.written.put lead).append h v⟩ := by
  rw [pass?, if_neg no_slash, cut, Option.map_some]

/-- A slot behind two backslashes takes the next argument, and the nearer backslash is not written.
-/
theorem pass?_two_slashes (slash : SlashAt t 1 slot) (slash' : SlashAt t 2 slot)
    (cut : slice? t p.cursor (slot - 1) = some lead) :
    p.pass? h t v vs slot = some ⟨slot + 2, vs, (p.written.put lead).append h v⟩ := by
  rw [pass?, if_pos slash, cut, Option.map_some, if_pos slash']

/-- A slot behind one backslash takes no argument. The backslash is not written, and the cursor
moves behind the opening brace. -/
theorem pass?_one_slash (slash : SlashAt t 1 slot) (single : ¬ SlashAt t 2 slot)
    (cut : slice? t p.cursor (slot - 1) = some lead) :
    p.pass? h t v vs slot
      = some ⟨slot + 1, v :: vs, (p.written.put lead).put "\x7b"⟩ := by
  rw [pass?, if_pos slash, cut, Option.map_some, if_neg single]

end Pass

/-- A reading goes on from where a turn has led. -/
theorem read_of_pass (args : p.args = v :: vs) (found : nextSlot? t p.cursor = some slot)
    (passed : p.pass? h t v vs slot = some p') :
    p.read h t = ⟨⟨p.cursor, slot, p'.cursor⟩ :: (p'.read h t).turns, (p'.read h t).written⟩ := by
  rw [read]
  split
  next v' vs' slot' args' found' =>
    rw [args, List.cons.injEq] at args'
    obtain ⟨rfl, rfl⟩ := args'
    obtain rfl : slot = slot' := Option.some.inj (found.symm.trans found')
    split
    next p'' passed' =>
      obtain rfl : p' = p'' := Option.some.inj (passed.symm.trans passed')
      rfl
    next failed => cases passed.symm.trans failed
  next other => exact absurd found (other v vs slot args)

/-- Without arguments the rest of the template is written as it stands. -/
theorem read_of_args_eq_nil (args : p.args = []) :
    p.read h t = ⟨[], (slice? t p.cursor t.utf8ByteSize).map p.written.put⟩ := by
  rw [read, args]

/-- Without a slot ahead the rest of the template is written as it stands. -/
theorem read_of_nextSlot?_eq_none (missing : nextSlot? t p.cursor = none) :
    p.read h t = ⟨[], (slice? t p.cursor t.utf8ByteSize).map p.written.put⟩ := by
  rw [read]
  split
  next found => cases missing.symm.trans found
  next => rfl

end Progress

/-! ## Turns -/

/-- A turn is **sound** if it goes on to the first slot that is not in front of its cursor, if the
backslashes that it looks at are not in front of the cursor either, and if all the places at which
the template is cut are boundaries. Then it moves the cursor on. -/
structure Turn.Sound (t : String) (turn : Turn) : Prop where
  found : nextSlot? t turn.cursor = some turn.slot
  cursor_le : turn.cursor ≤ turn.slot
  le_one : SlashAt t 1 turn.slot → turn.cursor ≤ turn.slot - 1
  le_two : SlashAt t 1 turn.slot → SlashAt t 2 turn.slot → turn.cursor ≤ turn.slot - 2
  boundary_cursor : Boundary t turn.cursor
  boundary_one : SlashAt t 1 turn.slot → Boundary t (turn.slot - 1)
  boundary_slot : Boundary t turn.slot
  boundary_next : Boundary t turn.next
  lt_next : turn.slot < turn.next

/-- A sound turn moves the cursor on. -/
theorem Turn.Sound.cursor_lt_next {turn : Turn} (sound : turn.Sound t) : turn.cursor < turn.next :=
  Nat.lt_of_le_of_lt sound.cursor_le sound.lt_next

variable {done ahead mid rest : List Char}

/-- What a text ends with is its last character. -/
theorem singleton_isSuffix_concat_iff {c d : Char} {s : List Char} : [c] <:+ s ++ [d] ↔ c = d := by
  constructor
  · rintro ⟨front, eq⟩
    exact List.singleton_inj.1 (List.append_inj_right' eq rfl)
  · rintro rfl
    exact List.suffix_append _ _

/-- If no backslash stands in front of the cursor, one that the text up to a slot ends with stands
behind the cursor. -/
theorem slash_isSuffix_iff (apart : ¬ ['\\'] <:+ done) :
    ['\\'] <:+ done ++ mid ↔ ['\\'] <:+ mid := by
  rcases List.eq_nil_or_concat' mid with rfl | ⟨mid', c, rfl⟩
  · rw [List.append_nil]
    exact ⟨fun slash => absurd slash apart, fun slash => absurd (List.suffix_nil.1 slash) (by simp)⟩
  · rw [← List.append_assoc, singleton_isSuffix_concat_iff, singleton_isSuffix_concat_iff]

/-- A backslash in front of a slot is found among the text from the cursor on. -/
theorem slashAt_one_iff_of_apart (apart : ¬ ['\\'] <:+ done)
    (split : t.toList = done ++ (mid ++ rest)) :
    SlashAt t 1 (utf8Len (done ++ mid)) ↔ ['\\'] <:+ mid := by
  rw [← List.append_assoc] at split
  rw [slashAt_one_iff split, slash_isSuffix_iff apart]

/-- So is the second one. -/
theorem slashAt_two_iff_of_apart (apart : ¬ ['\\'] <:+ done)
    (split : t.toList = done ++ (mid ++ '\\' :: rest)) :
    SlashAt t 2 (utf8Len (done ++ (mid ++ ['\\']))) ↔ ['\\'] <:+ mid := by
  rw [← List.append_assoc, String.utf8Len_append]
  exact slashAt_two_iff.trans (slashAt_one_iff_of_apart apart split)

/-- A turn from a boundary behind no backslash is sound if it leads to a boundary behind its slot.
-/
theorem Turn.sound_of_split {next : Nat} (apart : ¬ ['\\'] <:+ done)
    (split : t.toList = done ++ (mid ++ '{' :: '}' :: rest))
    (found : nextSlot? t (utf8Len done) = some (utf8Len (done ++ mid)))
    (boundary : Boundary t next) (lt : utf8Len (done ++ mid) < next) :
    Sound t ⟨utf8Len done, utf8Len (done ++ mid), next⟩ := by
  have width : utf8Len ['\\'] = 1 := by decide
  have one := slashAt_one_iff_of_apart apart split
  constructor
  case found => exact found
  case cursor_le => simp
  case le_one =>
    intro slash
    obtain ⟨mid', rfl⟩ := one.1 slash
    simp only [String.utf8Len_append, width]
    omega
  case le_two =>
    intro slash slash'
    obtain ⟨mid', rfl⟩ := one.1 slash
    rw [List.append_assoc] at split
    obtain ⟨mid'', rfl⟩ := (slashAt_two_iff_of_apart apart split).1 slash'
    simp only [String.utf8Len_append, width]
    omega
  case boundary_cursor => exact boundary_of_split split
  case boundary_one =>
    intro slash
    obtain ⟨mid', rfl⟩ := one.1 slash
    have place : utf8Len (done ++ (mid' ++ ['\\'])) - 1 = utf8Len (done ++ mid') := by
      simp only [String.utf8Len_append, width]
      omega
    rw [place]
    exact boundary_iff.2 ⟨done ++ mid', '\\' :: '{' :: '}' :: rest, by rw [split]; simp, rfl⟩
  case boundary_slot =>
    rw [← List.append_assoc] at split
    exact boundary_of_split split
  case boundary_next => exact boundary
  case lt_next => exact lt

/-! ## Pieces in front of a slot -/

/-- The reversed text begins with what the text ends with. -/
theorem head?_reverse_eq_some_iff {c : Char} {s : List Char} :
    s.reverse.head? = some c ↔ [c] <:+ s := by
  rw [List.head?_reverse, List.getLast?_eq_some_iff]
  exact exists_congr fun front => eq_comm

/-- Where no slot begins, characters join the text in front of them. -/
theorem scan_of_no_slot {before lead : List Char} {count : Nat}
    (plain : ¬ ['{', '}'] <:+: mid ++ rest.take 1) :
    scan (count + 1) before lead (mid ++ rest)
      = scan (count + 1) (mid.reverse ++ before) (mid.reverse ++ lead) rest := by
  induction mid generalizing before lead with
  | nil => rfl
  | cons c mid ih =>
    have behind : ¬ ['{', '}'] <:+: mid ++ rest.take 1 :=
      fun slot => plain (slot.trans (List.suffix_cons c _).isInfix)
    rw [List.cons_append, scan_plain, ih behind]
    · simp
    · rintro tail rfl begins
      refine plain (List.IsPrefix.isInfix ?_)
      cases mid with
      | nil =>
        rw [List.nil_append] at begins
        rw [begins]
        exact ⟨[], rfl⟩
      | cons d mid =>
        obtain ⟨rfl, -⟩ := List.cons.inj begins
        exact ⟨mid ++ rest.take 1, rfl⟩

/-- The pieces from a boundary on, where nothing is left of the text before it. -/
def piecesFrom (count : Nat) (done ahead : List Char) : List Piece :=
  scan count done.reverse [] ahead

section Pieces
variable {count : Nat} (plain : ¬ ['{', '}'] <:+: mid ++ ['{'])
include plain

/-- Where no backslash stands in front of a slot, the text up to it is a piece and the slot is one.
-/
theorem piecesFrom_open (no_slash : ¬ ['\\'] <:+ done ++ mid) :
    piecesFrom (count + 1) done (mid ++ '{' :: '}' :: rest)
      = .literal mid :: .slot :: piecesFrom count (done ++ (mid ++ ['{', '}'])) rest := by
  have head : (mid.reverse ++ done.reverse).head? ≠ some '\\' := by
    rw [← List.reverse_append, Ne, head?_reverse_eq_some_iff]
    exact no_slash
  rw [piecesFrom, scan_of_no_slot plain, scan_open head, piecesFrom]
  simp

/-- Where two backslashes stand in front of a slot, the piece in front of it ends with one. -/
theorem piecesFrom_two_slashes {mid' : List Char} (slashes : mid = mid' ++ ['\\', '\\']) :
    piecesFrom (count + 1) done (mid ++ '{' :: '}' :: rest)
      = .literal (mid' ++ ['\\']) :: .slot
          :: piecesFrom count (done ++ (mid ++ ['{', '}'])) rest := by
  rw [piecesFrom, scan_of_no_slot plain]
  subst slashes
  have before : (mid' ++ ['\\', '\\']).reverse ++ done.reverse
      = '\\' :: '\\' :: (mid'.reverse ++ done.reverse) := by simp
  rw [before, scan_two_slashes, piecesFrom]
  simp

/-- Where one backslash stands in front of a slot, the piece ends with the opening brace in its
place. -/
theorem piecesFrom_one_slash {mid' : List Char} (slash : mid = mid' ++ ['\\'])
    (single : ¬ ['\\'] <:+ done ++ mid') :
    piecesFrom (count + 1) done (mid ++ '{' :: '}' :: rest)
      = .literal (mid' ++ ['{'])
          :: piecesFrom (count + 1) (done ++ (mid ++ ['{'])) ('}' :: rest) := by
  rw [piecesFrom, scan_of_no_slot plain]
  subst slash
  have before : (mid' ++ ['\\']).reverse ++ done.reverse
      = '\\' :: (mid'.reverse ++ done.reverse) := by simp
  have head : (mid'.reverse ++ done.reverse).head? ≠ some '\\' := by
    rw [← List.reverse_append, Ne, head?_reverse_eq_some_iff]
    exact single
  rw [before, scan_one_slash head, piecesFrom, scan_plain (by simp)]
  simp

end Pieces

/-- Where there is no slot ahead, or no argument for it, the text ahead is one piece. -/
theorem piecesFrom_of_no_slot {count : Nat} (plain : count = 0 ∨ ¬ ['{', '}'] <:+: ahead) :
    piecesFrom count done ahead = [.literal ahead] := by
  cases count with
  | zero => simp [piecesFrom, scan]
  | succ count =>
    have plain' : ¬ ['{', '}'] <:+: ahead ++ ([] : List Char).take 1 := by
      rw [List.take_nil, List.append_nil]
      exact plain.resolve_left (Nat.succ_ne_zero count)
    rw [piecesFrom, ← List.append_nil ahead, scan_of_no_slot plain']
    simp [scan]

/-! ## Readings from a boundary on -/

namespace Progress

/-- A reading **stands** between the text it is done with, which does not end in a backslash, and
the text ahead. -/
structure At (t : String) (p : Progress) (done ahead : List Char) : Prop where
  split : t.toList = done ++ ahead
  cursor : p.cursor = utf8Len done
  apart : ¬ ['\\'] <:+ done

/-- What is written in the end, by the pieces ahead. -/
def outcome (h : Heap) (p : Progress) (done ahead : List Char) : Rendering :=
  appendPieces h p.written (piecesFrom p.args.length done ahead) p.args

/-- Behind a brace a reading stands again. -/
theorem At.behind {braces : List Char} (split : t.toList = done ++ (mid ++ (braces ++ rest)))
    (kind : braces = ['{'] ∨ braces = ['{', '}'])
    (cursor : p.cursor = utf8Len (done ++ mid) + braces.length) :
    p.At t (done ++ (mid ++ braces)) rest where
  split := by
    rw [split]
    simp
  cursor := by
    have widths : utf8Len ['{'] = 1 ∧ utf8Len ['{', '}'] = 2 := by decide
    rw [cursor, ← List.append_assoc, String.utf8Len_append (done ++ mid)]
    rcases kind with rfl | rfl
    · rw [widths.1, List.length_singleton]
    · rw [widths.2, List.length_cons, List.length_singleton]
  apart := by
    rcases kind with rfl | rfl
    · rw [← List.append_assoc, singleton_isSuffix_concat_iff]
      decide
    · have last : done ++ (mid ++ ['{', '}']) = (done ++ mid ++ ['{']) ++ ['}'] := by simp
      rw [last, singleton_isSuffix_concat_iff]
      decide

/-- A turn at a slot **keeps** a reading that stands between two texts if it is sound, the reading
stands between two texts again, and what is written in the end is the same. -/
def Keeps (h : Heap) (t : String) (p : Progress) (done ahead : List Char) (slot : Nat)
    (p' : Progress) : Prop :=
  Turn.Sound t ⟨p.cursor, slot, p'.cursor⟩ ∧ ∃ done' ahead', p'.At t done' ahead' ∧
    p'.outcome h done' ahead' = p.outcome h done ahead

/-- A turn keeps a reading if it leads behind a brace of the slot and what is written in the end is
the same. -/
theorem At.keeps {rest' : List Char} (stands : p.At t done (mid ++ '{' :: '}' :: rest))
    (found : nextSlot? t p.cursor = some (utf8Len (done ++ mid)))
    (braces : List Char) (kind : braces = ['{'] ∨ braces = ['{', '}'])
    (same : '{' :: '}' :: rest = braces ++ rest')
    (cursor : p'.cursor = utf8Len (done ++ mid) + braces.length)
    (outcome : p'.outcome h (done ++ (mid ++ braces)) rest'
      = p.outcome h done (mid ++ '{' :: '}' :: rest)) :
    Keeps h t p done (mid ++ '{' :: '}' :: rest) (utf8Len (done ++ mid)) p' := by
  have stands' : p'.At t (done ++ (mid ++ braces)) rest' :=
    .behind (by rw [← same, stands.split]) kind cursor
  refine ⟨?_, _, _, stands', outcome⟩
  rw [stands.cursor] at found ⊢
  refine Turn.sound_of_split stands.apart stands.split found ?_ ?_
  · rw [stands'.cursor]
    exact boundary_of_split stands'.split
  · rw [cursor]
    rcases kind with rfl | rfl <;> simp

section Pass
variable (stands : p.At t done (mid ++ '{' :: '}' :: rest)) (args : p.args = v :: vs)
  (found : nextSlot? t p.cursor = some (utf8Len (done ++ mid)))
  (plain : ¬ ['{', '}'] <:+: mid ++ ['{'])
include stands args found plain

/-- A turn at a slot without a backslash keeps a reading. -/
theorem At.pass_open (no_slash : ¬ ['\\'] <:+ mid) :
    ∃ p', p.pass? h t v vs (utf8Len (done ++ mid)) = some p' ∧
      Keeps h t p done (mid ++ '{' :: '}' :: rest) (utf8Len (done ++ mid)) p' := by
  have one := slashAt_one_iff_of_apart stands.apart stands.split
  have cut : slice? t p.cursor (utf8Len (done ++ mid)) = some (String.ofList mid) := by
    rw [stands.cursor, String.utf8Len_append]
    exact slice?_of_split stands.split
  refine ⟨_, pass?_open (mt one.1 no_slash) cut,
    stands.keeps found ['{', '}'] (Or.inr rfl) rfl rfl ?_⟩
  rw [outcome, outcome, args, List.length_cons, piecesFrom_open plain]
  · rfl
  · rwa [slash_isSuffix_iff stands.apart]

variable {mid' : List Char} (slash : mid = mid' ++ ['\\'])
include slash

omit args found plain in
/-- Up to the backslash in front of a slot the template can be cut. -/
theorem At.cut_slash :
    slice? t p.cursor (utf8Len (done ++ mid) - 1) = some (String.ofList mid') := by
  subst slash
  have split := stands.split
  have width : utf8Len ['\\'] = 1 := by decide
  rw [List.append_assoc] at split
  rw [stands.cursor, ← List.append_assoc, String.utf8Len_append (done ++ mid'), width,
    Nat.add_sub_cancel, String.utf8Len_append]
  exact slice?_of_split split

omit args found plain in
/-- In front of a slot behind a backslash there is a second one if the text up to the first ends
with one. -/
theorem At.slashes_iff :
    SlashAt t 1 (utf8Len (done ++ mid)) ∧
      (SlashAt t 2 (utf8Len (done ++ mid)) ↔ ['\\'] <:+ mid') := by
  subst slash
  have split := stands.split
  refine ⟨(slashAt_one_iff_of_apart stands.apart split).2 ⟨mid', rfl⟩, ?_⟩
  rw [List.append_assoc] at split
  exact slashAt_two_iff_of_apart stands.apart split

/-- A turn at a slot behind two backslashes keeps a reading. -/
theorem At.pass_two_slashes (slash' : ['\\'] <:+ mid') :
    ∃ p', p.pass? h t v vs (utf8Len (done ++ mid)) = some p' ∧
      Keeps h t p done (mid ++ '{' :: '}' :: rest) (utf8Len (done ++ mid)) p' := by
  obtain ⟨one, two⟩ := stands.slashes_iff slash
  refine ⟨_, pass?_two_slashes one (two.2 slash') (stands.cut_slash slash),
    stands.keeps found ['{', '}'] (Or.inr rfl) rfl rfl ?_⟩
  obtain ⟨mid'', rfl⟩ := slash'
  have slashes : mid = mid'' ++ ['\\', '\\'] := by rw [slash, List.append_assoc]; rfl
  rw [outcome, outcome, args, List.length_cons, piecesFrom_two_slashes plain slashes]
  rfl

/-- A turn at a slot behind one backslash keeps a reading. -/
theorem At.pass_one_slash (single : ¬ ['\\'] <:+ mid') :
    ∃ p', p.pass? h t v vs (utf8Len (done ++ mid)) = some p' ∧
      Keeps h t p done (mid ++ '{' :: '}' :: rest) (utf8Len (done ++ mid)) p' := by
  obtain ⟨one, two⟩ := stands.slashes_iff slash
  have single' : ¬ ['\\'] <:+ done ++ mid' := by rwa [slash_isSuffix_iff stands.apart]
  refine ⟨_, pass?_one_slash one (mt two.1 single) (stands.cut_slash slash),
    stands.keeps found ['{'] (Or.inl rfl) rfl rfl ?_⟩
  rw [outcome, outcome, args, List.length_cons, piecesFrom_one_slash plain slash single']
  simp only [appendPieces, Rendering.put_put, String.ofList_append]

end Pass

/-- **A turn keeps a reading.** -/
theorem At.pass (stands : p.At t done ahead) (args : p.args = v :: vs)
    (found : nextSlot? t p.cursor = some slot) :
    ∃ p', p.pass? h t v vs slot = some p' ∧ Keeps h t p done ahead slot p' := by
  have found' := found
  rw [stands.cursor] at found'
  obtain ⟨mid, rest, rfl, rfl, plain⟩ := exists_of_nextSlot?_eq_some stands.split found'
  by_cases slash : ['\\'] <:+ mid
  · obtain ⟨mid', rfl⟩ := slash
    by_cases slash' : ['\\'] <:+ mid'
    · exact stands.pass_two_slashes args found plain rfl slash'
    · exact stands.pass_one_slash args found plain rfl slash'
  · exact stands.pass_open args found plain slash

/-- A reading that stands at its end writes the text ahead. -/
theorem At.finish (stands : p.At t done ahead)
    (last : p.args = [] ∨ nextSlot? t p.cursor = none) :
    p.read h t = ⟨[], some (p.outcome h done ahead)⟩ := by
  have cut : slice? t p.cursor t.utf8ByteSize = some (String.ofList ahead) := by
    have split : t.toList = done ++ (ahead ++ []) := by rw [List.append_nil, stands.split]
    rw [stands.cursor, utf8ByteSize_eq, stands.split, String.utf8Len_append]
    exact slice?_of_split split
  have finished : p.read h t = ⟨[], (slice? t p.cursor t.utf8ByteSize).map p.written.put⟩ :=
    last.elim read_of_args_eq_nil read_of_nextSlot?_eq_none
  have plain : p.args.length = 0 ∨ ¬ ['{', '}'] <:+: ahead := by
    rcases last with none_left | missing
    · exact Or.inl (by rw [none_left, List.length_nil])
    · rw [stands.cursor] at missing
      exact Or.inr (not_isInfix_of_nextSlot?_eq_none stands.split missing)
  rw [finished, cut, outcome, piecesFrom_of_no_slot plain]
  rfl

/-- **A reading from a boundary on** comes to its end with what the pieces ahead come to. Its turns
are sound, and none of them begins in front of where the one before has moved the cursor to. -/
theorem At.read (stands : p.At t done ahead) :
    (p.read h t).written = some (p.outcome h done ahead) ∧
      (∀ turn ∈ (p.read h t).turns, turn.Sound t ∧ p.cursor ≤ turn.cursor) ∧
      (p.read h t).turns.Pairwise fun a b => a.next ≤ b.cursor := by
  -- along the turns: each of them leaves fewer bytes behind the cursor
  induction left : t.utf8ByteSize - p.cursor using Nat.strong_induction_on
    generalizing p done ahead with
  | h left ih =>
    cases args : p.args with
    | nil =>
      rw [stands.finish (Or.inl args)]
      simp
    | cons v vs =>
      cases found : nextSlot? t p.cursor with
      | none =>
        rw [stands.finish (Or.inr found)]
        simp
      | some slot =>
        obtain ⟨p', passed, sound, done', ahead', stands', outcome⟩ := stands.pass args found
        have inside := (nextSlot?_eq_some_iff.1 found).1.lt
        have le : p.cursor ≤ slot := sound.cursor_le
        have moved : p.cursor < p'.cursor := sound.cursor_lt_next
        obtain ⟨written, sounds, apart⟩ := ih _ (by omega) stands' rfl
        rw [read_of_pass args found passed]
        refine ⟨by rw [written, outcome], ?_, ?_⟩
        · rintro turn mem
          rcases List.mem_cons.1 mem with rfl | later
          · exact ⟨sound, Nat.le_refl _⟩
          · obtain ⟨sound', behind⟩ := sounds turn later
            exact ⟨sound', by omega⟩
        · exact List.pairwise_cons.2 ⟨fun turn later => (sounds turn later).2, apart⟩

end Progress

/-! ## Whole readings -/

/-- The slots of turns are some of the slots of the template, from the front to the back. -/
theorem slots_sublist {turns : List Turn} (sounds : ∀ turn ∈ turns, turn.Sound t)
    (apart : turns.Pairwise fun a b => a.next ≤ b.cursor) :
    (turns.map Turn.slot).Sublist (slotsAt t) := by
  have increasing : (turns.map Turn.slot).Pairwise (· < ·) := by
    refine List.pairwise_map.2 (apart.imp_of_mem fun {a b} mem mem' le => ?_)
    have lt := (sounds a mem).lt_next
    have le' := (sounds b mem').cursor_le
    omega
  have subset : turns.map Turn.slot ⊆ slotsAt t := by
    intro j mem
    obtain ⟨turn, mem', rfl⟩ := List.mem_map.1 mem
    have slot := (nextSlot?_eq_some_iff.1 (sounds turn mem').found).1
    exact List.mem_filter.2 ⟨List.mem_range.2 slot.lt, decide_eq_true slot⟩
  have all : (slotsAt t).Pairwise (· < ·) := List.pairwise_lt_range.sublist List.filter_sublist
  exact List.sublist_of_subperm_of_sortedLE
    (List.subperm_of_subset increasing.sortedLT.nodup subset) increasing.sortedLT.sortedLE
    all.sortedLT.sortedLE

/-- **Readings of templates are safe and end.** Whatever the template and the arguments are, a
reading writes what the pieces of the template come to, so it never cuts the template where it
cannot be cut. Each of its turns is sound, the cursor moves on from turn to turn, and each turn is
at a slot of its own. -/
theorem read_start (h : Heap) (attempts : List Attempt) (t : String) (args : List Value) :
    let reading := (Progress.start attempts args).read h t
    reading.written.map (fun r => (r.out, r.attempts)) = some (fill h attempts t args) ∧
      (∀ turn ∈ reading.turns, turn.Sound t) ∧
      (reading.turns.Pairwise fun a b => a.next ≤ b.cursor) ∧
      (reading.turns.map Turn.slot).Sublist (slotsAt t) := by
  intro reading
  have stands : (Progress.start attempts args).At t [] t.toList := ⟨rfl, rfl, by simp⟩
  obtain ⟨written, sounds, apart⟩ := stands.read (h := h)
  have sounds' : ∀ turn ∈ reading.turns, turn.Sound t := fun turn mem => (sounds turn mem).1
  refine ⟨?_, sounds', apart, slots_sublist sounds' apart⟩
  rw [written]
  rfl

/-- An escaped slot behind a character of two bytes, and one behind two backslashes. -/
theorem read_start_two_turns :
    let reading := (Progress.start [] [.int 1]).read Heap.empty "é\\{} \\\\{}{}"
    reading.turns = [⟨0, 3, 4⟩, ⟨4, 8, 10⟩] ∧ Turn.Sound "é\\{} \\\\{}{}" ⟨4, 8, 10⟩ := by
  intro reading
  have turns : reading.turns = [⟨0, 3, 4⟩, ⟨4, 8, 10⟩] := by decide +kernel
  refine ⟨turns, (read_start Heap.empty [] "é\\{} \\\\{}{}" [.int 1]).2.1 _ ?_⟩
  exact turns ▸ List.mem_cons_of_mem _ List.mem_cons_self

end Logline.Template
