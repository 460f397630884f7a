import Logline.Config
import Mathlib.Data.List.Infix

/-! # Short names of loggers

The name of a logger is made of parts, set off by dots and double colons, and its short name is the
last part. It is cut out in two steps, one for each separator: what stands behind the last dot of
what stands behind the last double colon stands behind the last separator of either kind, in
whatever way separators touch or overlap.

* `EndsPart` — fronts of a name behind which a part begins
* `BeforeFirst`, `BehindLast` — what stands before the first separator of a text, behind the last
* `IsLastPart`, `isLastPart_of_behindLast` — the two steps together
* `LoggerNameStyle.apply_short` — short names -/

namespace Logline

/-- A front **ends a part** of a name if it is empty or ends in a dot or a double colon. -/
def EndsPart (front : List Char) : Prop := front = [] ∨ ['.'] <:+ front ∨ [':', ':'] <:+ front

variable {separator text front rest : List Char}

/-! ## One separator -/

/-- What stands **before the first** separator of a text, or the whole text. -/
structure BeforeFirst (separator text front : List Char) : Prop where
  split : front = text ∨ front ++ separator <+: text
  first : ∀ f, f ++ separator <+: text → front <+: f

/-- What stands **behind the last** separator of a text, or the whole text. -/
structure BehindLast (separator text rest : List Char) : Prop where
  split : rest = text ∨ separator ++ rest <:+ text
  last : ∀ r, separator ++ r <:+ text → rest <:+ r

namespace BeforeFirst

/-- The empty text has no separator. -/
theorem empty (nonempty : separator ≠ []) : BeforeFirst separator [] [] :=
  ⟨Or.inl rfl, fun _ le => absurd (List.append_eq_nil_iff.1 (List.prefix_nil.1 le)).2 nonempty⟩

/-- Nothing stands before a separator in front. -/
theorem here (at_once : separator <+: text) : BeforeFirst separator text [] :=
  ⟨Or.inr at_once, fun _ _ => List.nil_prefix⟩

/-- Where no separator begins, the search goes on. -/
theorem cons {c : Char} (before : BeforeFirst separator text front)
    (later : ¬ separator <+: c :: text) : BeforeFirst separator (c :: text) (c :: front) := by
  constructor
  · rcases before.split with whole | split
    · exact Or.inl (by rw [whole])
    · exact Or.inr (List.cons_prefix_cons.2 ⟨rfl, split⟩)
  · intro f le
    cases f with
    | nil => exact absurd le later
    | cons d f =>
      rw [List.cons_append, List.cons_prefix_cons] at le
      exact List.cons_prefix_cons.2 ⟨le.1.symm, before.first f le.2⟩

/-- Read backwards, the first separator is the last one. -/
theorem reverse (before : BeforeFirst separator.reverse text.reverse front) :
    BehindLast separator text front.reverse := by
  have turned : ∀ r : List Char,
      separator ++ r <:+ text ↔ r.reverse ++ separator.reverse <+: text.reverse := by
    intro r
    rw [← List.reverse_prefix, List.reverse_append]
  constructor
  · rcases before.split with whole | split
    · exact Or.inl (by rw [whole, List.reverse_reverse])
    · exact Or.inr ((turned _).2 (by rwa [List.reverse_reverse]))
  · intro r behind
    rw [← List.reverse_reverse r, List.reverse_suffix]
    exact before.first _ ((turned r).1 behind)

end BeforeFirst

/-- What comes before the first dot is found by going on as long as there is none. -/
theorem beforeFirst_dot (text : List Char) :
    BeforeFirst ['.'] text (text.takeWhile (· != '.')) := by
  induction text with
  | nil => exact .empty (by decide)
  | cons c text ih =>
    by_cases dot : c = '.'
    · subst dot
      exact .here ⟨text, rfl⟩
    · have later : ¬ ['.'] <+: c :: text := by
        rw [List.cons_prefix_cons]
        exact fun here => dot here.1.symm
      rw [List.takeWhile_cons_of_pos (by simpa using dot)]
      exact ih.cons later

/-- What comes before the first double colon is found in the same way. -/
theorem beforeFirst_doubleColon (text : List Char) :
    BeforeFirst [':', ':'] text (beforeDoubleColon text) := by
  fun_induction beforeDoubleColon text with
  | case1 rest => exact .here ⟨rest, rfl⟩
  | case2 c rest plain ih =>
    refine ih.cons fun here => ?_
    obtain ⟨rest', eq⟩ := here
    rw [List.cons_append, List.cons.injEq] at eq
    exact plain rest' eq.1.symm eq.2.symm
  | case3 => exact .empty (by decide)

/-- What comes behind the last dot is found from the end. -/
theorem behindLast_dot (text : List Char) : BehindLast ['.'] text (afterLastDot text) := by
  have before : BeforeFirst ['.'].reverse text.reverse _ := beforeFirst_dot text.reverse
  exact before.reverse

/-- What comes behind the last double colon is found from the end. -/
theorem behindLast_doubleColon (text : List Char) :
    BehindLast [':', ':'] text (afterLastDoubleColon text) := by
  have before : BeforeFirst [':', ':'].reverse text.reverse _ :=
    beforeFirst_doubleColon text.reverse
  exact before.reverse

/-! ## Both separators -/

/-- The **last part** of a name: what stands behind the last separator of either kind, or the whole
name. -/
structure IsLastPart (name part : List Char) : Prop where
  split : part = name ∨ ['.'] ++ part <:+ name ∨ [':', ':'] ++ part <:+ name
  last_dot : ∀ r, ['.'] ++ r <:+ name → part <:+ r
  last_doubleColon : ∀ r, [':', ':'] ++ r <:+ name → part <:+ r

/-- What stands behind a separator is an end of the text. -/
theorem BehindLast.isSuffix (behind : BehindLast separator text rest) : rest <:+ text := by
  rcases behind.split with rfl | split
  · exact List.suffix_refl _
  · exact (List.suffix_append _ _).trans split

/-- Behind the last dot behind the last double colon is the last part. -/
theorem isLastPart_of_behindLast {name tail part : List Char}
    (colons : BehindLast [':', ':'] name tail) (dot : BehindLast ['.'] tail part) :
    IsLastPart name part where
  split := by
    rcases dot.split with rfl | split
    · rcases colons.split with whole | split
      · exact Or.inl whole
      · exact Or.inr (Or.inr split)
    · exact Or.inr (Or.inl (split.trans colons.isSuffix))
  last_dot := by
    intro r behind
    -- the dot stands in the tail, or in front of it
    rcases List.suffix_or_suffix_of_suffix behind colons.isSuffix with inside | outside
    · exact dot.last r inside
    · rcases List.suffix_cons_iff.1 outside with eq | shorter
      · exact dot.last r (by rw [eq]; exact List.suffix_refl _)
      · exact dot.isSuffix.trans shorter
  last_doubleColon r behind := dot.isSuffix.trans (colons.last r behind)

namespace IsLastPart

variable {name part : List Char}

/-- The last part is an end of the name. -/
theorem isSuffix (last : IsLastPart name part) : part <:+ name := by
  rcases last.split with rfl | dot | colons
  · exact List.suffix_refl _
  · exact (List.suffix_append _ _).trans dot
  · exact (List.suffix_append _ _).trans colons

/-- No dot stands in the last part. -/
theorem dot_notMem (last : IsLastPart name part) : '.' ∉ part := by
  intro mem
  obtain ⟨front, r, eq⟩ := List.append_of_mem mem
  have behind : ['.'] ++ r <:+ part := ⟨front, eq.symm⟩
  have shorter := (last.last_dot r (behind.trans last.isSuffix)).length_le
  have longer := behind.length_le
  simp at longer
  omega

/-- No double colon stands in the last part. -/
theorem not_doubleColon_isInfix (last : IsLastPart name part) : ¬ [':', ':'] <:+: part := by
  rintro ⟨front, r, eq⟩
  have behind : [':', ':'] ++ r <:+ part := ⟨front, by rw [← eq, List.append_assoc]⟩
  have shorter := (last.last_doubleColon r (behind.trans last.isSuffix)).length_le
  have longer := behind.length_le
  simp at longer
  omega

/-- The last part of a last part is that part. -/
theorem eq_of_isLastPart {part' : List Char} (last : IsLastPart name part)
    (last' : IsLastPart part part') : part' = part := by
  rcases last'.split with whole | dot | colons
  · exact whole
  · exact absurd (dot.subset (by simp)) last.dot_notMem
  · exact absurd ((List.prefix_append _ _).isInfix.trans colons.isInfix)
      last.not_doubleColon_isInfix

/-- What stands in front of the last part is the longest front that ends a part. -/
theorem exists_front (last : IsLastPart name part) :
    ∃ front, front ++ part = name ∧ EndsPart front ∧
      ∀ f, f <+: name → EndsPart f → f.length ≤ front.length := by
  obtain ⟨front, rfl⟩ := last.isSuffix
  have ends : ∀ separator, separator ++ part <:+ front ++ part → separator <:+ front := by
    rintro separator ⟨before, eq⟩
    rw [← List.append_assoc] at eq
    exact ⟨before, List.append_cancel_right eq⟩
  -- a front that ends in a separator has at least the last part behind it
  have longest : ∀ separator f r, separator <:+ f → f ++ r = front ++ part →
      (separator ++ r <:+ front ++ part → part <:+ r) → f.length ≤ front.length := by
    rintro separator f r ⟨before, rfl⟩ eq behind
    have shorter := (behind ⟨before, by rw [← eq, List.append_assoc]⟩).length_le
    have lengths := congrArg List.length eq
    simp only [List.length_append] at lengths ⊢
    omega
  refine ⟨front, rfl, ?_, ?_⟩
  · rcases last.split with whole | dot | colons
    · exact Or.inl (List.self_eq_append_left.1 whole)
    · exact Or.inr (Or.inl (ends _ dot))
    · exact Or.inr (Or.inr (ends _ colons))
  · rintro f ⟨r, eq⟩ (rfl | dot | colons)
    · exact Nat.zero_le _
    · exact longest _ f r dot eq (last.last_dot r)
    · exact longest _ f r colons eq (last.last_doubleColon r)

end IsLastPart

/-! ## Short names -/

namespace LoggerNameStyle

/-- A short name is the last part of the name. -/
theorem isLastPart_apply_short (name : String) :
    IsLastPart name.toList (apply .short name).toList := by
  rw [apply, String.toList_ofList]
  exact isLastPart_of_behindLast (behindLast_doubleColon _) (behindLast_dot _)

/-- **A short name is what stands behind the longest front that is empty or ends in a separator.**
So it ends the name, has no separator in it, and is its own short name. -/
theorem apply_short (name : String) :
    (∃ front, front ++ (apply .short name).toList = name.toList ∧ EndsPart front ∧
      ∀ f, f <+: name.toList → EndsPart f → f.length ≤ front.length) ∧
    (apply .short name).toList <:+ name.toList ∧
    '.' ∉ (apply .short name).toList ∧ ¬ [':', ':'] <:+: (apply .short name).toList ∧
    apply .short (apply .short name) = apply .short name := by
  have last := isLastPart_apply_short name
  refine ⟨last.exists_front, last.isSuffix, last.dot_notMem, last.not_doubleColon_isInfix, ?_⟩
  exact String.toList_inj.1 (last.eq_of_isLastPart (isLastPart_apply_short _))

/-- Of three colons the last two end a part, and a part may be empty. -/
theorem apply_short_three_colons :
    apply .short "a.b:::c" = "c" ∧ apply .short "a::b." = "" ∧
    ∃ front, front ++ ['c'] = "a.b:::c".toList ∧ EndsPart front ∧
      "a.b::".toList.length ≤ front.length := by
  have short : apply .short "a.b:::c" = "c" := by decide
  obtain ⟨front, eq, ends, longest⟩ := (apply_short "a.b:::c").1
  rw [short] at eq
  refine ⟨short, by decide, front, eq, ends, longest _ ?_ ?_⟩
  · exact ⟨[':', 'c'], by decide⟩
  · exact Or.inr (Or.inr ⟨['a', '.', 'b'], by decide⟩)

end LoggerNameStyle

end Logline
