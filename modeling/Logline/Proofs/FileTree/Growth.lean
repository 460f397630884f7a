import Logline.FileTree
import Mathlib.Data.List.Infix

/-! # Trees that grow

Making directories, opening log files and writing to them takes nothing away: what stood somewhere
stands there still, and files have become longer at most. So a path that led somewhere leads there
for good.

* `FileTree.Grows` — one tree has grown into another
* `FileTree.AddsDirectories` — nothing but directories is new
* `FileTree.Grows.locatePath` — paths lead where they led
* `FileTree.makeDirectoriesFrom_made` — making directories adds directories, and all that are asked
  for if it succeeds -/

namespace Logline

/-- An entry has grown into another one: a directory stays one, and a file becomes longer at its
end. -/
def Entry.GrowsTo : Entry → Entry → Prop
  | .directory, e => e = .directory
  | .file bytes, e => ∃ more, e = .file (bytes ++ more)

/-- Every entry has grown into itself. -/
theorem Entry.growsTo_refl (e : Entry) : e.GrowsTo e := by
  cases e with
  | directory => rfl
  | file bytes => exact ⟨[], by rw [List.append_nil]⟩

/-- What has grown twice has grown. -/
theorem Entry.GrowsTo.trans {e e' e'' : Entry} (first : e.GrowsTo e') (second : e'.GrowsTo e'') :
    e.GrowsTo e'' := by
  cases e with
  | directory =>
    cases first
    exact second
  | file bytes =>
    obtain ⟨more, rfl⟩ := first
    obtain ⟨more', rfl⟩ := second
    exact ⟨more ++ more', by rw [List.append_assoc]⟩

namespace FileTree

variable {t t' t'' : FileTree} {p q here : Place} {e : Entry} {ps : List String}

/-! ## Places -/

/-- Entries elsewhere are found as if one had not been taken out. -/
private theorem lookup_filter_ne (entries : List (Place × Entry)) (other : q ≠ p) :
    (entries.filter fun x => x.1 != p).lookup q = entries.lookup q := by
  induction entries with
  | nil => rfl
  | cons x entries ih =>
    obtain ⟨r, e⟩ := x
    by_cases same : r = p
    · subst same
      have differs : (q == r) = false := by simpa using other
      simp [List.lookup_cons, differs, ih]
    · simp [same, List.lookup_cons, ih]

/-- What was put at a place stands there. -/
theorem entryAt?_put_same (t : FileTree) (named : p ≠ []) (e : Entry) :
    (t.put p e).entryAt? p = some e := by
  simp [entryAt?, put, named]

/-- At other places stands what stood there. -/
theorem entryAt?_put_of_ne (t : FileTree) (e : Entry) (other : q ≠ p) :
    (t.put p e).entryAt? q = t.entryAt? q := by
  have differs : (q == p) = false := by simpa using other
  rw [entryAt?, entryAt?, put, List.lookup_cons, differs]
  simp only [lookup_filter_ne t.entries other]

/-- The top is always a directory. -/
theorem entryAt?_nil (t : FileTree) : t.entryAt? [] = some .directory := rfl

/-- A path leads to a directory if there is an entry of that kind. -/
theorem isDirectory_iff : t.isDirectory p = true ↔ t.entryAt? p = some .directory := by
  rw [isDirectory, beq_iff_eq]

/-! ## Growth -/

/-- A tree has **grown** into another one: whatever stands somewhere stands there in the other tree
too, or has grown. -/
def Grows (t t' : FileTree) : Prop :=
  ∀ p e, t.entryAt? p = some e → ∃ e', t'.entryAt? p = some e' ∧ e.GrowsTo e'

/-- Nothing but directories is new in a tree, and everything else is as it was. -/
def AddsDirectories (t t' : FileTree) : Prop :=
  ∀ p, t'.entryAt? p = t.entryAt? p ∨ t.entryAt? p = none ∧ t'.entryAt? p = some .directory

/-- Every tree has grown into itself. -/
theorem Grows.refl (t : FileTree) : t.Grows t := fun _ e stands => ⟨e, stands, e.growsTo_refl⟩

/-- What has grown twice has grown. -/
theorem Grows.trans (first : t.Grows t') (second : t'.Grows t'') : t.Grows t'' := by
  intro p e stands
  obtain ⟨e', stands', grown⟩ := first p e stands
  obtain ⟨e'', stands'', grown'⟩ := second p e' stands'
  exact ⟨e'', stands'', grown.trans grown'⟩

/-- Directories stay directories. -/
theorem Grows.isDirectory (grows : t.Grows t') (directory : t.isDirectory p = true) :
    t'.isDirectory p = true := by
  obtain ⟨e', stands, rfl⟩ := grows p .directory (isDirectory_iff.1 directory)
  exact isDirectory_iff.2 stands

/-- What is there stays there. -/
theorem Grows.isSome (grows : t.Grows t') (some : (t.entryAt? p).isSome) :
    (t'.entryAt? p).isSome := by
  obtain ⟨e, stands⟩ := Option.isSome_iff_exists.1 some
  obtain ⟨e', stands', -⟩ := grows p e stands
  exact Option.isSome_iff_exists.2 ⟨e', stands'⟩

/-- A tree with new directories has grown. -/
theorem AddsDirectories.grows (adds : t.AddsDirectories t') : t.Grows t' := by
  intro p e stands
  rcases adds p with same | ⟨free, -⟩
  · exact ⟨e, same.trans stands, e.growsTo_refl⟩
  · rw [stands] at free
    cases free

/-- A tree has no new directories in itself. -/
theorem AddsDirectories.refl (t : FileTree) : t.AddsDirectories t := fun _ => .inl rfl

/-- Directories may be added one after the other. -/
theorem AddsDirectories.trans (first : t.AddsDirectories t') (second : t'.AddsDirectories t'') :
    t.AddsDirectories t'' := by
  intro p
  rcases second p with same | ⟨free, new⟩
  · rw [same]
    exact first p
  · rcases first p with same | ⟨-, new'⟩
    · exact .inr ⟨same ▸ free, new⟩
    · rw [new'] at free
      cases free

/-- Something at a place where nothing was leaves the rest as it is. -/
theorem grows_put (free : t.entryAt? p = none) (e : Entry) : t.Grows (t.put p e) := by
  intro q e' stands
  have other : q ≠ p := by
    rintro rfl
    rw [free] at stands
    cases stands
  exact ⟨e', (t.entryAt?_put_of_ne e other).trans stands, e'.growsTo_refl⟩

/-- So it is with a directory. -/
theorem addsDirectories_put (free : t.entryAt? p = none) :
    t.AddsDirectories (t.put p .directory) := by
  intro q
  by_cases same : q = p
  · subst same
    have named : q ≠ [] := by
      rintro rfl
      cases free
    exact .inr ⟨free, t.entryAt?_put_same named .directory⟩
  · exact .inl (t.entryAt?_put_of_ne .directory same)

/-! ## Paths -/

/-- Where one piece of a path leads. -/
def next (here : Place) (piece : String) : Place :=
  if isTrivial piece then here else if piece == ".." then here.dropLast else here ++ [piece]

/-- Whether one piece of a path can be followed. -/
def Passes (t : FileTree) (here : Place) (piece : String) : Prop :=
  t.isDirectory here = true ∧
    (isTrivial piece = true ∨ piece = ".." ∨
      isLong piece = false ∧ (t.entryAt? (here ++ [piece])).isSome = true)

/-- A path is followed piece by piece. -/
theorem locate_cons_iff {piece : String} :
    t.locate here (piece :: ps) = .ok p ↔
      t.Passes here piece ∧ t.locate (next here piece) ps = .ok p := by
  rw [locate, next, Passes]
  cases t.isDirectory here <;> cases isTrivial piece <;> by_cases up : piece = ".." <;>
    cases isLong piece <;> cases (t.entryAt? (here ++ [piece])).isSome <;> simp_all

/-- A path is followed part by part. -/
theorem locate_append_iff {qs : List String} :
    t.locate here (ps ++ qs) = .ok p ↔
      ∃ there, t.locate here ps = .ok there ∧ t.locate there qs = .ok p := by
  induction ps generalizing here with
  | nil => simp [locate]
  | cons piece ps ih =>
    simp only [List.cons_append, locate_cons_iff, ih, and_assoc, exists_and_left]

/-- Pieces that can be followed can be followed for good. -/
theorem Grows.passes (grows : t.Grows t') {piece : String} (passes : t.Passes here piece) :
    t'.Passes here piece := by
  obtain ⟨directory, kind⟩ := passes
  exact ⟨grows.isDirectory directory, kind.imp_right (Or.imp_right (And.imp_right grows.isSome))⟩

/-- A path leads where it led. -/
theorem Grows.locate (grows : t.Grows t') (leads : t.locate here ps = .ok p) :
    t'.locate here ps = .ok p := by
  induction ps generalizing here with
  | nil => exact leads
  | cons piece ps ih =>
    obtain ⟨passes, rest⟩ := locate_cons_iff.1 leads
    exact locate_cons_iff.2 ⟨grows.passes passes, ih rest⟩

/-- A path is no longer than what goes on behind it. -/
theorem utf8ByteSize_pathText_le (ps : List String) (piece : String) :
    (pathText ps).utf8ByteSize ≤ (pathText (ps ++ [piece])).utf8ByteSize := by
  by_cases empty : ps = []
  · subst empty
    simp [pathText]
  · rw [pathText, pathText, String.intercalate_append_of_ne_nil empty (List.cons_ne_nil _ _),
      String.utf8ByteSize_append, String.utf8ByteSize_append]
    omega

/-- The front of a usable path is usable. -/
theorem pathFault?_of_concat {piece : String} (usable : pathFault? (ps ++ [piece]) = none) :
    pathFault? ps = none := by
  have shorter := utf8ByteSize_pathText_le ps piece
  simp only [pathFault?, List.any_append, Bool.or_eq_true] at usable ⊢
  split at usable
  · cases usable
  · rename_i no_nul
    split at usable
    · cases usable
    · rw [if_neg fun nul => no_nul (.inl nul), if_neg (by omega)]

/-- Where a usable path leads. -/
theorem locatePath_iff :
    t.locatePath ps = .ok p ↔ pathFault? ps = none ∧ t.locate [] ps = .ok p := by
  rw [locatePath, checkPath]
  cases pathFault? ps <;> simp [bind, Except.bind]

/-- The directory to which a usable path leads. -/
theorem locateDirectory_iff :
    t.locateDirectory ps = .ok p ↔
      pathFault? ps = none ∧ t.locate [] ps = .ok p ∧ t.isDirectory p = true := by
  rw [← and_assoc, ← locatePath_iff, locateDirectory]
  cases t.locatePath ps with
  | error e => simp [bind, Except.bind]
  | ok q =>
    by_cases directory : t.isDirectory q = true
    · simp only [bind, Except.bind, directory, if_true, Except.ok.injEq]
      exact ⟨fun eq => ⟨eq, eq ▸ directory⟩, And.left⟩
    · simp only [bind, Except.bind, directory, Except.ok.injEq]
      exact ⟨fun eq => (nomatch eq), fun ⟨eq, directory'⟩ => absurd (eq ▸ directory') directory⟩

/-- Whether a path leads to a directory. -/
theorem leadsToDirectory_iff :
    t.leadsToDirectory ps = true ↔ ∃ p, t.locateDirectory ps = .ok p := by
  rw [leadsToDirectory]
  cases t.locateDirectory ps <;> simp [Except.toOption]

/-- A path that leads to a directory does so for good. -/
theorem Grows.locateDirectory (grows : t.Grows t') (leads : t.locateDirectory ps = .ok p) :
    t'.locateDirectory ps = .ok p := by
  obtain ⟨usable, leads, directory⟩ := locateDirectory_iff.1 leads
  exact locateDirectory_iff.2 ⟨usable, grows.locate leads, grows.isDirectory directory⟩

/-- What leads to a directory does so for good. -/
theorem Grows.leadsToDirectory (grows : t.Grows t') (leads : t.leadsToDirectory ps = true) :
    t'.leadsToDirectory ps = true := by
  obtain ⟨p, found⟩ := leadsToDirectory_iff.1 leads
  exact leadsToDirectory_iff.2 ⟨p, grows.locateDirectory found⟩

/-! ## New directories -/

/-- Whether a name names a directory or file of its own. -/
def IsProper (name : String) : Prop := isTrivial name = false ∧ name ≠ ".."

/-- What is known of a path whose last name is looked for in a directory. -/
structure Names (t : FileTree) (ps : List String) (dir : Place) (name : String) : Prop where
  usable : pathFault? ps = none
  pieces : ps = ps.dropLast ++ [name]
  directory : t.locateDirectory ps.dropLast = .ok dir
  proper : IsProper name
  short : isLong name = false

/-- Names are found in the directories in which they were found. -/
theorem Grows.names (grows : t.Grows t') {dir : Place} {name : String}
    (names : t.Names ps dir name) : t'.Names ps dir name :=
  { names with directory := grows.locateDirectory names.directory }

/-- A name leads to what stands there. -/
theorem Names.leads {dir : Place} {name : String} (names : t.Names ps dir name)
    (stands : (t.entryAt? (dir ++ [name])).isSome) : t.locatePath ps = .ok (dir ++ [name]) := by
  obtain ⟨-, leads, directory⟩ := locateDirectory_iff.1 names.directory
  refine locatePath_iff.2 ⟨names.usable, ?_⟩
  rw [names.pieces]
  refine locate_append_iff.2 ⟨dir, leads, locate_cons_iff.2 ⟨?_, ?_⟩⟩
  · exact ⟨directory, .inr (.inr ⟨names.short, stands⟩)⟩
  · rw [next, names.proper.1, if_neg Bool.false_ne_true, if_neg (by simp [names.proper.2]), locate]

/-- A directory that was made is new, and stands where its path leads. -/
theorem makeDirectory_eq_ok (made : t.makeDirectory ps = .ok t') :
    ∃ dir name, t.Names ps dir name ∧ t.entryAt? (dir ++ [name]) = none ∧
      t' = t.put (dir ++ [name]) .directory := by
  rw [makeDirectory] at made
  -- each check in turn: one that fails leaves nothing made
  cases last : ps.getLast? with
  | none => simp [last] at made
  | some name =>
    cases usable : pathFault? ps with
    | some e => simp [last, checkPath, usable, bind, Except.bind] at made
    | none =>
      cases found : t.locateDirectory ps.dropLast with
      | error e => simp [last, checkPath, usable, found, bind, Except.bind] at made
      | ok dir =>
        simp only [last, checkPath, usable, found, bind, Except.bind] at made
        split at made
        · cases made
        · rename_i proper
          split at made
          · cases made
          · rename_i short
            split at made
            · cases made
            · rename_i free
              simp only [Bool.or_eq_true, beq_iff_eq, not_or, Bool.not_eq_true] at proper
              refine ⟨dir, name, ⟨usable, ?_, found, proper, by simpa using short⟩,
                by simpa using free, (Except.ok.inj made).symm⟩
              exact (List.dropLast_append_getLast? name last).symm

/-- A directory is added when one is made. -/
theorem makeDirectory_adds (made : t.makeDirectory ps = .ok t') : t.AddsDirectories t' := by
  obtain ⟨dir, name, -, free, rfl⟩ := makeDirectory_eq_ok made
  exact addsDirectories_put free

/-- A directory that was made is there. -/
theorem leadsToDirectory_of_makeDirectory (made : t.makeDirectory ps = .ok t') :
    t'.leadsToDirectory ps = true := by
  have grows := (makeDirectory_adds made).grows
  obtain ⟨dir, name, names, -, rfl⟩ := makeDirectory_eq_ok made
  have stands := t.entryAt?_put_same (List.concat_ne_nil name dir) .directory
  have leads := (grows.names names).leads (Option.isSome_iff_exists.2 ⟨_, stands⟩)
  obtain ⟨usable, leads⟩ := locatePath_iff.1 leads
  exact leadsToDirectory_iff.2
    ⟨_, locateDirectory_iff.2 ⟨usable, leads, isDirectory_iff.2 stands⟩⟩

/-- A directory that is there is not made again. -/
theorem makeDirectory_of_leadsToDirectory {piece : String} (proper : isTrivial piece = false)
    (leads : t.leadsToDirectory (ps ++ [piece]) = true) :
    t.makeDirectory (ps ++ [piece]) = .error .alreadyExists := by
  obtain ⟨p, found⟩ := leadsToDirectory_iff.1 leads
  obtain ⟨usable, leads, -⟩ := locateDirectory_iff.1 found
  obtain ⟨dir, before, behind⟩ := locate_append_iff.1 leads
  obtain ⟨⟨directory, kind⟩, -⟩ := locate_cons_iff.1 behind
  have above : t.locateDirectory ps = .ok dir :=
    locateDirectory_iff.2 ⟨pathFault?_of_concat usable, before, directory⟩
  rw [proper] at kind
  simp only [makeDirectory, List.getLast?_concat, checkPath, usable, bind, Except.bind,
    List.dropLast_concat, above, proper, Bool.false_or]
  rcases kind with impossible | rfl | ⟨short, stands⟩
  · cases impossible
  · rfl
  · rw [short, stands]
    simp

/-- Directories that are there need not be made. -/
theorem makeDirectoriesFrom_of_leads {piece : String} {above : List String}
    (proper : isTrivial piece = false)
    (leads : t.leadsToDirectory (piece :: above).reverse = true) :
    t.makeDirectoriesFrom (piece :: above) = (t, none) := by
  have there : t.makeDirectory (piece :: above).reverse = .error .alreadyExists := by
    rw [List.reverse_cons] at leads ⊢
    exact makeDirectory_of_leadsToDirectory proper leads
  simp only [makeDirectoriesFrom, proper, there, leads, if_true]
  rfl

/-- What is known after directories were made: nothing else was done, and if all went well, making
them again changes nothing, however the tree has grown. The pieces of their path are given from the
last to the first. -/
structure Made (t : FileTree) (rev : List String) (made : FileTree × Option PathError) : Prop where
  adds : t.AddsDirectories made.1
  again : made.2 = none → ∀ t', made.1.Grows t' → t'.makeDirectoriesFrom rev = (t', none)

section Made

variable {piece : String} {above : List String} (proper : isTrivial piece = false)
  (adds : t.AddsDirectories t')

include proper adds

/-- The last directory is made when those above it are there. -/
theorem made_of_makeDirectory (made : t'.makeDirectory (piece :: above).reverse = .ok t'') :
    t.Made (piece :: above) (t'', none) :=
  ⟨adds.trans (makeDirectory_adds made), fun _ _ grows => makeDirectoriesFrom_of_leads proper
    (grows.leadsToDirectory (leadsToDirectory_of_makeDirectory made))⟩

/-- If it cannot be made, it may be there already. -/
theorem made_of_settled (e : PathError) :
    t.Made (piece :: above)
      (if t'.leadsToDirectory (piece :: above).reverse then (t', none) else (t', some e)) := by
  split
  · rename_i leads
    exact ⟨adds, fun _ _ grows =>
      makeDirectoriesFrom_of_leads proper (grows.leadsToDirectory leads)⟩
  · exact ⟨adds, fun done => nomatch done⟩

end Made

/-- Making directories adds directories, and all of them if it succeeds. -/
theorem makeDirectoriesFrom_made (t : FileTree) (rev : List String) :
    t.Made rev (t.makeDirectoriesFrom rev) := by
  fun_induction makeDirectoriesFrom t rev with
  | case1 => exact ⟨.refl t, fun _ _ _ => rfl⟩
  -- a piece that leads nowhere else is left out
  | case2 piece above trivial ih =>
    refine ⟨ih.adds, fun done t' grows => ?_⟩
    rw [makeDirectoriesFrom, if_pos trivial]
    exact ih.again done t' grows
  | case3 piece above proper ps t₁ made =>
    exact made_of_makeDirectory (Bool.eq_false_iff.2 proper) (.refl t) made
  -- a directory above is missing: it cannot be made, or it is made and the last one tried again
  | case4 piece above proper ps missing t₁ e failed ih =>
    rw [failed] at ih
    exact ⟨ih.adds, fun done => nomatch done⟩
  | case5 piece above proper ps missing t₁ done t₂ made ih =>
    rw [done] at ih
    exact made_of_makeDirectory (Bool.eq_false_iff.2 proper) ih.adds made
  | case6 piece above proper ps settle missing t₁ done e failed ih =>
    rw [done] at ih
    exact made_of_settled (Bool.eq_false_iff.2 proper) ih.adds e
  | case7 piece above proper ps settle e found failed =>
    exact made_of_settled (Bool.eq_false_iff.2 proper) (.refl t) e

end FileTree

end Logline
