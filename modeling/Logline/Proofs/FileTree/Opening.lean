import Logline.Proofs.FileTree.Growth
import Logline.Sink
import Mathlib.Data.List.DropRight

/-! # Log files that are opened

A log file that is opened has what it had, or is new and empty. What is written to it goes to its
end, nothing else changes, and the path with which it was opened leads to it for good: whatever has
been opened and written in between, opening that path again leads to the same file.

* `FileTree.openLog_grows` — opening a log file takes nothing away, even where it fails
* `FileTree.openLog_again` — the same path opens the same file
* `FileTree.read?_written` — a log file holds what it had and what was written to it
* `FileTree.same_path_iff` — log files of one identity are one file -/

namespace Logline.FileTree

variable {t t' t'' : FileTree} {ps : List String} {p q dir : Place} {name path : String}

/-! ## One file -/

/-- What stands at a place after a file was opened there: the file that was there, or a new one. -/
def OpensAt (t t' : FileTree) (p : Place) : Prop :=
  (∃ bytes, t.entryAt? p = some (.file bytes)) ∧ t' = t ∨
    t.entryAt? p = none ∧ t' = t.put p (.file [])

/-- A path without a slash at its end is not cut. -/
theorem dropSlashes_eq_self (no_slash : (ps.getLast? == some "") = false) :
    (ps.reverse.dropWhile (· == "")).reverse = ps := by
  refine List.rdropWhile_eq_self_iff.2 fun nonempty empty => ?_
  rw [List.getLast?_eq_some_getLast nonempty, beq_iff_eq.1 empty] at no_slash
  cases no_slash

/-- A file that was opened stands where its path leads. -/
theorem openFile_eq_ok (opened : t.openFile ps = .ok (t', p)) :
    ∃ dir name, t.Names ps dir name ∧ p = dir ++ [name] ∧ t.OpensAt t' p := by
  simp only [openFile] at opened
  split at opened
  · cases opened
  · rename_i name last
    -- each check in turn: one that fails leaves nothing opened
    cases usable : pathFault? ps with
    | some e => simp [checkPath, usable, bind, Except.bind] at opened
    | none =>
      cases found : t.locateDirectory (ps.reverse.dropWhile (· == "")).reverse.dropLast with
      | error e =>
        simp only [checkPath, usable, found, bind, Except.bind] at opened
        cases opened
      | ok dir =>
        simp only [checkPath, usable, found, bind, Except.bind] at opened
        split at opened
        · cases opened
        · rename_i proper
          split at opened
          · cases opened
          · rename_i short
            simp only [Bool.or_eq_true, not_or, Bool.not_eq_true] at proper
            obtain ⟨⟨nontrivial, up⟩, no_slash⟩ := proper
            -- all checks have passed, so nothing was cut off the end of the path
            rw [dropSlashes_eq_self no_slash] at last found
            refine ⟨dir, name, ⟨usable, (List.dropLast_append_getLast? name last).symm, found,
              ⟨nontrivial, by simpa using up⟩, by simpa using short⟩, ?_⟩
            cases stands : t.entryAt? (dir ++ [name]) with
            | none =>
              rw [stands] at opened
              cases opened
              exact ⟨rfl, .inr ⟨stands, rfl⟩⟩
            | some e =>
              cases e with
              | directory => simp [stands] at opened
              | file bytes =>
                rw [stands] at opened
                cases opened
                exact ⟨rfl, .inl ⟨⟨bytes, stands⟩, rfl⟩⟩

/-- A file that is there can be opened. -/
theorem openFile_of_names (names : t.Names ps dir name) {bytes : List UInt8}
    (stands : t.entryAt? (dir ++ [name]) = some (.file bytes)) :
    t.openFile ps = .ok (t, dir ++ [name]) := by
  have last : ps.getLast? = some name := by
    rw [names.pieces, List.getLast?_concat]
  have no_slash : (ps.getLast? == some "") = false := by
    rw [last]
    have trivial := names.proper.1
    rw [isTrivial, Bool.or_eq_false_iff] at trivial
    simpa using trivial.1
  rw [openFile, dropSlashes_eq_self no_slash, no_slash]
  simp [last, checkPath, names.usable, names.directory, names.proper.1, names.proper.2,
    names.short, stands, bind, Except.bind]

/-- Opening a file takes nothing away. -/
theorem OpensAt.grows (opens : t.OpensAt t' p) : t.Grows t' := by
  rcases opens with ⟨-, rfl⟩ | ⟨free, rfl⟩
  · exact .refl t'
  · exact grows_put free _

/-- A file that was opened has what it had, or nothing if it is new. -/
theorem OpensAt.entryAt? (opens : t.OpensAt t' p) :
    ∃ bytes, t'.entryAt? p = some (.file bytes) ∧
      (t.entryAt? p = some (.file bytes) ∨ t.entryAt? p = none ∧ bytes = []) := by
  rcases opens with ⟨⟨bytes, stands⟩, rfl⟩ | ⟨free, rfl⟩
  · exact ⟨bytes, stands, .inl stands⟩
  · have named : p ≠ [] := by
      rintro rfl
      cases free
    exact ⟨[], t.entryAt?_put_same named _, .inr ⟨free, rfl⟩⟩

/-! ## Log files -/

/-- A log file is opened when its directories were made. -/
theorem openLog_eq_ok (opened : t.openLog path = (t', .ok p)) :
    ∃ t₁, t.makeDirectories (above (pieces path)) = (t₁, none) ∧
      t₁.openFile (pieces path) = .ok (t', p) := by
  simp only [openLog] at opened
  split at opened
  · cases opened
  · rename_i t₁ made
    split at opened
    · rename_i t₂ p₂ file
      cases opened
      exact ⟨t₁, made, file⟩
    · cases opened

/-- **Opening takes nothing away.** Whether a log file can be opened or not, what stood somewhere
stands there still. -/
theorem openLog_grows (t : FileTree) (path : String) : t.Grows (t.openLog path).1 := by
  have made := makeDirectoriesFrom_made t (above (pieces path)).reverse
  rw [← makeDirectories] at made
  simp only [openLog]
  split
  · rename_i t₁ e failed
    rw [failed] at made
    exact made.adds.grows
  · rename_i t₁ done
    rw [done] at made
    split
    · rename_i t₂ p file
      obtain ⟨-, -, -, -, opens⟩ := openFile_eq_ok file
      exact made.adds.grows.trans opens.grows
    · exact made.adds.grows

/-- **The same file.** A path with which a log file was opened opens that file for good, and changes
nothing by it, however the tree has grown. -/
theorem openLog_again (opened : t.openLog path = (t', .ok p)) (grows : t'.Grows t'') :
    t''.openLog path = (t'', .ok p) := by
  obtain ⟨t₁, done, file⟩ := openLog_eq_ok opened
  obtain ⟨dir, name, names, rfl, opens⟩ := openFile_eq_ok file
  have made := makeDirectoriesFrom_made t (above (pieces path)).reverse
  rw [← makeDirectories, done] at made
  have later := opens.grows.trans grows
  have again : t''.makeDirectories (above (pieces path)) = (t'', none) :=
    made.again rfl t'' later
  obtain ⟨bytes, stands, -⟩ := opens.entryAt?
  obtain ⟨_, stands', more, rfl⟩ := grows _ _ stands
  simp only [openLog, again, openFile_of_names (later.names names) stands']

/-- A log file that was opened has what it had, or nothing if it is new. -/
theorem entryAt?_opened (opened : t.openLog path = (t', .ok p)) :
    ∃ bytes, t'.entryAt? p = some (.file bytes) ∧
      (t.entryAt? p = some (.file bytes) ∨ t.entryAt? p = none ∧ bytes = []) := by
  obtain ⟨t₁, done, file⟩ := openLog_eq_ok opened
  obtain ⟨-, -, -, -, opens⟩ := openFile_eq_ok file
  have made := makeDirectoriesFrom_made t (above (pieces path)).reverse
  rw [← makeDirectories, done] at made
  obtain ⟨bytes, stands, before⟩ := opens.entryAt?
  refine ⟨bytes, stands, ?_⟩
  -- the directories that were made have no contents, and nothing stood where they stand
  rcases made.adds p with same | ⟨free, new⟩
  · rwa [same] at before
  · rw [new] at before
    rcases before with impossible | ⟨impossible, -⟩
    · cases impossible
    · cases impossible

/-- The path of a log file leads to it for good. -/
theorem read?_opened (opened : t.openLog path = (t', .ok p)) (grows : t'.Grows t'') :
    ∃ bytes, t''.entryAt? p = some (.file bytes) ∧ t''.read? path = some bytes := by
  obtain ⟨t₁, done, file⟩ := openLog_eq_ok opened
  obtain ⟨dir, name, names, rfl, opens⟩ := openFile_eq_ok file
  obtain ⟨bytes, stands, -⟩ := opens.entryAt?
  obtain ⟨_, stands', more, rfl⟩ := grows _ _ stands
  have leads := ((opens.grows.trans grows).names names).leads
    (Option.isSome_iff_exists.2 ⟨_, stands'⟩)
  refine ⟨bytes ++ more, stands', ?_⟩
  rw [read?, leads]
  simp only [stands']

/-! ## Writing -/

/-- A file after something was written to its end. -/
theorem entryAt?_append_same {bytes : List UInt8} (stands : t.entryAt? p = some (.file bytes))
    (more : List UInt8) : (t.append p more).entryAt? p = some (.file (bytes ++ more)) := by
  have named : p ≠ [] := by
    rintro rfl
    cases stands
  simp only [append, stands, entryAt?_put_same t named]

/-- Other files are as they were. -/
theorem entryAt?_append_of_ne (t : FileTree) (more : List UInt8) (other : q ≠ p) :
    (t.append p more).entryAt? q = t.entryAt? q := by
  rw [append]
  split
  · exact t.entryAt?_put_of_ne _ other
  · rfl

/-- Writing to the end of a file takes nothing away. -/
theorem append_grows (t : FileTree) (p : Place) (more : List UInt8) :
    t.Grows (t.append p more) := by
  intro q e stands
  by_cases same : q = p
  · subst same
    cases e with
    | directory => exact ⟨.directory, by rw [append, stands, stands], rfl⟩
    | file bytes => exact ⟨_, entryAt?_append_same stands more, more, rfl⟩
  · exact ⟨e, (t.entryAt?_append_of_ne more same).trans stands, e.growsTo_refl⟩

/-- A file after a number of records. -/
theorem entryAt?_appendAll {bytes : List UInt8} (stands : t.entryAt? p = some (.file bytes))
    (records : List (List UInt8)) :
    (records.foldl (·.append p ·) t).entryAt? p = some (.file (bytes ++ records.flatten)) := by
  induction records generalizing t bytes with
  | nil => simpa using stands
  | cons record records ih =>
    rw [List.foldl_cons, ih (entryAt?_append_same stands record), List.flatten_cons,
      List.append_assoc]

/-- Other files after a number of records. -/
theorem entryAt?_appendAll_of_ne (t : FileTree) (records : List (List UInt8)) (other : q ≠ p) :
    (records.foldl (·.append p ·) t).entryAt? q = t.entryAt? q := by
  induction records generalizing t with
  | nil => rfl
  | cons record records ih => exact (ih _).trans (t.entryAt?_append_of_ne record other)

/-- A number of records takes nothing away. -/
theorem appendAll_grows (t : FileTree) (p : Place) (records : List (List UInt8)) :
    t.Grows (records.foldl (·.append p ·) t) := by
  induction records generalizing t with
  | nil => exact .refl t
  | cons record records ih => exact (t.append_grows p record).trans (ih _)

/-- **What a log file holds.** A log file that was opened and written to holds what it held before,
or nothing if it is new, and then the records one after the other. Its path reads and opens that
file, and what stands elsewhere is left alone. -/
theorem read?_written (opened : t.openLog path = (t', .ok p)) (records : List (List UInt8)) :
    let t'' := records.foldl (·.append p ·) t'
    ∃ before, (t.entryAt? p = some (.file before) ∨ t.entryAt? p = none ∧ before = []) ∧
      t''.read? path = some (before ++ records.flatten) ∧ t''.openLog path = (t'', .ok p) ∧
      ∀ q, q ≠ p → t''.entryAt? q = t'.entryAt? q := by
  intro t''
  have grows : t'.Grows t'' := appendAll_grows t' p records
  obtain ⟨before, stands, from_before⟩ := entryAt?_opened opened
  obtain ⟨bytes, stands', read⟩ := read?_opened opened grows
  have written : t''.entryAt? p = some (.file (before ++ records.flatten)) :=
    entryAt?_appendAll stands records
  rw [written] at stands'
  cases stands'
  exact ⟨before, from_before, read, openLog_again opened grows,
    fun q other => entryAt?_appendAll_of_ne t' records other⟩

/-! ## Identities -/

/-- Names that lead somewhere. -/
def Named (p : Place) : Prop := p ≠ [] ∧ ∀ name ∈ p, IsProper name ∧ '/' ∉ name.toList

/-- The place to which pieces without slashes lead has no slashes in its names. -/
theorem proper_of_locate {here : Place} (leads : t.locate here ps = .ok p)
    (no_slash : ∀ piece ∈ ps, '/' ∉ piece.toList)
    (before : ∀ name ∈ here, IsProper name ∧ '/' ∉ name.toList) :
    ∀ name ∈ p, IsProper name ∧ '/' ∉ name.toList := by
  induction ps generalizing here with
  | nil =>
    cases leads
    exact before
  | cons piece ps ih =>
    obtain ⟨-, rest⟩ := locate_cons_iff.1 leads
    refine ih rest (fun piece mem => no_slash piece (List.mem_cons_of_mem _ mem)) ?_
    rw [next]
    split
    · exact before
    · rename_i nontrivial
      split
      · exact fun name mem => before name (List.mem_of_mem_dropLast mem)
      · rename_i up
        intro name mem
        rcases List.mem_append.1 mem with mem | mem
        · exact before name mem
        · rw [List.mem_singleton.1 mem]
          exact ⟨⟨by simpa using nontrivial, by simpa using up⟩, no_slash _ List.mem_cons_self⟩

/-- The parts of a list have none of the elements at which it is split. -/
private theorem notMem_of_mem_splitOnP {cs part : List Char} (mem : part ∈ cs.splitOnP (· == '/')) :
    '/' ∉ part := by
  induction cs generalizing part with
  | nil =>
    rw [List.splitOnP_nil, List.mem_singleton] at mem
    simp [mem]
  | cons c cs ih =>
    rw [List.splitOnP_cons_eq_if_modifyHead] at mem
    split at mem
    · rcases List.mem_cons.1 mem with rfl | mem
      · exact List.not_mem_nil
      · exact ih mem
    · rename_i other
      -- the first part becomes longer by the character, the others stay
      cases parts : cs.splitOnP (· == '/') with
      | nil =>
        rw [parts] at mem
        cases mem
      | cons first rest =>
        rw [parts, List.modifyHead_cons] at mem
        rcases List.mem_cons.1 mem with rfl | mem
        · have ends := ih (parts ▸ List.mem_cons_self)
          simp only [beq_iff_eq] at other
          exact List.not_mem_cons_of_ne_of_not_mem (Ne.symm other) ends
        · exact ih (parts ▸ List.mem_cons_of_mem _ mem)

/-- The pieces of a path have no slashes. -/
theorem slash_notMem_of_mem_pieces {path piece : String} (mem : piece ∈ pieces path) :
    '/' ∉ piece.toList := by
  obtain ⟨part, among, rfl⟩ := List.mem_map.1 mem
  rw [String.toList_ofList]
  exact notMem_of_mem_splitOnP among

/-- A log file that was opened has a place with names. -/
theorem named_opened (opened : t.openLog path = (t', .ok p)) : Named p := by
  obtain ⟨t₁, -, file⟩ := openLog_eq_ok opened
  obtain ⟨dir, name, names, rfl, -⟩ := openFile_eq_ok file
  obtain ⟨-, leads, -⟩ := locateDirectory_iff.1 names.directory
  have no_slash : ∀ piece ∈ pieces path, '/' ∉ piece.toList :=
    fun _ => slash_notMem_of_mem_pieces
  rw [names.pieces] at no_slash
  have above := proper_of_locate leads
    (fun piece mem => no_slash piece (List.mem_append_left _ mem)) (fun _ mem => nomatch mem)
  refine ⟨List.concat_ne_nil name dir, fun other mem => ?_⟩
  rcases List.mem_append.1 mem with mem | mem
  · exact above other mem
  · rw [List.mem_singleton.1 mem]
    exact ⟨names.proper, no_slash name (List.mem_append_right _ List.mem_cons_self)⟩

/-- A place with names is read off its path. -/
theorem pathNames_placeText (named : Named p) : pathNames (placeText p) = "/" :: p := by
  obtain ⟨nonempty, names⟩ := named
  have split : ((placeText p).toList.splitOnP (· == '/')).map String.ofList = "" :: p := by
    have no_slash : ∀ cs ∈ ("" :: p).map String.toList, '/' ∉ cs := by
      intro cs among
      obtain ⟨name, mem, rfl⟩ := List.mem_map.1 among
      rcases List.mem_cons.1 mem with rfl | mem
      · exact List.not_mem_nil
      · exact (names name mem).2
    rw [← List.splitOn_eq_splitOnP, placeText, pathText, String.toList_intercalate,
      show "/".toList = ['/'] from rfl, List.splitOn_intercalate '/' no_slash (by simp),
      List.map_map]
    simp
  have kept : p.filter (fun name => name != "" && name != ".") = p := by
    refine List.filter_eq_self.2 fun name mem => ?_
    have nontrivial := (names name mem).1.1
    rw [isTrivial, Bool.or_eq_false_iff] at nontrivial
    simpa using nontrivial
  rw [pathNames, split]
  simp [kept, nonempty]

/-- **One file, one identity.** Two log files have one identity if and only if they are one file. -/
theorem same_path_iff {u u' : FileTree} {path' : String}
    (opened : t.openLog path = (t', .ok p)) (opened' : u.openLog path' = (u', .ok q)) :
    (SinkId.path (placeText p)).same (.path (placeText q)) = true ↔ p = q := by
  rw [SinkId.same, pathNames_placeText (named_opened opened),
    pathNames_placeText (named_opened opened'), beq_iff_eq, List.cons.injEq]
  simp only [true_and]

end Logline.FileTree
