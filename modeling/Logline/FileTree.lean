import Logline.Error

/-! # Log files

A **file tree** holds directories and files by the names on the way to them. Opening a log file
makes the directories on the way and the file itself, where they are missing, and what is written
goes to the end of the file.

* `FileTree.pathFault?` — what makes a path unusable whatever the tree holds
* `FileTree.locate` — where a path leads
* `FileTree.makeDirectories` — a directory with all directories above it
* `FileTree.openLog` — a log file
* `FileTree.append`, `FileTree.replace`, `FileTree.read?` — the contents of files
-/

namespace Logline

/-- Why a path cannot be used. -/
inductive PathError where
  | notFound
  | alreadyExists
  | notDirectory
  | isDirectory
  | nameTooLong
  | nulCharacter
  deriving DecidableEq, Repr

/-- What is wrong, in words. -/
def PathError.message : PathError → String
  | .notFound => "No such file or directory (os error 2)"
  | .alreadyExists => "File exists (os error 17)"
  | .notDirectory => "Not a directory (os error 20)"
  | .isDirectory => "Is a directory (os error 21)"
  | .nameTooLong => "File name too long (os error 36)"
  | .nulCharacter => "file name contained an unexpected NUL byte"

/-- A directory or a file with its contents. -/
inductive Entry where
  | directory
  | file (bytes : List UInt8)
  deriving DecidableEq, Repr

/-- The names on the way to a directory or file. -/
abbrev Place := List String

/-- Directories and files. The place without names is a directory that is always there. -/
structure FileTree where
  entries : List (Place × Entry)
  deriving Repr

namespace FileTree

/-- What stands at a place. -/
def entryAt? (t : FileTree) (p : Place) : Option Entry :=
  if p.isEmpty then some .directory else t.entries.lookup p

/-- Whether a directory stands at a place. -/
def isDirectory (t : FileTree) (p : Place) : Bool := t.entryAt? p == some .directory

/-- Puts something at a place. -/
def put (t : FileTree) (p : Place) (e : Entry) : FileTree :=
  ⟨(p, e) :: t.entries.filter fun x => x.1 != p⟩

/-- The pieces of a path between its slashes. -/
def pieces (path : String) : List String := (path.toList.splitOnP (· == '/')).map String.ofList

/-- A path from its pieces. -/
def pathText (pieces : List String) : String := "/".intercalate pieces

/-- A place as a path from the top, which is what a file is known by. -/
def placeText (p : Place) : String := pathText ("" :: p)

/-- The most bytes that a name may have in UTF-8. -/
def maxNameBytes : Nat := 255

/-- The most bytes that a path may have in UTF-8. -/
def maxPathBytes : Nat := 4095

/-- Whether a name has too many bytes. -/
def isLong (name : String) : Bool := maxNameBytes < name.utf8ByteSize

/-- What is wrong with a path as a whole, before anything is looked up: NUL ends a path and cannot
be part of it, and there is a limit to its length. -/
def pathFault? (ps : List String) : Option PathError :=
  if ps.any (·.contains '\x00') then some .nulCharacter
  else if maxPathBytes < (pathText ps).utf8ByteSize then some .nameTooLong
  else none

/-- The error of a path that is unusable as a whole. -/
def checkPath (ps : List String) : Except PathError Unit :=
  match pathFault? ps with
  | some e => .error e
  | none => .ok ()

/-- Whether a piece leads nowhere else. -/
def isTrivial (piece : String) : Bool := piece == "" || piece == "."

/-- Where pieces lead from a place. -/
def locate (t : FileTree) (here : Place) : List String → Except PathError Place
  | [] => .ok here
  | piece :: rest =>
    if !t.isDirectory here then .error .notDirectory
    else if isTrivial piece then t.locate here rest
    else if piece == ".." then t.locate here.dropLast rest
    else if isLong piece then .error .nameTooLong
    else if (t.entryAt? (here ++ [piece])).isSome then t.locate (here ++ [piece]) rest
    else .error .notFound

/-- Where a path leads from the top. -/
def locatePath (t : FileTree) (ps : List String) : Except PathError Place := do
  checkPath ps
  t.locate [] ps

/-- The directory to which a path leads. -/
def locateDirectory (t : FileTree) (ps : List String) : Except PathError Place := do
  let p ← t.locatePath ps
  if t.isDirectory p then .ok p else .error .notDirectory

/-- Whether a path leads to a directory. -/
def leadsToDirectory (t : FileTree) (ps : List String) : Bool :=
  (t.locateDirectory ps).toOption.isSome

/-- Makes one directory. -/
def makeDirectory (t : FileTree) (ps : List String) : Except PathError FileTree :=
  match ps.getLast? with
  | none => .error .alreadyExists
  | some name => do
    checkPath ps
    let above ← t.locateDirectory ps.dropLast
    if isTrivial name || name == ".." then .error .alreadyExists
    else if isLong name then .error .nameTooLong
    else if (t.entryAt? (above ++ [name])).isSome then .error .alreadyExists
    else .ok (t.put (above ++ [name]) .directory)

/-- Makes a directory, where it is missing, after the directories above it. The pieces of its path
are given from the last to the first; the tree keeps what was made before a failure. -/
def makeDirectoriesFrom (t : FileTree) : List String → FileTree × Option PathError
  | [] => (t, none)
  | piece :: above =>
    if isTrivial piece then t.makeDirectoriesFrom above
    else
      let ps := (piece :: above).reverse
      let settle (t : FileTree) (e : PathError) : FileTree × Option PathError :=
        if t.leadsToDirectory ps then (t, none) else (t, some e)
      match t.makeDirectory ps with
      | .ok t => (t, none)
      -- a directory above it is missing: make that first, and try again
      | .error .notFound =>
        match t.makeDirectoriesFrom above with
        | (t, some e) => (t, some e)
        | (t, none) =>
          match t.makeDirectory ps with
          | .ok t => (t, none)
          | .error e => settle t e
      | .error e => settle t e

/-- Makes a directory with all directories above it, where they are missing. -/
def makeDirectories (t : FileTree) (ps : List String) : FileTree × Option PathError :=
  t.makeDirectoriesFrom ps.reverse

/-- The pieces of a path without its last name. -/
def above (ps : List String) : List String :=
  ((ps.reverse.dropWhile isTrivial).drop 1 |>.dropWhile isTrivial).reverse

/-- The place of a file, which is made where it is missing. A path with a slash at its end means a
directory. -/
def openFile (t : FileTree) (ps : List String) : Except PathError (FileTree × Place) := do
  let slash := ps.getLast? == some ""
  let named := (ps.reverse.dropWhile (· == "")).reverse
  match named.getLast? with
  | none => .error .isDirectory
  | some name => do
    checkPath ps
    let dir ← t.locateDirectory named.dropLast
    if isTrivial name || name == ".." || slash then .error .isDirectory
    else if isLong name then .error .nameTooLong
    else
      let p := dir ++ [name]
      match t.entryAt? p with
      | some .directory => .error .isDirectory
      | some (.file _) => .ok (t, p)
      | none => .ok (t.put p (.file []), p)

/-- The error of a log file that cannot be opened. -/
def openError (what path : String) (e : PathError) : Error :=
  ((Error.ofMessage what).withDetail "path" path).withCause (.text e.message)

/-- Opens a log file; the directories above it and the file itself are made where they are missing.
The answer is the place of the file. -/
def openLog (t : FileTree) (path : String) : FileTree × Except Error Place :=
  let ps := pieces path
  let dir := above ps
  match t.makeDirectories dir with
  | (t, some e) => (t, .error (openError "failed to create log directory" (pathText dir) e))
  | (t, none) =>
    match t.openFile ps with
    | .ok (t, p) => (t, .ok p)
    | .error e => (t, .error (openError "failed to open log file" path e))

/-- Adds bytes at the end of a file. -/
def append (t : FileTree) (p : Place) (bytes : List UInt8) : FileTree :=
  match t.entryAt? p with
  | some (.file old) => t.put p (.file (old ++ bytes))
  | _ => t

/-- Gives a file new contents; the directory above it has to exist. -/
def replace (t : FileTree) (path : String) (bytes : List UInt8) : FileTree :=
  match t.openFile (pieces path) with
  | .ok (t, p) => t.put p (.file bytes)
  | .error _ => t

/-- The contents of a file. -/
def read? (t : FileTree) (path : String) : Option (List UInt8) :=
  match t.locatePath (pieces path) with
  | .ok p =>
    match t.entryAt? p with
    | some (.file bytes) => some bytes
    | _ => none
  | .error _ => none

end FileTree

end Logline
