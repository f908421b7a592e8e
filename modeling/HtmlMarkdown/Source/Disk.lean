import HtmlMarkdown.Error
import HtmlMarkdown.Text.Utf8

/-!
# Files and directories

* `Disk`: what is known of the files, by location; `Disk.find?`, `Disk.put`;
* `Disk.locate`: the location that a path leads to;
* `Disk.isFile`, `Disk.isDirectory`, `Disk.readBytes`, `Disk.writeFile`: files by path;
* `Disk.makeDirectory`, `Disk.makeDirectories`: directories by path;
* `Disk.changes`: the files that one disk has and another has not; `Disk.relativePath?`.
-/

namespace HtmlMarkdown

/-! ## Entries by location -/

/-- A file or a directory. -/
inductive DiskEntry
  | file (bytes : List UInt8)
  | directory
  deriving DecidableEq

/-- A location: the names that lead to it from the topmost directory, the innermost first. -/
abbrev Location := List Text

/-- What is known of the files: entries by location, the latest first, and the directory that
relative paths begin at. This one is always there, and so are the directories that it lies in.
Unless told otherwise its name is empty, so that no path spells it. -/
structure Disk where
  entries : List (Location × DiskEntry) := []
  start : Location := [[]]

/-- The greatest number of bytes in one name of a path. -/
def longestName : Nat := 255

/-- The name is longer than a name on a disk can be. -/
def isTooLong (name : Text) : Bool := longestName < (Utf8.encode name).length

namespace Disk

/-- What is at a location. -/
def find? (d : Disk) (location : Location) : Option DiskEntry :=
  match d.entries.lookup location with
  | some entry => some entry
  | none => if location.isSuffixOf d.start then some .directory else none

/-- The disk with something put at a location. -/
def put (d : Disk) (location : Location) (entry : DiskEntry) : Disk :=
  { d with entries := (location, entry) :: d.entries.filter fun e => e.1 != location }

theorem find?_put_self (d : Disk) (location : Location) (entry : DiskEntry) :
    (d.put location entry).find? location = some entry := by
  simp [find?, put]

/-! ## From paths to locations -/

/-- The location that names lead to from a location, every name but the last being one of a
directory. -/
def follow (d : Disk) (location : Location) : (names : List Text) → Except FileProblem Location
  | [] => .ok location
  | name :: names =>
    match d.find? location with
    | none => .error .missing
    | some (.file _) => .error .notDirectory
    | some .directory =>
      if isTooLong name then .error .nameTooLong
      else if name.isEmpty || name = ['.'] then d.follow location names
      else if name = ['.', '.'] then d.follow (location.drop 1) names
      else d.follow (name :: location) names

/-- The location that a path leads to. -/
def locate (d : Disk) (path : Text) : Except FileProblem Location :=
  match path with
  | [] => .error .missing
  | '/' :: rest => d.follow [] (Text.split (· == '/') rest)
  | path => d.follow d.start (Text.split (· == '/') path)

/-- What a path leads to. -/
def entry (d : Disk) (path : Text) : Except FileProblem DiskEntry := do
  match d.find? (← d.locate path) with
  | some entry => .ok entry
  | none => .error .missing

/-! ## Reading and writing files -/

/-- The path leads to a file. -/
def isFile (d : Disk) (path : Text) : Bool :=
  match d.entry path with
  | .ok (.file _) => !path.elem (Char.ofNat 0)
  | _ => false

/-- The path leads to a directory. -/
def isDirectory (d : Disk) (path : Text) : Bool :=
  match d.entry path with
  | .ok .directory => !path.elem (Char.ofNat 0)
  | _ => false

/-- The path leads to a file or a directory. -/
def isThere (d : Disk) (path : Text) : Bool := d.isFile path || d.isDirectory path

/-- The bytes of a file. -/
def readBytes (d : Disk) (path : Text) : Except FileProblem (List UInt8) := do
  match ← d.entry path with
  | .file bytes => .ok bytes
  | .directory => .error .isDirectory

/-- The disk with the bytes of a file set. -/
def writeFile (d : Disk) (path : Text) (bytes : List UInt8) : Except FileProblem Disk := do
  let location ← d.locate path
  match d.find? location with
  | some .directory => .error .isDirectory
  | some (.file _) => .ok (d.put location (.file bytes))
  | none =>
    match d.find? (location.drop 1) with
    | some .directory => .ok (d.put location (.file bytes))
    | some (.file _) => .error .notDirectory
    | none => .error .missing

/-! ## Making directories -/

/-- A path without the slashes at its end. -/
def dropSlashes (path : Text) : Text := Text.trimEnd (· == '/') path

/-- The disk with one more directory, in a directory that is there. -/
def makeDirectory (d : Disk) (path : Text) : Except FileProblem Disk := do
  let location ← d.locate (if (dropSlashes path).isEmpty then path else dropSlashes path)
  match d.find? location with
  | some _ => .error .exists
  | none =>
    match d.find? (location.drop 1) with
    | some .directory => .ok (d.put location .directory)
    | some (.file _) => .error .notDirectory
    | none => .error .missing

/-- A path up to its last slash, and the name behind it. Other slashes at the end of the first part
are left out, unless nothing else is in it. -/
def splitPath (path : Text) : Text × Text :=
  let (name, before) := path.reverse.span (· != '/')
  let head := before.reverse
  (if (dropSlashes head).isEmpty then head else dropSlashes head, name.reverse)

/-- The directory around a path and the name in it, one slash at the end of the path apart. -/
def parentAndName (path : Text) : Text × Text :=
  match splitPath path with
  | (head, []) => splitPath head
  | parts => parts

/-- The disk with a directory and all directories on the way to it, where they are not there; an
error comes with the path that it is about. At most `fuel` directories lie on the way. -/
def makeDirectoriesWith : (fuel : Nat) → Disk → Text → Except (FileProblem × Text) Disk
  | 0, d, _ => .ok d
  | fuel + 1, d, path =>
    let (head, name) := parentAndName path
    let make (d : Disk) : Except (FileProblem × Text) Disk :=
      match d.makeDirectory path with
      | .ok d => .ok d
      | .error problem => if d.isDirectory path then .ok d else .error (problem, path)
    if !head.isEmpty && !name.isEmpty && !d.isThere head then
      match makeDirectoriesWith fuel d head with
      | .ok d => if name = ['.'] then .ok d else make d
      | .error (.exists, _) => if name = ['.'] then .ok d else make d
      | .error e => .error e
    else make d

/-- The disk with a directory and all directories on the way to it. -/
def makeDirectories (d : Disk) (path : Text) : Except (FileProblem × Text) Disk :=
  makeDirectoriesWith (path.length + 1) d path

/-! ## Comparing disks -/

/-- The path from one location to another inside it. -/
def relativePath? (start : Location) : Location → Option Text
  | [] => if start.isEmpty then some [] else none
  | name :: outer =>
    if name :: outer = start then some []
    else (relativePath? start outer).map fun path =>
      if path.isEmpty then name else path ++ '/' :: name

/-- The files that a disk has and `old` has not, or with other bytes, by location. -/
def changes (d old : Disk) : List (Location × List UInt8) :=
  d.entries.filterMap fun (location, entry) =>
    match entry with
    | .directory => none
    | .file bytes =>
      if old.find? location = some (.file bytes) then none else some (location, bytes)

end Disk

end HtmlMarkdown
