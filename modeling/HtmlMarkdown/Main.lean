import HtmlMarkdown.Command.Run

/-!
# The program

The files that a command line names are looked up first, then the command line runs on what was
found, and the files that it changed are written. There is no way to the web: no page is found.

* `main`.
-/

namespace HtmlMarkdown.Program

/-- The parts of a path that end at a slash or at its end, the shortest first. -/
def pathStarts (path : Text) : List Text :=
  (List.range (path.length + 1)).filterMap fun n =>
    if n = path.length || path[n]? = some '/' then
      if n = 0 then none else some (path.take n)
    else none

/-- The paths that a command line may read or write. -/
def namedPaths (a : Arguments) : List Text :=
  let sources := a.sources.map (Text.trim isBlank)
  match a.output with
  | some (c :: directory) =>
    let results := a.sources.filterMap fun source =>
      match markdownFileName source with
      | .ok name => some (joinPath (c :: directory) name)
      | .error _ => none
    sources ++ (c :: directory) :: results
  | _ => sources

/-- The disk with what is really at a path, the directories on the way to it being known. -/
def lookUp (d : Disk) (path : Text) : IO Disk := do
  match d.locate path with
  | .error _ => return d
  | .ok location =>
    if (d.find? location).isSome then return d
    try
      let bytes ← IO.FS.readBinFile (String.ofList path)
      return d.put location (.file bytes.toList)
    catch
      | .inappropriateType .. => return d.put location .directory
      | _ => return d

/-- The path of a location from the topmost directory on. -/
def absolutePath (location : Location) : String :=
  String.ofList ('/' :: Text.join ['/'] location.reverse)

/-- Write what has changed on a disk. -/
def writeBack (now before : Disk) : IO Unit := do
  for (location, entry) in now.entries.reverse do
    if entry = .directory && before.find? location ≠ some .directory then
      IO.FS.createDirAll (absolutePath location)
  for (location, bytes) in now.changes before do
    IO.FS.writeBinFile (absolutePath location) ⟨bytes.toArray⟩

/-- Run a command line on the files that it names. -/
def run (argv : List Text) : IO UInt32 := do
  let here ← IO.currentDir
  let names := (Text.split (· == '/') here.toString.toList).filter fun name => !name.isEmpty
  let empty : Disk := { start := names.reverse }
  let paths := match parseArguments argv with
    | .ok a => (namedPaths a).flatMap pathStarts
    | .error _ => []
  let disk ← paths.foldlM lookUp empty
  let desk : Desk := { disk, web := fun _ => .refused "no route".toList }
  let (result, after) := match (runCommand argv).run desk with
    | .ok exit desk => (Except.ok exit, desk)
    | .error e desk => (Except.error e, desk)
  writeBack after.disk disk
  IO.print (String.ofList after.output)
  IO.eprint (String.ofList after.log)
  match result with
  | .ok exit => return UInt32.ofNat exit.status
  | .error e =>
    IO.eprintln (String.ofList (e.message.getD "the markup cannot be read".toList))
    return 1

end HtmlMarkdown.Program

/-- The command line. -/
def main (args : List String) : IO UInt32 := HtmlMarkdown.Program.run (args.map String.toList)
