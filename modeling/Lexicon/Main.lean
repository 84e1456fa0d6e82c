import Lexicon.Command.Display
import Lexicon.Command.Execute

/-!
# Lexicon — the program

The command line on the files of a disk. What a command needs of them is looked up before,
and what it leaves behind is written afterwards; all else is done by `Command.run`.
Addresses on the web are not reached.
-/

namespace Lexicon.Disk

open Lexicon.Source

/-- The number of the fault that a directory is read as a file. -/
def directoryCode : UInt32 := 21

/-- What lies at a path. -/
def lookUp (path : String) : IO (Option Entry) := do
  try
    let bytes ← IO.FS.readBinFile path
    return some (.file bytes.toList)
  catch
    | .inappropriateType _ code _ =>
      return if code == directoryCode then some .directory else none
    | _ => return none

/-- Adds to a tree what lies at a path. -/
def add (tree : Tree) (path : String) : IO Tree := do
  match ← lookUp path with
  | some entry => return tree.provide (.read path) entry
  | none => return tree

/-- Adds to a tree what lies at a path, and the directory of it. -/
def addWithParent (tree : Tree) (path : String) : IO Tree := do
  let location := Location.read path
  let parent := { location with segments := location.segments.dropLast }
  add (← add tree parent.text) path

/-- The bytes of a stream. -/
partial def readAll (stream : IO.FS.Stream) (before : ByteArray) : IO ByteArray := do
  let more ← stream.read 65536
  if more.isEmpty then return before else readAll stream (before ++ more)

/-- The file that a request has text written to. -/
def target? (tree : Tree) (request : Command.Request) : Option String :=
  let file := request.settingsFile.bind Settings.fileNamed
  match Settings.load tree Generator.language file (.mapping (Command.changes request)) with
  | .ok settings =>
    match settings.outputFile with
    | .text path => Command.givenText (some path)
    | _ => none
  | .error _ => none

/-- What a request needs to know of the surroundings. -/
def world (request : Command.Request) : IO World := do
  let here ← IO.currentDir
  let tree : Tree := { current := (Location.read here.toString).segments }
  let tree ← (request.sources ++ request.settingsFile.toList).foldlM add tree
  let tree ← (target? tree request).toList.foldlM addWithParent tree
  let reads := request.fromInput || request.sources.contains streamName
  let input ← if reads then readAll (← IO.getStdin) .empty else pure .empty
  return { files := tree, input := input.toList,
           response := .noConnection "the network is not available" }

/-- Writes the files that a command has changed. -/
def store (before after : Tree) : IO Unit := do
  for (segments, entry) in after.entries do
    match entry with
    | .file bytes =>
      if before.entries.lookup segments != some entry then
        IO.FS.writeBinFile ("/" ++ "/".intercalate segments) ⟨bytes.toArray⟩
    | .directory => pure ()

/-- Prints what a command leaves behind. -/
def display (request : Command.Request) (console : Command.Console) : IO Unit := do
  let output ← IO.getStdout
  let messages ← IO.getStderr
  let tables := if request.listLanguages || request.showSettings then output else messages
  for record in console.records do
    messages.putStr (Command.logLine record)
  messages.putStr console.messages
  for table in console.tables do
    tables.putStr table.text
  output.putStr console.output

end Lexicon.Disk

open Lexicon in
/-- The program. -/
def main (arguments : List String) : IO UInt32 := do
  match Command.read arguments with
  | .error .help =>
    IO.print Command.helpText
    return 0
  | .error .version =>
    IO.print Command.versionText
    return 0
  | .error (.fault f) =>
    IO.eprint (Command.usage ++ Command.faultText f ++ "\n")
    return 2
  | .ok request =>
    let world ← Disk.world request
    let outcome := Command.run .builtIn request world
    Disk.store world.files outcome.console.files
    Disk.display request outcome.console
    match outcome.status with
    | .ok status => return status.toUInt32
    | .error _ =>
      IO.eprint "lexgen: unexpected failure\n"
      return 1
