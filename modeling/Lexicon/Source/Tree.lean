import Lexicon.Source.Location
import Lexicon.Value.Display

/-!
# Lexicon — trees of files

The files among which the program works, and its current directory.

* `Tree`         — the files and directories, by their segments from the root on.
* `Tree.find`    — what lies at a location.
* `Tree.write`   — puts a file there.
* `Tree.provide` — the same, with the directories on the way.
* `Tree.inside`  — the files below the current directory.
* `FileFault`    — why a file cannot be read or written, with `message`.

Two dots in a location lead to the directory above; above the root there is the root.
-/

namespace Lexicon.Source

-- ---------------------------------------------------------------------------
-- Faults
-- ---------------------------------------------------------------------------

/-- Why a file cannot be read or written. -/
inductive FileFault where
  | missing (path : String)
  | notDirectory (path : String)
  | isDirectory (path : String)
  deriving DecidableEq, Repr, Inhabited

/-- The wording of a fault. -/
def FileFault.message : FileFault → String
  | missing path => "[Errno 2] No such file or directory: " ++ quote path
  | notDirectory path => "[Errno 20] Not a directory: " ++ quote path
  | isDirectory path => "[Errno 21] Is a directory: " ++ quote path

-- ---------------------------------------------------------------------------
-- Trees
-- ---------------------------------------------------------------------------

/-- What may lie at a location. -/
inductive Entry where
  | directory
  | file (bytes : List UInt8)
  deriving DecidableEq, Repr, Inhabited

/-- The files and directories, by their segments from the root on, and the current
directory, which is there with all those above it. Where the current directory lies does
not matter as long as no file outside of it is given: a dot stands for any place then, as
no location has it for a segment. -/
structure Tree where
  current : List String := ["."]
  entries : List (List String × Entry) := []
  deriving DecidableEq, Repr, Inhabited

/-- Where a walk through a tree has got to: a place given by segments in reverse, or
nowhere. -/
inductive Spot where
  | place (reversed : List String)
  | nowhere (fault : String → FileFault)

namespace Tree

/-- What lies at the place of some segments. -/
def entry? (tree : Tree) (segments : List String) : Option Entry :=
  if segments.isPrefixOf tree.current then some .directory else tree.entries.lookup segments

/-- The spot that one segment further leads to. Only a directory is left behind. -/
def step (tree : Tree) (spot : Spot) (segment : String) : Spot :=
  match spot with
  | .nowhere fault => .nowhere fault
  | .place reversed =>
    match tree.entry? reversed.reverse with
    | none => .nowhere .missing
    | some (.file _) => .nowhere .notDirectory
    | some .directory => .place (if segment == ".." then reversed.tail else segment :: reversed)

/-- The place that a location starts from, in reverse. -/
def start (tree : Tree) (location : Location) : List String :=
  if location.isRelative then tree.current.reverse else []

/-- The spot that a location leads to. -/
def walk (tree : Tree) (location : Location) : Spot :=
  location.segments.foldl tree.step (.place (tree.start location))

/-- What lies at a location. -/
def find (tree : Tree) (location : Location) : Option Entry :=
  match tree.walk location with
  | .place reversed => tree.entry? reversed.reverse
  | .nowhere _ => none

/-- Sets what lies at the place of some segments. -/
def set (tree : Tree) (segments : List String) (entry : Entry) : Tree :=
  { tree with entries := (segments, entry) :: tree.entries.filter fun e => e.1 != segments }

/-- Puts a file at a location, whose directory must be there. -/
def write (tree : Tree) (location : Location) (bytes : List UInt8) : Except FileFault Tree :=
  match tree.walk location with
  | .nowhere fault => .error (fault location.text)
  | .place reversed =>
    match tree.entry? reversed.reverse with
    | some .directory => .error (.isDirectory location.text)
    | _ => .ok (tree.set reversed.reverse (.file bytes))

/-- The directories that a list of segments passes, created where they are missing; with
them the place that is reached, in reverse. -/
def provideFrom (tree : Tree) (reversed : List String) : List String → Tree × List String
  | [] => (tree, reversed)
  | segment :: rest =>
    let tree :=
      if (tree.entry? reversed.reverse).isSome then tree else tree.set reversed.reverse .directory
    tree.provideFrom (if segment == ".." then reversed.tail else segment :: reversed) rest

/-- Puts an entry at a location, with the directories on the way. -/
def provide (tree : Tree) (location : Location) (entry : Entry) : Tree :=
  let (tree, reversed) := tree.provideFrom (tree.start location) location.segments
  tree.set reversed.reverse entry

/-- The files below the current directory, by their locations. -/
def inside (tree : Tree) : List (Location × List UInt8) :=
  tree.entries.filterMap fun (segments, entry) =>
    match entry with
    | .directory => none
    | .file bytes =>
      if tree.current.isPrefixOf segments then
        some ({ segments := segments.drop tree.current.length }, bytes)
      else none

end Tree

end Lexicon.Source
