import Lexicon.Text.Blank
import Lexicon.Text.Case

/-!
# Lexicon — locations of files

* `Location`           — a path: an absolute or relative start, and segments.
* `Location.read`      — reads a path; empty segments and single dots are left out.
* `Location.text`      — writes it in its shortest form.
* `Location.extension` — the extension of the last segment, in small letters.
-/

namespace Lexicon.Source

open Lexicon.Text

/-- The place of a file: what its path starts with, and its segments. -/
structure Location where
  root : String := ""
  segments : List String := []
  deriving DecidableEq, Repr, Inhabited

namespace Location

/-- What a path starts with: nothing, one slash, or exactly two. -/
def rootOf : List Char → String
  | '/' :: '/' :: '/' :: _ => "/"
  | '/' :: '/' :: _ => "//"
  | '/' :: _ => "/"
  | _ => ""

/-- Reads a path. -/
def read (path : String) : Location :=
  { root := rootOf path.toList
    segments := ((split '/' path.toList).map String.ofList).filter fun s => s != "" && s != "." }

/-- Writes a path; that of no segments is a dot. -/
def text (location : Location) : String :=
  let joined := "/".intercalate location.segments
  if location.root == "" && joined == "" then "." else location.root ++ joined

/-- Is the path relative? -/
def isRelative (location : Location) : Bool := location.root == ""

/-- The extension of a name with its dot, empty if there is none. A dot at either end
of the name begins no extension. -/
def extensionOf (name : List Char) : List Char :=
  let after := name.reverse.takeWhile (· != '.')
  let before := name.take (name.length - after.length - 1)
  if after.isEmpty || before.isEmpty || !name.contains '.' then [] else '.' :: after.reverse

/-- The extension of the last segment, in small letters. -/
def extension (location : Location) : String :=
  match location.segments.getLast? with
  | some name => String.ofList (lower (extensionOf name.toList))
  | none => ""

end Location

end Lexicon.Source
