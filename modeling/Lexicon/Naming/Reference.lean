/-!
# Lexicon — references and where they lead

A reference names a definition: `doc#name` in full, `#name` for a definition of
the document itself, and a bare `doc` for the definition `main` of that document.

* `tail`            — the local name that a reference ends in.
* `canonical`       — the full form of a reference, seen from a document.
* `documentOf`      — the document that a reference points into.
* `ReferenceIndex`  — the definitions of all documents of a run.
* `ReferenceIndex.isUnresolved` — does a reference point to nothing? References into
                      documents that are no part of the run are not judged.
-/

namespace Lexicon.Naming

-- ---------------------------------------------------------------------------
-- References
-- ---------------------------------------------------------------------------

/-- The mark between the document part and the name part of a reference. -/
def mark : Char := '#'

/-- The name that a bare document id stands for. -/
def mainName : String := "main"

/-- What follows the last mark; a reference without a mark is its own tail. -/
def tail (reference : String) : String :=
  String.ofList (reference.toList.reverse.takeWhile (· != mark)).reverse

/-- What goes before the first mark; a text without a mark is left whole. -/
def head (reference : String) : String :=
  String.ofList (reference.toList.takeWhile (· != mark))

/-- The full form of a definition's name. -/
def qualified (document name : String) : String := document ++ "#" ++ name

/-- The full form of a reference made in the document of the given id. -/
def canonical (reference document : String) : String :=
  if reference.toList.head? = some mark then document ++ reference
  else if reference.toList.contains mark then reference
  else qualified reference mainName

/-- The id of the document that a reference made in `document` points into. -/
def documentOf (reference document : String) : String := head (canonical reference document)

-- ---------------------------------------------------------------------------
-- Index
-- ---------------------------------------------------------------------------

/-- The documents of a run and the full names of their definitions, each once. -/
structure ReferenceIndex where
  documents : List String := []
  definitions : List String := []
  deriving DecidableEq, Repr, Inhabited

namespace ReferenceIndex

/-- The index of no documents. -/
def empty : ReferenceIndex := {}

/-- Enters a definition's full name. -/
def define (index : ReferenceIndex) (name : String) : ReferenceIndex :=
  { index with definitions := index.definitions.insert name }

/-- Enters a document with the names of its definitions. -/
def add (index : ReferenceIndex) (document : String) (names : List String) : ReferenceIndex :=
  names.foldl (fun i name => i.define (qualified document name))
    { index with documents := index.documents.insert document }

/-- The index of some documents, given by their ids and names. -/
def ofList (documents : List (String × List String)) : ReferenceIndex :=
  documents.foldl (fun index (document, names) => index.add document names) empty

/-- Is the document part of the run? -/
def knows (index : ReferenceIndex) (document : String) : Bool :=
  index.documents.contains document

/-- Does a reference made in `document` point into a document of the run that does
not define it? -/
def isUnresolved (index : ReferenceIndex) (reference document : String) : Bool :=
  let target := canonical reference document
  index.knows (head target) && !index.definitions.contains target

/-- How many definitions are known. -/
def size (index : ReferenceIndex) : Nat := index.definitions.length

end ReferenceIndex

end Lexicon.Naming
