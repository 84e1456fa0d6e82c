import Lexicon.Generator
import Lexicon.Log

/-!
# Lexicon — runs over documents

* `Generated`          — the text for a document, with what was found and what is known
                         about it.
* `Generator.process`  — decodes, checks and generates one document.
* `Generator.tryOne`   — the same, a document that does not decode being an answer.
* `Generator.runAll`   — many documents. All of them are decoded first, so that references
                         between them can be judged; one that does not decode leaves the
                         others as they are.

What is said of the work is returned beside the results.
-/

namespace Lexicon

open Schema

-- ---------------------------------------------------------------------------
-- Results
-- ---------------------------------------------------------------------------

/-- The result for a document. -/
structure Generated where
  code : String
  diagnostics : List Diagnostic
  metadata : Fields
  deriving Inhabited

/-- An answer about a document: its result, or why it did not decode. -/
inductive Answer where
  | generated (result : Generated)
  | undecodable (message : String)
  deriving Inhabited

namespace Generator

/-- The index of the documents of a run. -/
def indexOf (documents : List Document) : Naming.ReferenceIndex :=
  .ofList (documents.map fun document => (document.id, document.names))

/-- What is known about a document and its result. -/
def metadata (document : Document) (diagnostics : List Diagnostic) : Fields :=
  [("language", .text language), ("file_extension", .text fileExtension),
   ("lexicon_id", .text document.id), ("definition_count", .int document.definitions.length),
   ("diagnostic_count", .int diagnostics.length)]

/-- A generated text in its final layout. -/
def layout (code : String) : String := String.ofList (Text.tidy code.toList)

/-- Checks and generates a document. Without an index, references are judged by the
document alone. -/
def processDocument (g : Generator) (document : Document)
    (index : Option Naming.ReferenceIndex) : Except GenerationFault Generated × Generator :=
  let g := (g.reset (some (index.getD (indexOf [document])))).check document
  match g.generate document with
  | (.error fault, g) => (.error fault, g)
  | (.ok code, g) =>
    (.ok { code := layout code, diagnostics := g.diagnostics,
           metadata := metadata document g.diagnostics }, g)

/-- Decodes, checks and generates a document. -/
def process (g : Generator) (payload : Payload) (index : Option Naming.ReferenceIndex) :
    Except GenerationFault Generated × Generator :=
  match Document.decode payload with
  | .error e => (.error (.decode e), g)
  | .ok document => g.processDocument document index

-- ---------------------------------------------------------------------------
-- Log
-- ---------------------------------------------------------------------------

/-- The name of the generator's logger. -/
def loggerName : String := "lexgen.codegen.core.generator"

/-- The records of some findings: only an inconsistency is worth a warning. -/
def findingRecords (diagnostics : List Diagnostic) : List Log.Record :=
  diagnostics.filterMap fun d =>
    if d.severity = .inconsistency then some ⟨.warning, loggerName, d.text⟩ else none

-- ---------------------------------------------------------------------------
-- Answers
-- ---------------------------------------------------------------------------

/-- Generates a document; that it does not decode is an answer. -/
def tryOne (g : Generator) (payload : Payload) (index : Option Naming.ReferenceIndex) :
    Except GenerationFault Answer × Generator :=
  match g.process payload index with
  | (.ok result, g) => (.ok (.generated result), g)
  | (.error (.decode e), g) =>
    (.ok (.undecodable ("Invalid lexicon document: " ++ e.message)), g)
  | (.error fault, g) => (.error fault, g)

/-- A document of a run, decoded or not. -/
abbrev Entry := String × Decoded Document

/-- Decodes the documents of a run. -/
def decodeAll (payloads : List (String × Payload)) : List Entry :=
  payloads.map fun (source, payload) => (source, Document.decode payload)

/-- The records of the documents that did not decode. -/
def decodeRecords (entries : List Entry) : List Log.Record :=
  entries.filterMap fun
    | (source, .error e) =>
      some ⟨.error, loggerName, "Cannot decode " ++ source ++ ": " ++ e.message⟩
    | (_, .ok _) => none

/-- The documents of a run that did decode. -/
def decodedDocuments (entries : List Entry) : List Document :=
  entries.filterMap fun
    | (_, .ok document) => some document
    | (_, .error _) => none

/-- Generates the documents of a run, one after the other. -/
def runEntries (g : Generator) (index : Naming.ReferenceIndex) :
    List Entry → Except GenerationFault (List (String × Answer)) × Generator × List Log.Record
  | [] => (.ok [], g, [])
  | (source, .error e) :: rest =>
    let message := "Invalid lexicon document " ++ source ++ ": " ++ e.message
    match g.runEntries index rest with
    | (.ok answers, g, log) => (.ok ((source, .undecodable message) :: answers), g, log)
    | (.error fault, g, log) => (.error fault, g, log)
  | (source, .ok document) :: rest =>
    let begin := ⟨.info, loggerName, "Generating " ++ language ++ " code for " ++ document.id⟩
    match g.processDocument document (some index) with
    | (.error fault, g) => (.error fault, g, begin :: findingRecords g.diagnostics)
    | (.ok result, g) =>
      let log := begin :: findingRecords g.diagnostics
      match g.runEntries index rest with
      | (.ok answers, g, more) => (.ok ((source, .generated result) :: answers), g, log ++ more)
      | (.error fault, g, more) => (.error fault, g, log ++ more)

/-- Generates many documents, in order. -/
def runAll (g : Generator) (payloads : List (String × Payload)) :
    Except GenerationFault (List (String × Answer)) × Generator × List Log.Record :=
  let entries := decodeAll payloads
  let (answers, g, log) := g.runEntries (indexOf (decodedDocuments entries)) entries
  (answers, g, decodeRecords entries ++ log)

end Generator

end Lexicon
