import Lexicon.Diagnostic
import Lexicon.Schema.Walk
import Lexicon.Target.Syntax

/-!
# Lexicon — checking documents

A document that decodes may still be at odds with itself. Such findings do not stop
generation.

* `nodeFindings`       — what is wrong with a single node.
* `documentFindings`   — what is wrong with a document: node by node, definition by
                         definition, and last the names of the definitions.

References are judged by the index of the run's documents; without an index they are
not judged.
-/

namespace Lexicon

open Schema

/-- What is wrong with a node at `path` in the document of the given id. -/
def nodeFindings (index : Option Naming.ReferenceIndex) (document path : String) :
    Node → List Finding
  | .object schema => schema.undeclaredNames.map (.notAProperty · path)
  | .params d properties required =>
    (Node.params d properties required).undeclaredNames.map (.notAProperty · path)
  | .leaf _ (.union refs _) =>
    (if refs.isEmpty then [Finding.emptyUnion path] else []) ++
      match index with
      | none => []
      | some index =>
        (refs.filter fun ref => index.isUnresolved ref document).map (.unresolvedMember · path)
  | .leaf _ (.ref target) =>
    match index with
    | none => []
    | some index =>
      if index.isUnresolved target document then [.unresolvedReference target path] else []
  | _ => []

/-- What is wrong with a definition. -/
def definitionDiagnostics (index : Option Naming.ReferenceIndex) (document name : String)
    (node : Node) : List Diagnostic :=
  (node.walk "").flatMap fun (path, inner) =>
    let place := if path = "" then name else name ++ "." ++ path
    (nodeFindings index document place inner).map (⟨name, ·⟩)

/-- What is wrong with a document. -/
def documentDiagnostics (index : Option Naming.ReferenceIndex) (document : Document) :
    List Diagnostic :=
  (document.definitions.flatMap fun (name, node) =>
    definitionDiagnostics index document.id name node) ++
  (document.names.filter fun name => !Target.isIdentifier name.toList).map
    fun name => ⟨name, .badName name⟩

end Lexicon
