import Lexicon.Schema.Decode

/-!
# Lexicon — walking a schema tree

A node and everything nested below it, parents first and children in the order
in which the document gives them, each with its dotted path.

* `Node.walk`      — the nodes below a node, itself included.

The schema of a body is found at the path of the body, and the schema of a
message at the path of the message.
-/

namespace Lexicon.Schema

mutual

/-- The node at `path` and all nodes below it, with their paths. -/
def Node.walk (path : Path) : Node → List (Path × Node)
  | .leaf d l => [(path, .leaf d l)]
  | .array d items rules => (path, .array d items rules) :: items.walk (path.child "items")
  | .object schema => (path, .object schema) :: schema.walkProperties path
  | .params d properties required =>
    (path, .params d properties required) :: walkEntries path properties
  | .record d key schema =>
    (path, .record d key schema) :: (path.child "record", .object schema) ::
      schema.walkProperties (path.child "record")
  | .query d parameters output errors =>
    (path, .query d parameters output errors) ::
      (walkOptional (path.child "parameters") parameters ++
        walkBody (path.child "output") output)
  | .procedure d parameters input output errors =>
    (path, .procedure d parameters input output errors) ::
      (walkOptional (path.child "parameters") parameters ++
        walkBody (path.child "input") input ++ walkBody (path.child "output") output)
  | .subscription d parameters message errors =>
    (path, .subscription d parameters message errors) ::
      (walkOptional (path.child "parameters") parameters ++
        walkMessage (path.child "message") message)

/-- The nodes below the properties of an object at `path`. -/
def ObjectSchema.walkProperties (path : Path) : ObjectSchema → List (Path × Node)
  | .mk _ properties _ _ => walkEntries path properties

/-- The nodes below named nodes at `path`. -/
def walkEntries (path : Path) : List (String × Node) → List (Path × Node)
  | [] => []
  | (name, node) :: rest => node.walk (path.child name) ++ walkEntries path rest

/-- The nodes below a node that may be absent. -/
def walkOptional (path : Path) : Option Node → List (Path × Node)
  | none => []
  | some node => node.walk path

/-- The nodes below the schema of a body. -/
def walkBody (path : Path) : Option (Body Node) → List (Path × Node)
  | none => []
  | some ⟨_, none, _⟩ => []
  | some ⟨_, some node, _⟩ => node.walk path

/-- The nodes below the schema of a message. -/
def walkMessage (path : Path) : Option (Message Node) → List (Path × Node)
  | none => []
  | some ⟨node, _⟩ => node.walk path

end

end Lexicon.Schema
