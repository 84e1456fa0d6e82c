import Lexicon.Proofs.Schema.Acceptance
import Lexicon.Proofs.Schema.Keys
import Lexicon.Schema.Walk

/-!
# Lexicon — positions in a schema

Where nodes lie in a document, told by tables. A node lies below another one by a branch, and a
position is a list of branches. The same branches are found in the value that a node is decoded
from, where each stands for one or two keys, and in the node itself.

* `Branch`, `Position` — how a node lies below another one, directly or through others.
* `follow`, `plant`    — what keys lead to in a value, and how it is replaced there.
* `valuesBelow`, `nodesBelow` — the nodes directly below a value and below a node, in order.
* `descend?`           — what lies at a position below a value.
* `decoded_below`      — what is decoded from the values below a value lies below what is decoded
                         from the value itself.
-/

namespace Lexicon.Schema

-- ---------------------------------------------------------------------------
-- Branches
-- ---------------------------------------------------------------------------

/-- How a node lies directly below another one. The branches `input`, `output` and `message` lead
to the schemas of bodies and of a message. -/
inductive Branch where
  | property (name : String)
  | items | record | parameters | input | output | message
  deriving DecidableEq, Repr, Inhabited

/-- A position below a node: the branches that lead there, the topmost one first. -/
abbrev Position := List Branch

/-- The keys that a branch stands for in a value. -/
def Branch.keys : Branch → List String
  | property name => ["properties", name]
  | items => ["items"]
  | record => ["record"]
  | parameters => ["parameters"]
  | input => ["input", "schema"]
  | output => ["output", "schema"]
  | message => ["message", "schema"]

/-- The keys that a position stands for. -/
def keysOf (position : Position) : List String := position.flatMap Branch.keys

/-- The path of what some keys lead to. -/
def Path.along (path : Path) (keys : List String) : Path := keys.foldl Path.child path

/-- The branches of a node of some kind, its properties apart. -/
def Kind.branches : Kind → List Branch
  | array => [.items]
  | record => [.record]
  | query => [.parameters, .output]
  | procedure => [.parameters, .input, .output]
  | subscription => [.parameters, .message]
  | _ => []

-- ---------------------------------------------------------------------------
-- Values
-- ---------------------------------------------------------------------------

/-- What some keys lead to in nested mappings. -/
def follow : List String → Value → Option Value
  | [], v => some v
  | key :: rest, .mapping fields => (fields.lookup key).bind (follow rest)
  | _ :: _, _ => none

/-- Replaces what some keys lead to. -/
def plant (x : Value) : List String → Value → Value
  | [], _ => x
  | key :: rest, .mapping fields =>
    .mapping (Fields.put key (plant x rest ((fields.lookup key).getD .null)) fields)
  | _ :: _, v => v

/-- The kind that a value says it is of. -/
def kindOf? : Value → Option Kind
  | .mapping fields =>
    match Fields.present? fields "type" with
    | some (.text name) => Kind.ofName? name
    | _ => none
  | _ => none

/-- The properties of a value with their branches. -/
def propertiesOf (v : Value) : List (Branch × Value) :=
  match follow ["properties"] v with
  | some (.mapping entries) => entries.map fun (name, w) => (.property name, w)
  | _ => []

/-- What a branch leads to in a value, if it is there and not null. -/
def heldBy (v : Value) (branch : Branch) : List (Branch × Value) :=
  match follow branch.keys v with
  | none | some .null => []
  | some w => [(branch, w)]

/-- The values directly below a value that are to be nodes, in order. -/
def valuesBelow (v : Value) : List (Branch × Value) :=
  match kindOf? v with
  | none => []
  | some .object | some .params => propertiesOf v
  | some kind => kind.branches.flatMap (heldBy v)

/-- What lies at a position below a value. -/
def descend? : Position → Value → Option Value
  | [], v => some v
  | branch :: rest, v => ((valuesBelow v).lookup branch).bind (descend? rest)

-- ---------------------------------------------------------------------------
-- Nodes
-- ---------------------------------------------------------------------------

/-- Properties with their branches. -/
def asProperties (properties : List (String × Node)) : List (Branch × Node) :=
  properties.map fun (name, node) => (.property name, node)

/-- A node that may be absent, with its branch. -/
def asBranch (branch : Branch) (node : Option Node) : List (Branch × Node) :=
  node.toList.map (branch, ·)

/-- The nodes directly below a node, in order. -/
def nodesBelow : Node → List (Branch × Node)
  | .leaf _ _ => []
  | .array _ items _ => [(.items, items)]
  | .object schema => asProperties schema.properties
  | .params _ properties _ => asProperties properties
  | .record _ _ schema => [(.record, .object schema)]
  | .query _ parameters output _ =>
    asBranch .parameters parameters ++ asBranch .output (output.bind Body.schema)
  | .procedure _ parameters input output _ =>
    asBranch .parameters parameters ++ asBranch .input (input.bind Body.schema) ++
      asBranch .output (output.bind Body.schema)
  | .subscription _ parameters message _ =>
    asBranch .parameters parameters ++ asBranch .message (message.map Message.schema)

-- ---------------------------------------------------------------------------
-- What is decoded below
-- ---------------------------------------------------------------------------

/-- `Matches path found given`: a node stands for a value on the same branch of what lies at a
path. -/
structure Matches (path : Path) (found : Branch × Node) (given : Branch × Value) : Prop where
  branch : found.1 = given.1
  decoded : Node.decode (path.along given.1.keys) given.2 = .ok found.2

section Below

variable {fields : Fields} {path here : Path} {branch : Branch} {key : String}

theorem follow_key (key : String) (fields : Fields) :
    follow [key] (.mapping fields) = fields.lookup key := by
  rw [follow]
  cases fields.lookup key <;> rfl

/-- What a branch of one key leads to. -/
theorem heldBy_key (hKeys : branch.keys = [key]) :
    heldBy (.mapping fields) branch = (fields.present? key).toList.map (branch, ·) := by
  rw [heldBy, hKeys, follow_key, Fields.present?]
  cases fields.lookup key with
  | none => rfl
  | some v => cases v <;> rfl

/-- What a branch into the mapping of a field leads to. -/
theorem heldBy_schema (hKeys : branch.keys = [key, "schema"]) :
    heldBy (.mapping fields) branch =
      match fields.present? key with
      | some (.mapping inner) => (Fields.present? inner "schema").toList.map (branch, ·)
      | _ => [] := by
  rw [heldBy, hKeys, follow, Fields.present?]
  cases fields.lookup key with
  | none => rfl
  | some v =>
    cases v with
    | mapping inner =>
      rw [Option.bind_some, follow_key]
      dsimp only
      rw [Fields.present?]
      cases inner.lookup "schema" with
      | none => rfl
      | some w => cases w <;> rfl
    | _ => rfl

/-- A node in a field that may be absent. -/
theorem decodeField_matches {found : Option Node} (hPath : path.along branch.keys = here.child key)
    (h : decodeField key here fields = .ok found) :
    List.Forall₂ (Matches path) (asBranch branch found)
      ((fields.present? key).toList.map (branch, ·)) := by
  rw [decodeField_eq] at h
  cases hValue : fields.present? key with
  | none =>
    rw [hValue] at h
    cases h
    exact .nil
  | some v =>
    rw [hValue] at h
    obtain ⟨node, hNode, rfl⟩ := exists_of_map_ok h
    refine .cons ⟨rfl, ?_⟩ .nil
    rw [hPath]
    exact hNode

theorem decodeEntries_matches {entries : Fields} {properties : List (String × Node)}
    (h : decodeEntries (path.child "properties") entries = .ok properties) :
    List.Forall₂ (Matches path) (asProperties properties)
      (entries.map fun (name, w) => (.property name, w)) := by
  induction entries generalizing properties with
  | nil =>
    cases h
    exact .nil
  | cons e rest ih =>
    obtain ⟨name, value⟩ := e
    rw [decodeEntries] at h
    obtain ⟨node, hNode, h⟩ := exists_of_bind_ok h
    obtain ⟨others, hOthers, h⟩ := exists_of_bind_ok h
    cases h
    exact .cons ⟨rfl, hNode⟩ (ih hOthers)

theorem decodeProperties_matches {properties : List (String × Node)}
    (h : decodeProperties "properties" path fields = .ok properties) :
    List.Forall₂ (Matches path) (asProperties properties) (propertiesOf (.mapping fields)) := by
  rw [decodeProperties_eq, Fields.present?] at h
  rw [propertiesOf, follow_key]
  cases hValue : fields.lookup "properties" with
  | none =>
    rw [hValue] at h
    cases h
    exact .nil
  | some v =>
    rw [hValue] at h
    cases v with
    | null =>
      cases h
      exact .nil
    | mapping entries => exact decodeEntries_matches h
    | _ => cases h

/-- The schema of a body. -/
theorem decodeBody_matches {body : Option (Body Node)} (hKeys : branch.keys = [key, "schema"])
    (h : decodeBody key path fields = .ok body) :
    List.Forall₂ (Matches path) (asBranch branch (body.bind Body.schema))
      (heldBy (.mapping fields) branch) := by
  rw [heldBy_schema hKeys]
  rw [decodeBody_eq] at h
  cases hValue : fields.present? key with
  | none =>
    rw [hValue] at h
    cases h
    exact .nil
  | some v =>
    rw [hValue] at h
    cases v with
    | mapping inner =>
      obtain ⟨encoding, -, h⟩ := exists_of_bind_ok h
      obtain ⟨schema, hSchema, h⟩ := exists_of_bind_ok h
      obtain ⟨description, -, h⟩ := exists_of_bind_ok h
      cases h
      exact decodeField_matches (by rw [hKeys]; rfl) hSchema
    | _ => cases h

/-- The schema of a message. -/
theorem decodeMessage_matches {message : Option (Message Node)}
    (hKeys : branch.keys = [key, "schema"]) (h : decodeMessage key path fields = .ok message) :
    List.Forall₂ (Matches path) (asBranch branch (message.map Message.schema))
      (heldBy (.mapping fields) branch) := by
  rw [heldBy_schema hKeys]
  rw [decodeMessage_eq] at h
  cases hValue : fields.present? key with
  | none =>
    rw [hValue] at h
    cases h
    exact .nil
  | some v =>
    rw [hValue] at h
    cases v with
    | mapping inner =>
      obtain ⟨schema, hSchema, h⟩ := exists_of_bind_ok h
      cases schema with
      | none => cases h
      | some schema =>
        obtain ⟨description, -, h⟩ := exists_of_bind_ok h
        cases h
        exact decodeField_matches (by rw [hKeys]; rfl) hSchema
    | _ => cases h

/-- **What is decoded from the values below a value** lies below what is decoded from the value,
on the same branches and in the same order. -/
theorem decoded_below {v : Value} {node : Node} (h : Node.decode path v = .ok node) :
    List.Forall₂ (Matches path) (nodesBelow node) (valuesBelow v) := by
  cases v with
  | mapping fields =>
    obtain ⟨kind, hType⟩ := exists_type_of_decode h
    have hKind : kindOf? (.mapping fields) = some kind := by
      rw [kindOf?, hType]
      exact Kind.ofName?_name kind
    have hName : Reader.string.check (path.child "type") (.text kind.name) = .ok kind.name := rfl
    rw [Node.decode, hType] at h
    dsimp only at h
    rw [hName, ok_bind, Kind.ofName?_name] at h
    dsimp only at h
    rw [ok_bind] at h
    obtain ⟨description, -, h⟩ := exists_of_bind_ok h
    rw [valuesBelow, hKind]
    have hOne : ∀ {branch : Branch} {key : String} {found : Option Node},
        branch.keys = [key] → decodeField key path fields = .ok found →
        List.Forall₂ (Matches path) (asBranch branch found) (heldBy (.mapping fields) branch) := by
      intro branch key found hKeys hField
      rw [heldBy_key hKeys]
      exact decodeField_matches (by rw [hKeys]; rfl) hField
    have hLast : ∀ {branch : Branch} {found : List (Branch × Node)},
        List.Forall₂ (Matches path) found (heldBy (.mapping fields) branch) →
        List.Forall₂ (Matches path) found ([branch].flatMap (heldBy (.mapping fields))) := by
      intro branch found hFound
      rwa [List.flatMap_singleton]
    cases kind with
    | cidLink | unknown | null | token =>
      cases h
      exact .nil
    | boolean | integer | string | bytes | ref =>
      obtain ⟨rules, -, h⟩ := exists_of_bind_ok h
      cases h
      exact .nil
    | blob | union =>
      obtain ⟨entries, -, h⟩ := exists_of_bind_ok h
      obtain ⟨entry, -, h⟩ := exists_of_bind_ok h
      cases h
      exact .nil
    | array =>
      obtain ⟨items, hItems, h⟩ := exists_of_bind_ok h
      cases items with
      | none => cases h
      | some items =>
        obtain ⟨rules, -, h⟩ := exists_of_bind_ok h
        cases h
        exact hLast (hOne rfl hItems)
    | object =>
      obtain ⟨properties, hProperties, h⟩ := exists_of_bind_ok h
      obtain ⟨required, -, h⟩ := exists_of_bind_ok h
      obtain ⟨nullable, -, h⟩ := exists_of_bind_ok h
      cases h
      exact decodeProperties_matches hProperties
    | params =>
      obtain ⟨properties, hProperties, h⟩ := exists_of_bind_ok h
      obtain ⟨required, -, h⟩ := exists_of_bind_ok h
      cases h
      exact decodeProperties_matches hProperties
    | record =>
      obtain ⟨inner, hInner, h⟩ := exists_of_bind_ok h
      split at h
      · cases h
      · obtain ⟨key, -, h⟩ := exists_of_bind_ok h
        cases h
        exact hLast (hOne rfl hInner)
      · cases h
    | query =>
      obtain ⟨parameters, hParameters, h⟩ := exists_of_bind_ok h
      obtain ⟨output, hOutput, h⟩ := exists_of_bind_ok h
      obtain ⟨errors, -, h⟩ := exists_of_bind_ok h
      cases h
      exact List.rel_append (hOne rfl hParameters) (hLast (decodeBody_matches rfl hOutput))
    | procedure =>
      obtain ⟨parameters, hParameters, h⟩ := exists_of_bind_ok h
      obtain ⟨input, hInput, h⟩ := exists_of_bind_ok h
      obtain ⟨output, hOutput, h⟩ := exists_of_bind_ok h
      obtain ⟨errors, -, h⟩ := exists_of_bind_ok h
      cases h
      rw [nodesBelow, List.append_assoc]
      exact List.rel_append (hOne rfl hParameters)
        (List.rel_append (decodeBody_matches rfl hInput) (hLast (decodeBody_matches rfl hOutput)))
    | subscription =>
      obtain ⟨message, hMessage, h⟩ := exists_of_bind_ok h
      obtain ⟨parameters, hParameters, h⟩ := exists_of_bind_ok h
      obtain ⟨errors, -, h⟩ := exists_of_bind_ok h
      cases h
      exact List.rel_append (hOne rfl hParameters) (hLast (decodeMessage_matches rfl hMessage))
  | _ =>
    rw [Node.decode] at h
    · cases h
    · simp

end Below

end Lexicon.Schema
