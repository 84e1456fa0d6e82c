import Lexicon.Json.Reader
import Lexicon.Encoding.Unicode
import Lexicon.Schema.Node

/-!
# Lexicon — decoding documents

From a dynamic value to a schema tree. Every fault is reported with the dotted
path of the place where it was met; of several faults the first one in the order
of the checks is reported.

* `Path`            — a dotted path; `Path.child` and `Path.item` extend it.
* `Fault`, `DecodeError` — what can be wrong, and where.
* `Node.decode`     — decodes one node.
* `Document.ofValue`, `Document.decode` — decode a whole document.

A field that is null counts as absent. A truth value is no integer, and neither
is a number with a fraction.
-/

namespace Lexicon.Schema

-- ---------------------------------------------------------------------------
-- Paths
-- ---------------------------------------------------------------------------

/-- A dotted path into a document; the empty path is the document itself. -/
abbrev Path := String

/-- The path of a field. -/
def Path.child (path : Path) (key : String) : Path :=
  if path = "" then key else path ++ "." ++ key

/-- The path of a list item. -/
def Path.item (path : Path) (index : Nat) : Path := path ++ "[" ++ toString index ++ "]"

-- ---------------------------------------------------------------------------
-- Faults
-- ---------------------------------------------------------------------------

/-- The shapes that a field may be asked to have. -/
inductive Shape where
  | boolean | integer | string | array | object | integerOrString
  deriving DecidableEq, Repr, Inhabited

/-- The name of a shape. -/
def Shape.name : Shape → String
  | .boolean => "boolean"
  | .integer => "integer"
  | .string => "string"
  | .array => "array"
  | .object => "object"
  | .integerOrString => "integer|string"

/-- The name of the shape that a value has. -/
def shapeName : Value → String
  | .null => "null"
  | .bool _ => "boolean"
  | .int _ => "integer"
  | .float _ => "float"
  | .text _ => "string"
  | .list _ => "array"
  | .mapping _ => "object"

/-- What can be wrong with a document. -/
inductive Fault where
  | badJson (e : Json.SyntaxError)
  | badBytes (f : Encoding.DecodeFault)
  | unexpected (expected : Shape) (found : String)
  | missing (field : String)
  | noType
  | unknownType (name : String)
  | recordOf (kind : Kind)
  deriving DecidableEq, Repr, Inhabited

/-- The wording of a fault. -/
def Fault.message : Fault → String
  | .badJson e => "invalid JSON: " ++ e.message
  | .badBytes f => "invalid JSON: " ++ f.message
  | .unexpected expected found => "expected " ++ expected.name ++ ", got " ++ found
  | .missing field => "missing required field '" ++ field ++ "'"
  | .noType => "missing 'type' discriminator"
  | .unknownType name => "unknown type '" ++ name ++ "'"
  | .recordOf kind => "record must be an object, got '" ++ kind.name ++ "'"

/-- A fault and the path of its place. -/
structure DecodeError where
  path : Path
  fault : Fault
  deriving DecidableEq, Repr, Inhabited

/-- The message of an error: the path, if it is not empty, and the fault. -/
def DecodeError.message (e : DecodeError) : String :=
  if e.path = "" then e.fault.message else e.path ++ ": " ++ e.fault.message

/-- The result of decoding. -/
abbrev Decoded (α : Type) := Except DecodeError α

/-- Fails at a path. -/
def failAt {α : Type} (path : Path) (fault : Fault) : Decoded α := .error ⟨path, fault⟩

-- ---------------------------------------------------------------------------
-- Scalars and lists
-- ---------------------------------------------------------------------------

/-- A way to read a value of an expected shape. -/
structure Reader (α : Type) where
  shape : Shape
  read? : Value → Option α

namespace Reader

/-- Reads a truth value. -/
def boolean : Reader Bool :=
  ⟨.boolean, fun | .bool b => some b | _ => none⟩

/-- Reads an integer. -/
def integer : Reader Int :=
  ⟨.integer, fun | .int n => some n | _ => none⟩

/-- Reads a text. -/
def string : Reader String :=
  ⟨.string, fun | .text s => some s | _ => none⟩

/-- Reads a list. -/
def array : Reader (List Value) :=
  ⟨.array, fun | .list items => some items | _ => none⟩

/-- Reads a mapping. -/
def object : Reader Fields :=
  ⟨.object, fun | .mapping entries => some entries | _ => none⟩

/-- Reads a value, which must have the shape. -/
def check {α : Type} (reader : Reader α) (path : Path) (value : Value) : Decoded α :=
  match reader.read? value with
  | some a => .ok a
  | none => failAt path (.unexpected reader.shape (shapeName value))

/-- Reads an optional field. -/
def optional {α : Type} (reader : Reader α) (fields : Fields) (key : String) (path : Path) :
    Decoded (Option α) :=
  match fields.present? key with
  | none => .ok none
  | some value => some <$> reader.check (path.child key) value

/-- Reads a required field. -/
def required {α : Type} (reader : Reader α) (fields : Fields) (key : String) (path : Path) :
    Decoded α :=
  match fields.present? key with
  | none => failAt path (.missing key)
  | some value => reader.check (path.child key) value

/-- Reads the items of a list, the first of which has the given index. -/
def items {α : Type} (reader : Reader α) (path : Path) : (index : Nat) → List Value →
    Decoded (List α)
  | _, [] => .ok []
  | index, value :: rest => do
    let a ← reader.check (path.item index) value
    let others ← reader.items path (index + 1) rest
    return a :: others

/-- Reads an optional list. -/
def optionalList {α : Type} (reader : Reader α) (fields : Fields) (key : String) (path : Path) :
    Decoded (Option (List α)) := do
  match ← array.optional fields key path with
  | none => return none
  | some values => some <$> reader.items (path.child key) 0 values

/-- Reads a list that is empty if it is absent. -/
def listOrEmpty {α : Type} (reader : Reader α) (fields : Fields) (key : String) (path : Path) :
    Decoded (List α) :=
  (Option.getD · []) <$> reader.optionalList fields key path

/-- Reads a required list. -/
def requiredList {α : Type} (reader : Reader α) (fields : Fields) (key : String) (path : Path) :
    Decoded (List α) := do
  let values ← array.required fields key path
  reader.items (path.child key) 0 values

end Reader

-- ---------------------------------------------------------------------------
-- Leaves
-- ---------------------------------------------------------------------------

/-- Decodes the bounds on a length. -/
def LengthRules.decode (fields : Fields) (path : Path) : Decoded LengthRules := do
  let maxLength ← Reader.integer.optional fields "maxLength" path
  let minLength ← Reader.integer.optional fields "minLength" path
  return { maxLength, minLength }

/-- Decodes the constraints on a boolean. -/
def BooleanRules.decode (fields : Fields) (path : Path) : Decoded BooleanRules := do
  let default ← Reader.boolean.optional fields "default" path
  let const ← Reader.boolean.optional fields "const" path
  return { default, const }

/-- Decodes the constraints on an integer. -/
def IntegerRules.decode (fields : Fields) (path : Path) : Decoded IntegerRules := do
  let minimum ← Reader.integer.optional fields "minimum" path
  let maximum ← Reader.integer.optional fields "maximum" path
  let enum ← Reader.integer.optionalList fields "enum" path
  let default ← Reader.integer.optional fields "default" path
  let const ← Reader.integer.optional fields "const" path
  return { minimum, maximum, enum, default, const }

/-- Decodes the constraints on a string. -/
def StringRules.decode (fields : Fields) (path : Path) : Decoded StringRules := do
  let format ← Reader.string.optional fields "format" path
  let maxLength ← Reader.integer.optional fields "maxLength" path
  let minLength ← Reader.integer.optional fields "minLength" path
  let maxGraphemes ← Reader.integer.optional fields "maxGraphemes" path
  let minGraphemes ← Reader.integer.optional fields "minGraphemes" path
  let knownValues ← Reader.string.optionalList fields "knownValues" path
  let enum ← Reader.string.optionalList fields "enum" path
  let default ← Reader.string.optional fields "default" path
  let const ← Reader.string.optional fields "const" path
  return { format, maxLength, minLength, maxGraphemes, minGraphemes, knownValues, enum,
           default, const }

/-- Decodes one named error. -/
def ErrorVariant.decode (path : Path) (value : Value) : Decoded ErrorVariant := do
  let fields ← Reader.object.check path value
  let name ← Reader.string.required fields "name" path
  let description ← Reader.string.optional fields "description" path
  return { name, description }

/-- Decodes named errors, the first of which has the given index. -/
def decodeVariants (path : Path) : (index : Nat) → List Value → Decoded (List ErrorVariant)
  | _, [] => .ok []
  | index, value :: rest => do
    let variant ← ErrorVariant.decode (path.item index) value
    let others ← decodeVariants path (index + 1) rest
    return variant :: others

/-- Decodes the `errors` of an endpoint. -/
def decodeErrors (fields : Fields) (path : Path) : Decoded (List ErrorVariant) := do
  match ← Reader.array.optional fields "errors" path with
  | none => return []
  | some values => decodeVariants (path.child "errors") 0 values

-- ---------------------------------------------------------------------------
-- Nodes
-- ---------------------------------------------------------------------------

mutual

/-- Decodes the node found at `path`. -/
def Node.decode (path : Path) : Value → Decoded Node
  | .mapping fields => do
    let name ← match Fields.present? fields "type" with
      | none => failAt path .noType
      | some value => Reader.string.check (path.child "type") value
    let kind ← match Kind.ofName? name with
      | none => failAt path (.unknownType name)
      | some kind => .ok kind
    let description ← Reader.string.optional fields "description" path
    match kind with
    | .boolean => return .leaf description (.boolean (← BooleanRules.decode fields path))
    | .integer => return .leaf description (.integer (← IntegerRules.decode fields path))
    | .string => return .leaf description (.string (← StringRules.decode fields path))
    | .bytes => return .leaf description (.bytes (← LengthRules.decode fields path))
    | .blob =>
      let accept ← Reader.string.listOrEmpty fields "accept" path
      let maxSize ← Reader.integer.optional fields "maxSize" path
      return .leaf description (.blob accept maxSize)
    | .cidLink => return .leaf description .cidLink
    | .unknown => return .leaf description .unknown
    | .null => return .leaf description .null
    | .token => return .leaf description .token
    | .union =>
      let refs ← Reader.string.requiredList fields "refs" path
      let closed ← Reader.boolean.optional fields "closed" path
      return .leaf description (.union refs closed)
    | .ref => return .leaf description (.ref (← Reader.string.required fields "ref" path))
    | .array =>
      match ← decodeField "items" path fields with
      | none => failAt path (.missing "items")
      | some items => return .array description items (← LengthRules.decode fields path)
    | .object =>
      let properties ← decodeProperties "properties" path fields
      let required ← Reader.string.listOrEmpty fields "required" path
      let nullable ← Reader.string.listOrEmpty fields "nullable" path
      return .object (.mk description properties required nullable)
    | .params =>
      let properties ← decodeProperties "properties" path fields
      let required ← Reader.string.listOrEmpty fields "required" path
      return .params description properties required
    | .record =>
      match ← decodeField "record" path fields with
      | none => failAt path (.missing "record")
      | some (.object schema) =>
        return .record description (← Reader.string.required fields "key" path) schema
      | some node => failAt (path.child "record") (.recordOf node.kind)
    | .query =>
      let parameters ← decodeField "parameters" path fields
      let output ← decodeBody "output" path fields
      return .query description parameters output (← decodeErrors fields path)
    | .procedure =>
      let parameters ← decodeField "parameters" path fields
      let input ← decodeBody "input" path fields
      let output ← decodeBody "output" path fields
      return .procedure description parameters input output (← decodeErrors fields path)
    | .subscription =>
      let message ← decodeMessage "message" path fields
      let parameters ← decodeField "parameters" path fields
      return .subscription description parameters message (← decodeErrors fields path)
  | value => failAt path (.unexpected .object (shapeName value))

/-- Decodes the node in the field `key`, if there is one. -/
def decodeField (key : String) (path : Path) : List (String × Value) → Decoded (Option Node)
  | [] => .ok none
  | (k, value) :: rest =>
    if k = key then
      match value with
      | .null => .ok none
      | value => some <$> Node.decode (path.child key) value
    else decodeField key path rest

/-- Decodes the mapping from names to nodes in the field `key`; it is empty if
the field is absent. -/
def decodeProperties (key : String) (path : Path) :
    List (String × Value) → Decoded (List (String × Node))
  | [] => .ok []
  | (k, value) :: rest =>
    if k = key then
      match value with
      | .null => .ok []
      | .mapping entries => decodeEntries (path.child key) entries
      | value => failAt (path.child key) (.unexpected .object (shapeName value))
    else decodeProperties key path rest

/-- Decodes the entries of a mapping from names to nodes. -/
def decodeEntries (path : Path) : List (String × Value) → Decoded (List (String × Node))
  | [] => .ok []
  | (name, value) :: rest => do
    let node ← Node.decode (path.child name) value
    let others ← decodeEntries path rest
    return (name, node) :: others

/-- Decodes the body in the field `key`, if there is one. -/
def decodeBody (key : String) (path : Path) :
    List (String × Value) → Decoded (Option (Body Node))
  | [] => .ok none
  | (k, value) :: rest =>
    if k = key then
      match value with
      | .null => .ok none
      | .mapping fields => do
        let encoding ← Reader.string.required fields "encoding" (path.child key)
        let schema ← decodeField "schema" (path.child key) fields
        let description ← Reader.string.optional fields "description" (path.child key)
        return some { encoding, schema, description }
      | value => failAt (path.child key) (.unexpected .object (shapeName value))
    else decodeBody key path rest

/-- Decodes the message in the field `key`, if there is one. -/
def decodeMessage (key : String) (path : Path) :
    List (String × Value) → Decoded (Option (Message Node))
  | [] => .ok none
  | (k, value) :: rest =>
    if k = key then
      match value with
      | .null => .ok none
      | .mapping fields => do
        match ← decodeField "schema" (path.child key) fields with
        | none => failAt (path.child key) (.missing "schema")
        | some schema =>
          let description ← Reader.string.optional fields "description" (path.child key)
          return some { schema, description }
      | value => failAt (path.child key) (.unexpected .object (shapeName value))
    else decodeMessage key path rest

end

-- ---------------------------------------------------------------------------
-- Documents
-- ---------------------------------------------------------------------------

/-- The revision of a document. -/
inductive Revision where
  | number (n : Int)
  | label (s : String)
  deriving DecidableEq, Repr, Inhabited

/-- A decoded document: what it says of itself, and its definitions in order. -/
structure Document where
  lexicon : Int
  id : String
  revision : Option Revision
  description : Option String
  definitions : List (String × Node)
  deriving Inhabited

namespace Document

/-- The names of the definitions, in order. -/
def names (d : Document) : List String := d.definitions.map (·.1)

/-- The definition of a name. -/
def definition? (d : Document) (name : String) : Option Node := d.definitions.lookup name

/-- Reads a revision, a number or a label. -/
def revisionReader : Reader Revision :=
  ⟨.integerOrString, fun
    | .int n => some (.number n)
    | .text s => some (.label s)
    | _ => none⟩

/-- Decodes a document that has been read already. -/
def ofValue (value : Value) : Decoded Document := do
  let fields ← Reader.object.check "" value
  if (fields.present? "defs").isNone then failAt "" (.missing "defs")
  let lexicon ← Reader.integer.required fields "lexicon" ""
  let id ← Reader.string.required fields "id" ""
  let revision ← revisionReader.optional fields "revision" ""
  let description ← Reader.string.optional fields "description" ""
  let definitions ← decodeProperties "defs" "" fields
  return { lexicon, id, revision, description, definitions }

/-- Decodes a document given as JSON text. -/
def ofText (text : String) : Decoded Document :=
  match Json.read text with
  | .ok value => ofValue value
  | .error e => failAt "" (.badJson e)

/-- Decodes a document given as the bytes of a JSON text. -/
def ofBytes (bytes : List UInt8) : Decoded Document :=
  match Encoding.decodeJson bytes with
  | .error f => failAt "" (.badBytes f)
  | .ok chars =>
    match Json.readText (String.ofList chars) with
    | .ok value => ofValue value
    | .error e => failAt "" (.badJson e)

end Document

/-- What a document may be given as. -/
inductive Payload where
  | value (v : Value)
  | text (s : String)
  | bytes (b : List UInt8)
  | document (d : Document)
  deriving Inhabited

/-- Decodes a payload, unless it is a document already. -/
def Document.decode : Payload → Decoded Document
  | .value (.text s) => ofText s
  | .value v => ofValue v
  | .text s => ofText s
  | .bytes b => ofBytes b
  | .document d => .ok d

end Lexicon.Schema
