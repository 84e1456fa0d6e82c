/-!
# Lexicon — schema nodes

A lexicon document describes data by a tree of *nodes*. Eighteen kinds of node
exist; most of them have no node below them and are gathered in `Leaf`.

* `Kind`         — the eighteen kinds with their names.
* `Leaf`         — what a node without inner nodes says.
* `Node`         — the tree; `ObjectSchema` is the part of it that describes an object,
                   which a record embeds as well.
* `ObjectSchema.isOptional`, `undeclaredNames` — when a property may be missing, and
                   which listed names are no properties.

A record holds an `ObjectSchema`, so that a record of anything but an object
cannot be built.
-/

namespace Lexicon.Schema

-- ---------------------------------------------------------------------------
-- Kinds
-- ---------------------------------------------------------------------------

/-- The kinds of node. -/
inductive Kind where
  | boolean | integer | string | bytes | blob | cidLink | unknown | null | token
  | array | object | params | record | union | ref | query | procedure | subscription
  deriving DecidableEq, Repr, Inhabited

namespace Kind

/-- All kinds. -/
def all : List Kind :=
  [boolean, integer, string, bytes, blob, cidLink, unknown, null, token, array, object, params,
   record, union, ref, query, procedure, subscription]

/-- The name of a kind, as a document's `type` entry gives it. -/
def name : Kind → String
  | boolean => "boolean"
  | integer => "integer"
  | string => "string"
  | bytes => "bytes"
  | blob => "blob"
  | cidLink => "cid-link"
  | unknown => "unknown"
  | null => "null"
  | token => "token"
  | array => "array"
  | object => "object"
  | params => "params"
  | record => "record"
  | union => "union"
  | ref => "ref"
  | query => "query"
  | procedure => "procedure"
  | subscription => "subscription"

/-- The kind of a given name. -/
def ofName? (s : String) : Option Kind := all.find? fun k => k.name == s

theorem ofName?_name (k : Kind) : ofName? k.name = some k := by cases k <;> decide

end Kind

-- ---------------------------------------------------------------------------
-- Nodes without inner nodes
-- ---------------------------------------------------------------------------

/-- Constraints on a boolean. -/
structure BooleanRules where
  default : Option Bool
  const : Option Bool
  deriving DecidableEq, Repr, Inhabited

/-- Constraints on an integer. -/
structure IntegerRules where
  minimum : Option Int
  maximum : Option Int
  enum : Option (List Int)
  default : Option Int
  const : Option Int
  deriving DecidableEq, Repr, Inhabited

/-- Constraints on a string. -/
structure StringRules where
  format : Option String
  maxLength : Option Int
  minLength : Option Int
  maxGraphemes : Option Int
  minGraphemes : Option Int
  knownValues : Option (List String)
  enum : Option (List String)
  default : Option String
  const : Option String
  deriving DecidableEq, Repr, Inhabited

/-- Bounds on a length. -/
structure LengthRules where
  maxLength : Option Int
  minLength : Option Int
  deriving DecidableEq, Repr, Inhabited

/-- What a node without inner nodes says. -/
inductive Leaf where
  | boolean (rules : BooleanRules)
  | integer (rules : IntegerRules)
  | string (rules : StringRules)
  | bytes (rules : LengthRules)
  | blob (accept : List String) (maxSize : Option Int)
  | cidLink
  | unknown
  | null
  | token
  | union (refs : List String) (closed : Option Bool)
  | ref (target : String)
  deriving DecidableEq, Repr, Inhabited

/-- The kind of a leaf. -/
def Leaf.kind : Leaf → Kind
  | .boolean _ => .boolean
  | .integer _ => .integer
  | .string _ => .string
  | .bytes _ => .bytes
  | .blob _ _ => .blob
  | .cidLink => .cidLink
  | .unknown => .unknown
  | .null => .null
  | .token => .token
  | .union _ _ => .union
  | .ref _ => .ref

-- ---------------------------------------------------------------------------
-- The tree
-- ---------------------------------------------------------------------------

/-- A body that an endpoint takes or gives. -/
structure Body (α : Type) where
  encoding : String
  schema : Option α
  description : Option String
  deriving Repr, Inhabited

/-- A message that a subscription sends. -/
structure Message (α : Type) where
  schema : α
  description : Option String
  deriving Repr, Inhabited

/-- A named error that an endpoint may answer with. -/
structure ErrorVariant where
  name : String
  description : Option String
  deriving DecidableEq, Repr, Inhabited

mutual

/-- A schema node. -/
inductive Node where
  | leaf (description : Option String) (leaf : Leaf)
  | array (description : Option String) (items : Node) (rules : LengthRules)
  | object (schema : ObjectSchema)
  | params (description : Option String) (properties : List (String × Node))
      (required : List String)
  | record (description : Option String) (key : String) (schema : ObjectSchema)
  | query (description : Option String) (parameters : Option Node) (output : Option (Body Node))
      (errors : List ErrorVariant)
  | procedure (description : Option String) (parameters : Option Node)
      (input output : Option (Body Node)) (errors : List ErrorVariant)
  | subscription (description : Option String) (parameters : Option Node)
      (message : Option (Message Node)) (errors : List ErrorVariant)

/-- The description of an object: its properties in order, and which of them must
be there and which may be null. -/
inductive ObjectSchema where
  | mk (description : Option String) (properties : List (String × Node))
      (required nullable : List String)

end

instance : Inhabited Node := ⟨.leaf none .unknown⟩

instance : Inhabited ObjectSchema := ⟨.mk none [] [] []⟩

namespace ObjectSchema

/-- The description of the object. -/
def description : ObjectSchema → Option String
  | mk d _ _ _ => d

/-- The properties, in order. -/
def properties : ObjectSchema → List (String × Node)
  | mk _ p _ _ => p

/-- The names that must be there. -/
def required : ObjectSchema → List String
  | mk _ _ r _ => r

/-- The names that may be null. -/
def nullable : ObjectSchema → List String
  | mk _ _ _ n => n

/-- A property is optional when it is not required or when it is nullable. -/
def isOptional (schema : ObjectSchema) (name : String) : Bool :=
  !schema.required.contains name || schema.nullable.contains name

end ObjectSchema

namespace Node

/-- The kind of a node. -/
def kind : Node → Kind
  | leaf _ l => l.kind
  | array .. => .array
  | object .. => .object
  | params .. => .params
  | record .. => .record
  | query .. => .query
  | procedure .. => .procedure
  | subscription .. => .subscription

/-- The description of a node. -/
def description : Node → Option String
  | leaf d _ => d
  | array d _ _ => d
  | object s => s.description
  | params d _ _ => d
  | record d _ _ => d
  | query d _ _ _ => d
  | procedure d _ _ _ _ => d
  | subscription d _ _ _ => d

end Node

-- ---------------------------------------------------------------------------
-- Listed names
-- ---------------------------------------------------------------------------

/-- Is there a property of the name? -/
def declares (properties : List (String × Node)) (name : String) : Bool :=
  properties.any fun p => p.1 == name

/-- The members of `names` that are no properties, in order. -/
def undeclared (properties : List (String × Node)) (names : List String) : List String :=
  names.filter fun name => !declares properties name

/-- The names an object lists as required or nullable that are no properties,
each of them once. -/
def ObjectSchema.undeclaredNames (schema : ObjectSchema) : List String :=
  (undeclared schema.properties (schema.required ++ schema.nullable)).eraseDups

/-- The names a node lists that are no properties; parameters give each as often
as they list it. A node of another kind lists none. -/
def Node.undeclaredNames : Node → List String
  | .object schema => schema.undeclaredNames
  | .params _ properties required => undeclared properties required
  | _ => []

end Lexicon.Schema
