import Lexicon.Naming.Style
import Lexicon.Naming.Reference
import Lexicon.Schema.Node
import Lexicon.Value.Display

/-!
# Lexicon — the Rust types of fields

Every schema node has a type when it stands as a property of an object. The types
of scalars are settings and so are overrides for whole kinds of node; a reference is
the name of its target, a list wraps the type of its items, and an object described
in place is given a name of its own. What has no mapping falls back to a configured
type, and a hint says so.

* `TypeSettings`       — the configured types.
* `WrapPattern`        — how the type of a list is written around the type of its items.
* `FieldType`          — a type with the nested objects and the hints that come with it.
* `TypeSettings.fieldType` — the type of a property.

A configured type may be any value; where it is written into a text, it is displayed.
-/

namespace Lexicon.Target

open Lexicon.Schema

-- ---------------------------------------------------------------------------
-- Patterns
-- ---------------------------------------------------------------------------

/-- A piece of a pattern: a character, or the place of the item type. -/
inductive PatternPiece where
  | char (c : Char)
  | place
  deriving DecidableEq, Repr, Inhabited

/-- How the type of a list is written around the type of its items. -/
abbrev WrapPattern := List PatternPiece

namespace WrapPattern

/-- What can be wrong with the text of a pattern: a brace that stands alone, a place
of another number, a place of another name, places of both ways of numbering. -/
inductive Fault where
  | loneBrace
  | noSuchNumber
  | noSuchName
  | mixedNumbers
  deriving DecidableEq, Repr, Inhabited

/-- How the places of a pattern are numbered: by their order, or each by the number in
its braces. The first place decides. -/
inductive Numbering where
  | undecided
  | byOrder
  | written
  deriving DecidableEq, Repr, Inhabited

/-- Reads the rest of a pattern. -/
def readFrom : Numbering → List Char → Except Fault WrapPattern
  | _, [] => .ok []
  | n, '\x7b' :: '\x7b' :: rest => (PatternPiece.char '\x7b' :: ·) <$> readFrom n rest
  | n, '\x7d' :: '\x7d' :: rest => (PatternPiece.char '\x7d' :: ·) <$> readFrom n rest
  | n, '\x7b' :: '\x7d' :: rest =>
    match n with
    | .undecided => (PatternPiece.place :: ·) <$> readFrom .byOrder rest
    | .byOrder => .error .noSuchNumber
    | .written => .error .mixedNumbers
  | n, '\x7b' :: '0' :: '\x7d' :: rest =>
    if n = .byOrder then .error .mixedNumbers
    else (PatternPiece.place :: ·) <$> readFrom .written rest
  | n, '\x7b' :: rest =>
    if !rest.contains '\x7d' then .error .loneBrace
    else if (rest.takeWhile (· != '\x7d')).all Char.isDigit then
      .error (if n = .byOrder then .mixedNumbers else .noSuchNumber)
    else .error .noSuchName
  | _, '\x7d' :: _ => .error .loneBrace
  | n, c :: rest => (PatternPiece.char c :: ·) <$> readFrom n rest

/-- Reads a pattern. A place is written as an empty pair of braces, of which there may
be one, or around the number 0; a doubled brace is a brace. -/
def read (text : List Char) : Except Fault WrapPattern := readFrom .undecided text

/-- The pattern `Vec<…>`. -/
def vec : WrapPattern := "Vec<".toList.map .char ++ [.place, .char '>']

/-- Writes the item type into the pattern. -/
def fill (pattern : WrapPattern) (item : String) : String :=
  String.ofList (pattern.flatMap fun
    | .char c => [c]
    | .place => item.toList)

end WrapPattern

-- ---------------------------------------------------------------------------
-- Settings
-- ---------------------------------------------------------------------------

/-- The configured types; `overrides` are keyed by the names of kinds. -/
structure TypeSettings where
  int : Value := .text "i64"
  string : Value := .text "String"
  bool : Value := .text "bool"
  bytes : Value := .text "Vec<u8>"
  cidLink : Value := .null
  fallback : Value := .text "String"
  sequence : WrapPattern := .vec
  overrides : Fields := []
  deriving Inhabited

namespace TypeSettings

/-- The type set for all nodes of a kind. -/
def override? (settings : TypeSettings) (kind : Kind) : Option Value :=
  settings.overrides.lookup kind.name

/-- The type set for a scalar. One that is null counts as not set, and links are
strings unless set otherwise. -/
def scalar? (settings : TypeSettings) (kind : Kind) : Option Value :=
  let set? : Value → Option Value := fun
    | .null => none
    | value => some value
  match kind with
  | .string => set? settings.string
  | .integer => set? settings.int
  | .boolean => set? settings.bool
  | .bytes => set? settings.bytes
  | .cidLink => set? (if settings.cidLink.truthy then settings.cidLink else settings.string)
  | _ => none

end TypeSettings

-- ---------------------------------------------------------------------------
-- Types
-- ---------------------------------------------------------------------------

/-- An object described in place, which needs a declaration of its own. -/
structure NestedObject where
  name : String
  schema : ObjectSchema
  deriving Inhabited

/-- The hint that a kind has no mapping and which type was taken for it. -/
structure Hint where
  kind : Kind
  fallback : Value
  deriving Inhabited

/-- The wording of a hint. -/
def Hint.message (hint : Hint) : String :=
  "'" ++ hint.kind.name ++ "' has no field mapping, using fallback " ++ hint.fallback.display

/-- The type of a field, with what comes with it. `baseName` is the type without its
`Option`. -/
structure FieldType where
  name : Value
  baseName : Value
  isOption : Bool
  nested : List NestedObject
  hints : List Hint
  deriving Inhabited

namespace FieldType

/-- The type of a given name. -/
def named (name : Value) : FieldType :=
  { name, baseName := name, isOption := false, nested := [], hints := [] }

/-- The type wrapped in an `Option`, unless it is so already. A base name that says
nothing gives way to the new name. -/
def asOption (type : FieldType) : FieldType :=
  if type.isOption then type
  else
    let name := Value.text ("Option<" ++ type.name.display ++ ">")
    { type with
      name
      baseName := if type.baseName.truthy then type.baseName else name
      isOption := true }

end FieldType

namespace TypeSettings

/-- The suffix to the name of an object that is described in place as a list item. -/
def itemSuffix : String := "Item"

/-- The type of a node that is not a list, or whose kind is overridden. An object
described in place takes the name `hint`. -/
def plainType (settings : TypeSettings) (hint : String) (node : Node) : FieldType :=
  match settings.override? node.kind with
  | some name => .named name
  | none =>
    match settings.scalar? node.kind with
    | some name => .named name
    | none =>
      match node with
      | .leaf _ (.ref target) => .named (.text (Naming.tail target))
      | .object schema => { FieldType.named (.text hint) with nested := [⟨hint, schema⟩] }
      | node => { FieldType.named settings.fallback with hints := [⟨node.kind, settings.fallback⟩] }

/-- The type of a list whose items have the given type. -/
def sequenceOf (settings : TypeSettings) (item : FieldType) : FieldType :=
  { FieldType.named (.text (settings.sequence.fill item.name.display)) with
    nested := item.nested
    hints := item.hints }

/-- The type of a node, its being optional left out of account. -/
def baseType (settings : TypeSettings) (hint : String) : Node → FieldType
  | .array d items rules =>
    if (settings.override? .array).isSome then settings.plainType hint (.array d items rules)
    else settings.sequenceOf (settings.baseType (hint ++ itemSuffix) items)
  | node => settings.plainType hint node

/-- The type of a property of `owner`. -/
def fieldType (settings : TypeSettings) (owner property : String) (optional : Bool)
    (node : Node) : FieldType :=
  let type := settings.baseType (Naming.nestedName owner property) node
  if optional then type.asOption else type

end TypeSettings

end Lexicon.Target
