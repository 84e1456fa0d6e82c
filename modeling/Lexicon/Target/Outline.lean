import Lexicon.Diagnostic
import Lexicon.Schema.Equality

/-!
# Lexicon — what to declare, and in which order

A document is first turned into a list of *steps*: the declarations to write, in
order, and between them the findings, each where it is met. No text is written here,
so that the order of declarations and the choice of names can be reasoned about
alone.

* `Outline`        — a declaration to be written.
* `Step`           — a finding to report or a declaration to write.
* `FieldOutline`   — a field of a struct, `fieldOutlines` lists them.
* `planDefinition` — the steps for one definition.
* `planDocument`   — the steps for all definitions of a document.

A struct is followed by the structs of the objects that are described in place below
it, depth first. Such an object is left out, with a finding, if its name belongs to a
definition or to a declaration made before.
-/

namespace Lexicon.Target

open Lexicon.Schema

-- ---------------------------------------------------------------------------
-- Declarations
-- ---------------------------------------------------------------------------

/-- A declaration to be written. -/
inductive Outline where
  | struct (name : String) (description : Option String) (schema : ObjectSchema)
  | enum (name : String) (description : Option String) (variants : List String)
  | placeholder (name : String) (kind : Kind)
  deriving Inhabited

/-- The type that an outline declares; a placeholder declares none. -/
def Outline.declared? : Outline → Option String
  | .struct name _ _ => some name
  | .enum name _ _ => some name
  | .placeholder _ _ => none

/-- A step of generation. -/
inductive Step where
  | report (d : Diagnostic)
  | declare (outline : Outline)
  deriving Inhabited

/-- The outline that a step writes. -/
def Step.outline? : Step → Option Outline
  | .report _ => none
  | .declare outline => some outline

/-- The declarations among some steps. -/
def outlines (steps : List Step) : List Outline := steps.filterMap Step.outline?

/-- The types that some steps declare, in order. -/
def declaredNames (steps : List Step) : List String := (outlines steps).filterMap Outline.declared?

-- ---------------------------------------------------------------------------
-- Fields
-- ---------------------------------------------------------------------------

/-- A field of a struct. -/
structure FieldOutline where
  wireName : String
  type : FieldType
  isOptional : Bool
  description : Option String
  deriving Inhabited

/-- The fields of the struct `owner`, one for each property and in their order. -/
def fieldOutlines (types : TypeSettings) (owner : String) (schema : ObjectSchema) :
    List FieldOutline :=
  schema.properties.map fun (property, node) =>
    let isOptional := schema.isOptional property
    { wireName := property
      type := types.fieldType owner property isOptional node
      isOptional
      description := node.description }

/-- The objects that some fields introduce, the first of each name. -/
def distinctNested (seen : List NestedObject) : List NestedObject → List NestedObject
  | [] => seen
  | object :: rest =>
    if seen.any fun o => o.name == object.name then distinctNested seen rest
    else distinctNested (seen ++ [object]) rest

/-- The clashes of newly introduced objects with those seen before. -/
def nestedClashes (place : String) (seen : List NestedObject) :
    List NestedObject → List Finding
  | [] => []
  | object :: rest =>
    match seen.find? fun o => o.name == object.name with
    | none => nestedClashes place (seen ++ [object]) rest
    | some other =>
      if other.schema.same object.schema then nestedClashes place seen rest
      else .usedByOther place object.name :: nestedClashes place seen rest

/-- What there is to say about the fields of the struct `owner`: for each of them the
hints of its type, then the clashes of its objects with those `seen` before. -/
def fieldFindings (owner : String) (seen : List NestedObject) :
    List FieldOutline → List Finding
  | [] => []
  | field :: rest =>
    let place := owner ++ "." ++ field.wireName
    field.type.hints.map (.fellBack place) ++ nestedClashes place seen field.type.nested ++
      fieldFindings owner (distinctNested seen field.type.nested) rest

-- ---------------------------------------------------------------------------
-- Variants
-- ---------------------------------------------------------------------------

/-- The names of a union's members, each once and in order, those `seen` left out. -/
def variantNames (seen : List String) : List String → List String
  | [] => []
  | reference :: rest =>
    let variant := Naming.tail reference
    if seen.contains variant then variantNames seen rest
    else variant :: variantNames (variant :: seen) rest

/-- The members of a union whose name was met before. -/
def variantFindings (seen : List String) : List String → List Finding
  | [] => []
  | reference :: rest =>
    let variant := Naming.tail reference
    if seen.contains variant then .sameVariant variant reference :: variantFindings seen rest
    else variantFindings (variant :: seen) rest

-- ---------------------------------------------------------------------------
-- Planning
-- ---------------------------------------------------------------------------

/-- What planning depends on beside the document: the types of fields, whether records
are declared, and the names of the document's definitions. -/
structure PlanSettings where
  types : TypeSettings
  expandsRecords : Bool
  definitions : List String
  deriving Inhabited

mutual

/-- The steps for an object: its findings, its struct, and what is nested below it.
The names in `taken` have been declared before. -/
def planObject (s : PlanSettings) (taken : List String) (definition name : String)
    (description : Option String) : ObjectSchema → List Step
  | .mk own properties required nullable =>
    let schema := ObjectSchema.mk own properties required nullable
    (fieldFindings name [] (fieldOutlines s.types name schema)).map (.report ⟨definition, ·⟩) ++
      .declare (.struct name (description.or own) schema) ::
      planProperties s (name :: taken) definition name [] properties

/-- The steps for the objects described in place in the properties of `owner`. The
names in `seen` belong to earlier properties. -/
def planProperties (s : PlanSettings) (taken : List String) (definition owner : String)
    (seen : List String) : List (String × Node) → List Step
  | [] => []
  | (property, node) :: rest =>
    let hint := Naming.nestedName owner property
    let steps := planNested s taken definition seen hint node
    let named := (s.types.baseType hint node).nested.map NestedObject.name
    steps ++ planProperties s (declaredNames steps ++ taken) definition owner (named ++ seen) rest

/-- The steps for the object that a node describes in place, if it does. -/
def planNested (s : PlanSettings) (taken : List String) (definition : String)
    (seen : List String) (hint : String) : Node → List Step
  | .array _ items _ =>
    if (s.types.override? .array).isSome then []
    else planNested s taken definition seen (hint ++ TypeSettings.itemSuffix) items
  | .object schema =>
    if (s.types.override? .object).isSome || seen.contains hint then []
    else if taken.contains hint || s.definitions.contains hint then
      [.report ⟨definition, .alreadyDeclared hint⟩]
    else planObject s taken definition hint none schema
  | _ => []

end

/-- The steps for a definition. -/
def planDefinition (s : PlanSettings) (taken : List String) (name : String) :
    Node → List Step
  | .object schema => planObject s taken name name none schema
  | .leaf description (.union refs _) =>
    (variantFindings [] refs).map (.report ⟨name, ·⟩) ++
      [.declare (.enum name description (variantNames [] refs))]
  | .record description key schema =>
    if s.expandsRecords then planObject s taken name name description schema
    else
      let kind := (Node.record description key schema).kind
      [.report ⟨name, .notDeclared kind⟩, .declare (.placeholder name kind)]
  | node => [.report ⟨name, .notDeclared node.kind⟩, .declare (.placeholder name node.kind)]

/-- The steps for several definitions, one after the other. -/
def planDocument (s : PlanSettings) (taken : List String) : List (String × Node) → List Step
  | [] => []
  | (name, node) :: rest =>
    let steps := planDefinition s taken name node
    steps ++ planDocument s (declaredNames steps ++ taken) rest

end Lexicon.Target
