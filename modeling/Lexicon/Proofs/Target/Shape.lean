import Lexicon.Proofs.Target.Clash

/-!
# Lexicon — the shape of a document

A schema constrains values in many ways that no declaration shows, and endpoints have parts of
their own. What is left without all of these is the shape of the document. Here it is shown that
the shape alone decides what is declared, in which order, under which names and with which fields.

The findings of a plan do depend on the rest: two objects of one name are compared with all that
they say. So only the declarations of the plans are the same.

* `Node.shape`, `shapes`       — nodes and definitions without their constraints, and also without
                                 their descriptions unless these are kept.
* `fieldOutlines_shape`        — the fields of a struct have the same names and types.
* `introduced_shape`           — and introduce the same objects.
* `outlines_planObject_shape`, `outlines_planDocument_shape` — a plan declares the same.
-/

namespace Lexicon.Schema

-- ---------------------------------------------------------------------------
-- Shapes
-- ---------------------------------------------------------------------------

/-- A description, if descriptions are kept. -/
def noted (keeps : Bool) (description : Option String) : Option String :=
  if keeps then description else none

/-- A leaf without its constraints. -/
def Leaf.shape : Leaf → Leaf
  | .boolean _ => .boolean ⟨none, none⟩
  | .integer _ => .integer ⟨none, none, none, none, none⟩
  | .string _ => .string ⟨none, none, none, none, none, none, none, none, none⟩
  | .bytes _ => .bytes ⟨none, none⟩
  | .blob _ _ => .blob [] none
  | .union refs _ => .union refs none
  | leaf => leaf

mutual

/-- A node without its constraints, and without descriptions unless they are kept. Of an endpoint
nothing is left but that it is one. -/
def Node.shape (keeps : Bool) : Node → Node
  | .leaf description leaf => .leaf (noted keeps description) leaf.shape
  | .array description items _ => .array (noted keeps description) (items.shape keeps) ⟨none, none⟩
  | .object schema => .object (schema.shape keeps)
  | .params description properties required =>
    .params (noted keeps description) (shapes keeps properties) required
  | .record description _ schema => .record (noted keeps description) "" (schema.shape keeps)
  | .query description .. => .query (noted keeps description) none none []
  | .procedure description .. => .procedure (noted keeps description) none none none []
  | .subscription description .. => .subscription (noted keeps description) none none []

/-- An object with its properties in their order and what is said about each of them. -/
def ObjectSchema.shape (keeps : Bool) : ObjectSchema → ObjectSchema
  | .mk description properties required nullable =>
    .mk (noted keeps description) (shapes keeps properties) required nullable

/-- The shapes of named nodes. -/
def shapes (keeps : Bool) : List (String × Node) → List (String × Node)
  | [] => []
  | (name, node) :: rest => (name, node.shape keeps) :: shapes keeps rest

end

variable {keeps : Bool}

theorem shapes_eq_map (entries : List (String × Node)) :
    shapes keeps entries = entries.map fun e => (e.1, e.2.shape keeps) := by
  induction entries with
  | nil => rw [shapes, List.map_nil]
  | cons e rest ih => rw [shapes, List.map_cons, ih]

@[simp]
theorem Leaf.shape_kind (leaf : Leaf) : leaf.shape.kind = leaf.kind := by cases leaf <;> rfl

@[simp]
theorem Node.shape_kind (node : Node) : (node.shape keeps).kind = node.kind := by
  cases node with
  | leaf description leaf => rw [Node.shape, Node.kind, Node.kind, Leaf.shape_kind]
  | _ => rw [Node.shape]; rfl

theorem ObjectSchema.shape_description (schema : ObjectSchema) :
    (schema.shape keeps).description = noted keeps schema.description := by
  cases schema
  rw [ObjectSchema.shape]
  rfl

theorem ObjectSchema.shape_properties (schema : ObjectSchema) :
    (schema.shape keeps).properties = shapes keeps schema.properties := by
  cases schema
  rw [ObjectSchema.shape]
  rfl

@[simp]
theorem ObjectSchema.shape_isOptional (schema : ObjectSchema) (name : String) :
    (schema.shape keeps).isOptional name = schema.isOptional name := by
  cases schema
  rw [ObjectSchema.shape]
  rfl

theorem Node.shape_description (node : Node) :
    (node.shape keeps).description = noted keeps node.description := by
  cases node with
  | object schema => rw [Node.shape]; exact schema.shape_description
  | _ => rw [Node.shape]; rfl

@[simp]
theorem noted_none : noted keeps none = none := by cases keeps <;> rfl

/-- The description that stands for a missing one is kept where that is. -/
theorem noted_or (description own : Option String) :
    (noted keeps description).or (noted keeps own) = noted keeps (description.or own) := by
  cases keeps <;> rfl

end Lexicon.Schema

namespace Lexicon.Target

open Lexicon.Schema

-- ---------------------------------------------------------------------------
-- Types
-- ---------------------------------------------------------------------------

/-- An object described in place, in its shape. -/
def NestedObject.shape (keeps : Bool) (o : NestedObject) : NestedObject :=
  ⟨o.name, o.schema.shape keeps⟩

@[simp]
theorem NestedObject.shape_name (keeps : Bool) (o : NestedObject) :
    (o.shape keeps).name = o.name := rfl

@[simp]
theorem NestedObject.shape_schema (keeps : Bool) (o : NestedObject) :
    (o.shape keeps).schema = o.schema.shape keeps := rfl

section Types

variable (keeps : Bool) (types : TypeSettings)

/-- The object that a node describes in place is in its shape, too. -/
theorem inPlace?_shape : ∀ (hint : String) (node : Node),
    types.inPlace? hint (node.shape keeps) =
      (types.inPlace? hint node).map (NestedObject.shape keeps)
  | hint, .array description items rules => by
    rw [Node.shape, TypeSettings.inPlace?, TypeSettings.inPlace?]
    split
    · rfl
    · exact inPlace?_shape (hint ++ TypeSettings.itemSuffix) items
  | hint, .object schema => by
    rw [Node.shape, TypeSettings.inPlace?, TypeSettings.inPlace?]
    split
    · rfl
    · rfl
  | _, .leaf .. | _, .params .. | _, .record .. | _, .query .. | _, .procedure ..
  | _, .subscription .. => by rw [Node.shape]; simp [TypeSettings.inPlace?]

/-- What is written of a type: its name, with and without its `Option`. -/
def FieldType.names (type : FieldType) : Value × Value × Bool :=
  (type.name, type.baseName, type.isOption)

theorem plainType_names_shape (hint : String) (node : Node) :
    (types.plainType hint (node.shape keeps)).names = (types.plainType hint node).names := by
  unfold TypeSettings.plainType
  rw [Node.shape_kind]
  cases types.override? node.kind with
  | some name => rfl
  | none =>
    cases types.scalar? node.kind with
    | some name => rfl
    | none =>
      cases node with
      | leaf description leaf =>
        rw [Node.shape]
        cases leaf <;> rfl
      | _ => rw [Node.shape]; rfl

/-- Only lists have a type that is made from another one. -/
theorem baseType_of_kind (hint : String) {node : Node} (h : node.kind ≠ .array) :
    types.baseType hint node = types.plainType hint node := by
  rw [TypeSettings.baseType]
  rintro _ _ _ rfl
  exact h rfl

theorem baseType_names_of_kind (hint : String) {node : Node} (h : node.kind ≠ .array) :
    (types.baseType hint (node.shape keeps)).names = (types.baseType hint node).names := by
  have hShape : (node.shape keeps).kind ≠ .array := by rwa [Node.shape_kind]
  rw [baseType_of_kind types hint hShape, baseType_of_kind types hint h, plainType_names_shape]

/-- A node has the type of its shape. -/
theorem baseType_names_shape : ∀ (hint : String) (node : Node),
    (types.baseType hint (node.shape keeps)).names = (types.baseType hint node).names
  | hint, .array description items rules => by
    have hPlain := plainType_names_shape keeps types hint (.array description items rules)
    have hItems := baseType_names_shape (hint ++ TypeSettings.itemSuffix) items
    have hName : (types.baseType (hint ++ TypeSettings.itemSuffix) (items.shape keeps)).name =
        (types.baseType (hint ++ TypeSettings.itemSuffix) items).name := congrArg Prod.fst hItems
    rw [Node.shape] at hPlain ⊢
    rw [TypeSettings.baseType, TypeSettings.baseType]
    split
    · exact hPlain
    · rw [TypeSettings.sequenceOf, TypeSettings.sequenceOf, hName]
      rfl
  | hint, .leaf _ leaf =>
    baseType_names_of_kind keeps types hint (by cases leaf <;> simp [Node.kind, Leaf.kind])
  | hint, .object _ | hint, .params .. | hint, .record .. | hint, .query ..
  | hint, .procedure .. | hint, .subscription .. =>
    baseType_names_of_kind keeps types hint (by simp [Node.kind])

/-- And so has a field. -/
theorem fieldType_names_shape (owner property : String) (optional : Bool) (node : Node) :
    (types.fieldType owner property optional (node.shape keeps)).names =
      (types.fieldType owner property optional node).names := by
  have hBase := baseType_names_shape keeps types (Naming.nestedName owner property) node
  obtain ⟨hName, hRest⟩ := Prod.mk.inj hBase
  obtain ⟨hBaseName, hIsOption⟩ := Prod.mk.inj hRest
  rw [TypeSettings.fieldType, TypeSettings.fieldType]
  cases optional with
  | false => exact hBase
  | true =>
    simp only [if_true, FieldType.asOption]
    rw [hIsOption]
    split
    · exact hBase
    · simp only [FieldType.names, hName, hBaseName]

/-- `Echoes keeps field other`: the second field is written as the first one is, only that its
description is kept or not. -/
structure FieldOutline.Echoes (field other : FieldOutline) : Prop where
  wireName : other.wireName = field.wireName
  type : other.type.name = field.type.name
  isOptional : other.isOptional = field.isOptional
  description : other.description = noted keeps field.description

/-- **The fields of a struct** are written alike for an object and for its shape. -/
theorem fieldOutlines_shape (owner : String) (schema : ObjectSchema) :
    List.Forall₂ (FieldOutline.Echoes keeps) (fieldOutlines types owner schema)
      (fieldOutlines types owner (schema.shape keeps)) := by
  rw [fieldOutlines, fieldOutlines, ObjectSchema.shape_properties, shapes_eq_map, List.map_map,
    List.forall₂_map_left_iff, List.forall₂_map_right_iff, List.forall₂_same]
  rintro ⟨property, node⟩ -
  refine ⟨rfl, ?_, schema.shape_isOptional property, node.shape_description⟩
  dsimp only [Function.comp_apply]
  rw [ObjectSchema.shape_isOptional]
  exact congrArg Prod.fst (fieldType_names_shape keeps types owner property _ node)

end Types

-- ---------------------------------------------------------------------------
-- Plans
-- ---------------------------------------------------------------------------

/-- A declaration of the shape of what is declared. -/
def Outline.shape (keeps : Bool) : Outline → Outline
  | .struct name description schema =>
    .struct name (noted keeps description) (schema.shape keeps)
  | .enum name description variants => .enum name (noted keeps description) variants
  | .placeholder name kind => .placeholder name kind

@[simp]
theorem Outline.shape_declared? (keeps : Bool) (outline : Outline) :
    (outline.shape keeps).declared? = outline.declared? := by
  cases outline <;> rfl

section Plans

variable (keeps : Bool) (s : PlanSettings)

/-- The declarations of a plan that begins with findings and a declaration. -/
theorem outlines_declare (definition : String) (findings : List Finding) (outline : Outline)
    (rest : List Step) :
    outlines (findings.map (fun finding => .report ⟨definition, finding⟩) ++
      .declare outline :: rest) = outline :: outlines rest := by
  rw [outlines, List.filterMap_append]
  exact congrArg (· ++ outline :: outlines rest) (outlines_reports definition findings)

/-- Plans that declare the shapes of what others declare take the same names. -/
theorem declaredNames_shape {steps others : List Step}
    (h : outlines others = (outlines steps).map (Outline.shape keeps)) :
    declaredNames others = declaredNames steps := by
  rw [declaredNames, declaredNames, h, List.filterMap_map]
  exact List.filterMap_congr fun outline _ => outline.shape_declared? keeps

theorem unseen_shape (seen : List String) (objects : List NestedObject) :
    unseen seen (objects.map (NestedObject.shape keeps)) =
      (unseen seen objects).map (NestedObject.shape keeps) := by
  induction objects generalizing seen with
  | nil => rfl
  | cons o rest ih =>
    rw [List.map_cons, unseen, unseen, NestedObject.shape_name, ih, ih]
    split
    · rfl
    · rfl

/-- **What the fields introduce** for the shape of an object are the shapes of the objects that
they introduce for it. -/
theorem introduced_shape (owner : String) (schema : ObjectSchema) :
    introduced s.types owner (schema.shape keeps) =
      (introduced s.types owner schema).map (NestedObject.shape keeps) := by
  have hObject : ∀ property : String × Node,
      s.types.propertyObject? owner (property.1, property.2.shape keeps) =
        (s.types.propertyObject? owner property).map (NestedObject.shape keeps) :=
    fun property => inPlace?_shape keeps s.types _ property.2
  rw [introduced_eq, introduced_eq, ObjectSchema.shape_properties, shapes_eq_map,
    List.filterMap_map, ← unseen_shape, List.map_filterMap]
  exact congrArg (unseen []) (List.filterMap_congr fun property _ => hObject property)

/-- The declarations of a plan for several objects, told from those of the plans for each. -/
theorem outlines_planAll_shape {definition : String} {objects : List NestedObject}
    (hObjects : ∀ o ∈ objects, ∀ taken,
      outlines (planObject s taken definition o.name none (o.schema.shape keeps)) =
        (outlines (planObject s taken definition o.name none o.schema)).map (Outline.shape keeps))
    (taken : List String) :
    outlines (planAll s taken definition (objects.map (NestedObject.shape keeps))) =
      (outlines (planAll s taken definition objects)).map (Outline.shape keeps) := by
  induction objects generalizing taken with
  | nil => rfl
  | cons o rest ih =>
    have hFirst : outlines (planIntroduced s taken definition (o.shape keeps)) =
        (outlines (planIntroduced s taken definition o)).map (Outline.shape keeps) := by
      rw [planIntroduced, planIntroduced, NestedObject.shape_name, NestedObject.shape_schema]
      split
      · rfl
      · exact hObjects o (List.mem_cons_self ..) taken
    have hRest := ih (fun x hx => hObjects x (List.mem_cons_of_mem _ hx))
    rw [List.map_cons, planAll, planAll, declaredNames_shape keeps hFirst, outlines,
      List.filterMap_append, outlines, List.filterMap_append, List.map_append]
    exact congrArg₂ (· ++ ·) hFirst (hRest _)

/-- **The plan for an object** declares the shapes of what it would declare for the object itself:
by induction along what is introduced, for the findings are no declarations. -/
theorem outlines_planObject_shape (taken : List String) (definition name : String)
    (description : Option String) (schema : ObjectSchema) :
    outlines (planObject s taken definition name (noted keeps description) (schema.shape keeps)) =
      (outlines (planObject s taken definition name description schema)).map
        (Outline.shape keeps) := by
  induction schema using introduced_induction s.types generalizing taken name description with
  | hStep schema ih =>
    have hBelow : ∀ o ∈ introduced s.types name schema, ∀ taken,
        outlines (planObject s taken definition o.name none (o.schema.shape keeps)) =
          (outlines (planObject s taken definition o.name none o.schema)).map
            (Outline.shape keeps) := by
      intro o ho taken
      have hObject := ih name o ho taken o.name none
      rwa [noted_none] at hObject
    rw [planObject_eq, planObject_eq, introduced_shape, ObjectSchema.shape_description, noted_or,
      outlines_declare, outlines_declare, outlines_planAll_shape keeps s hBelow]
    rfl

/-- The plan for a definition declares its shape, and the shapes of what is nested below it. -/
theorem outlines_planDefinition_shape (taken : List String) (name : String) (node : Node) :
    outlines (planDefinition s taken name (node.shape keeps)) =
      (outlines (planDefinition s taken name node)).map (Outline.shape keeps) := by
  cases node with
  | object schema =>
    have hObject := outlines_planObject_shape keeps s taken name name none schema
    rw [noted_none] at hObject
    rw [Node.shape]
    exact hObject
  | record description key schema =>
    rw [Node.shape, planDefinition, planDefinition]
    split
    · exact outlines_planObject_shape keeps s taken name name description schema
    · rfl
  | leaf description leaf =>
    rw [Node.shape]
    cases leaf with
    | union refs closed =>
      rw [Leaf.shape, planDefinition, planDefinition, outlines_declare, outlines_declare]
      rfl
    | _ => rfl
  | _ =>
    rw [Node.shape]
    rfl

/-- **The plan for a document** declares the shapes of what it would declare for the document
itself. -/
theorem outlines_planDocument_shape (taken : List String) (definitions : List (String × Node)) :
    outlines (planDocument s taken (shapes keeps definitions)) =
      (outlines (planDocument s taken definitions)).map (Outline.shape keeps) := by
  induction definitions generalizing taken with
  | nil =>
    rw [shapes]
    rfl
  | cons p rest ih =>
    obtain ⟨name, node⟩ := p
    have hFirst := outlines_planDefinition_shape keeps s taken name node
    rw [shapes, planDocument, planDocument, declaredNames_shape keeps hFirst, outlines,
      List.filterMap_append, outlines, List.filterMap_append, List.map_append]
    exact congrArg₂ (· ++ ·) hFirst (ih _)

end Plans

end Lexicon.Target
