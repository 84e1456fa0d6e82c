import Lexicon.Proofs.Generator.Attributes
import Lexicon.Proofs.Generator.Blocks
import Lexicon.Proofs.Target.FieldType
import Lexicon.Proofs.Target.Word

/-!
# Lexicon — the fields of a struct

The template of a struct is filled from a list of fields. Each of them is read back here: how
its identifier is written, its type, and the attribute that keeps its wire name.

* `FieldEntry`            — a field as it is read back from the list, with `wireName`.
* `Describes`             — the field describes a property.
* `fieldList_describes`   — in every state of a generator the list holds one field for each
                            property, in order, and identifiers are settled one by one.
-/

namespace Lexicon.Generator

open Schema Target

-- ---------------------------------------------------------------------------
-- Attributes
-- ---------------------------------------------------------------------------

/-- The value that an attribute line sets a key to, if it does. -/
def readAttribute (key line : String) : Option String :=
  let opening := ("#[serde(" ++ key ++ " = ").toList
  if opening.isPrefixOf line.toList then
    match readLiteral (line.toList.drop opening.length) with
    | some (value, rest) => if rest = [')', ']'] then some value else none
    | none => none
  else none

/-- An attribute line is read as it was written. -/
theorem readAttribute_serdeAttribute (key value : String) :
    readAttribute key (serdeAttribute key value) = some value := by
  rw [readAttribute, toList_serdeAttribute]
  rw [if_pos (List.isPrefixOf_iff_prefix.mpr (List.prefix_append ..)), List.drop_left,
    readLiteral_literal]
  rfl

/-- The attribute of a field that is left out when empty keeps no wire name. -/
theorem readAttribute_skip :
    readAttribute "rename" (serdeAttribute "skip_serializing_if" "Option::is_none") = none := by
  decide +kernel

/-- The wire name of an identifier is read back from its attribute if there is one, and else from
how it is written. Other attributes make no difference. -/
theorem readBack_wireName {identifier : Naming.Identifier} {others : List String}
    (hWord : IsWord identifier.name)
    (hDeclared : identifier.declared = Target.written identifier.name)
    (hOthers : others.findSome? (readAttribute "rename") = none) :
    ((renameAttributes identifier ++ others).findSome? (readAttribute "rename")).getD
      (withoutEscape identifier.declared) = identifier.wireName := by
  rw [renameAttributes]
  by_cases hRenamed : identifier.isRenamed = true
  · rw [if_pos hRenamed, List.singleton_append, List.findSome?_cons,
      readAttribute_serdeAttribute]
    rfl
  · -- no attribute keeps a wire name, so the identifier says it
    rw [if_neg hRenamed, List.nil_append, hOthers, Option.getD_none, hDeclared,
      withoutEscape_written hWord]
    rw [Naming.Identifier.isRenamed, bne_iff_ne, not_not] at hRenamed
    exact hRenamed

-- ---------------------------------------------------------------------------
-- Fields read back
-- ---------------------------------------------------------------------------

/-- A field as it is read back: its identifier as it is written, its type, and its attribute
lines. -/
structure FieldEntry where
  declared : String
  type : Value
  attributes : List String

namespace FieldEntry

/-- The text that a value is. -/
def text? : Value → Option String
  | .text s => some s
  | _ => none

/-- Reads a field of a struct's field list. -/
def ofValue? : Value → Option FieldEntry
  | .mapping entries =>
    match entries.lookup "name", entries.lookup "type", entries.lookup "attributes" with
    | some (.text declared), some type, some (.list attributes) =>
      some { declared, type, attributes := attributes.filterMap text? }
    | _, _, _ => none
  | _ => none

/-- The name of the field on the wire: what its attribute says, or else its identifier without
the escape. -/
def wireName (entry : FieldEntry) : String :=
  (entry.attributes.findSome? (readAttribute "rename")).getD (withoutEscape entry.declared)

/-- The field that is written for an outline under an identifier. -/
def written (g : Generator) (field : FieldOutline) (identifier : Naming.Identifier) : FieldEntry :=
  { declared := identifier.declared
    type := field.type.name
    attributes := renameAttributes identifier ++ g.skipAttributes field }

theorem filterMap_text? (texts : List String) : (texts.map Value.text).filterMap text? = texts := by
  rw [List.filterMap_map]
  exact List.filterMap_some

/-- A field is read back as it was written. -/
theorem ofValue?_fieldValue (g : Generator) (field : FieldOutline)
    (identifier : Naming.Identifier) :
    ofValue? (g.fieldValue field identifier) = some (written g field identifier) := by
  rw [written, ← filterMap_text? (renameAttributes identifier ++ g.skipAttributes field)]
  rfl

/-- **The wire name is kept**, by an attribute if the identifier does not say it. -/
theorem written_wireName (g : Generator) (field : FieldOutline) {identifier : Naming.Identifier}
    (hWord : IsWord identifier.name)
    (hDeclared : identifier.declared = Target.written identifier.name) :
    (written g field identifier).wireName = identifier.wireName := by
  refine readBack_wireName hWord hDeclared ?_
  rw [skipAttributes]
  split
  · rw [List.findSome?_cons, readAttribute_skip]
    rfl
  · rfl

end FieldEntry

-- ---------------------------------------------------------------------------
-- Types
-- ---------------------------------------------------------------------------

/-- The type of a property before it is made optional. -/
def mappedType (types : TypeSettings) (owner : String) (property : String × Node) : Value :=
  (types.baseType (Naming.nestedName owner property.1) property.2).name

/-- An optional property has its type in one more `Option`, any other has its type as it is. -/
theorem fieldType_name (types : TypeSettings) (owner : String) (property : String × Node)
    (optional : Bool) :
    (types.fieldType owner property.1 optional property.2).name =
      if optional then .text ("Option<" ++ (mappedType types owner property).display ++ ">")
      else mappedType types owner property :=
  fieldType_optioned types owner property.1 optional property.2

-- ---------------------------------------------------------------------------
-- The field list
-- ---------------------------------------------------------------------------

/-- `Describes types owner schema property entry`: the field stands for the property. Its
identifier is usable, its name on the wire is the property's, and its type is that of the
property, in one more `Option` exactly if the property need not be there or may be null. -/
structure Describes (types : TypeSettings) (owner : String) (schema : ObjectSchema)
    (property : String × Node) (entry : FieldEntry) : Prop where
  usable : Usable entry.declared
  wireName : entry.wireName = property.1
  optional : property.1 ∉ schema.required ∨ property.1 ∈ schema.nullable →
    entry.type = .text ("Option<" ++ (mappedType types owner property).display ++ ">")
  plain : ¬ (property.1 ∉ schema.required ∨ property.1 ∈ schema.nullable) →
    entry.type = mappedType types owner property

theorem isOptional_iff (schema : ObjectSchema) (name : String) :
    schema.isOptional name = true ↔ name ∉ schema.required ∨ name ∈ schema.nullable := by
  rw [ObjectSchema.isOptional, Bool.or_eq_true, Bool.not_eq_true', List.contains_iff_mem,
    ← Bool.not_eq_true, List.contains_iff_mem]

/-- The outline of the field of a property. -/
def outlineOf (types : TypeSettings) (owner : String) (schema : ObjectSchema)
    (property : String × Node) : FieldOutline :=
  { wireName := property.1
    type := types.fieldType owner property.1 (schema.isOptional property.1) property.2
    isOptional := schema.isOptional property.1
    description := property.2.description }

theorem fieldOutlines_eq (types : TypeSettings) (owner : String) (schema : ObjectSchema) :
    fieldOutlines types owner schema = schema.properties.map (outlineOf types owner schema) := rfl

/-- The field that is written for a property describes it. -/
theorem written_describes (g : Generator) (owner : String) (schema : ObjectSchema)
    (property : String × Node) {identifier : Naming.Identifier}
    (hWire : identifier.wireName = property.1) (hWord : IsWord identifier.name)
    (hFree : identifier.name ∉ unescapableWords)
    (hDeclared : identifier.declared = Target.written identifier.name) :
    Describes g.types owner schema property
      (.written g (outlineOf g.types owner schema property) identifier) where
  usable := ⟨identifier.name, hWord, hFree, hDeclared⟩
  wireName := (FieldEntry.written_wireName g _ hWord hDeclared).trans hWire
  optional hOptional := by
    show (g.types.fieldType owner property.1 (schema.isOptional property.1) property.2).name = _
    rw [fieldType_name, if_pos ((isOptional_iff ..).mpr hOptional)]
  plain hPlain := by
    show (g.types.fieldType owner property.1 (schema.isOptional property.1) property.2).name = _
    rw [fieldType_name, if_neg fun h => hPlain ((isOptional_iff ..).mp h)]

/-- The fields written for properties under identifiers of the same wire names. -/
theorem forall₂_describes (g : Generator) (owner : String) (schema : ObjectSchema)
    {properties : List (String × Node)} {identifiers : List Naming.Identifier}
    (hWire : identifiers.map Naming.Identifier.wireName = properties.map Prod.fst)
    (hUsable : ∀ i ∈ identifiers, IsWord i.name ∧ i.name ∉ unescapableWords ∧
      i.declared = Target.written i.name) :
    let entries := List.zipWith (FieldEntry.written g)
      (properties.map (outlineOf g.types owner schema)) identifiers
    List.Forall₂ (Describes g.types owner schema) properties entries ∧
      entries.map FieldEntry.declared = identifiers.map Naming.Identifier.declared := by
  induction properties generalizing identifiers with
  | nil =>
    rw [List.map_nil, List.map_eq_nil_iff] at hWire
    rw [hWire]
    exact ⟨.nil, rfl⟩
  | cons p rest ih =>
    cases identifiers with
    | nil => cases hWire
    | cons identifier others =>
      rw [List.map_cons, List.map_cons, List.cons.injEq] at hWire
      obtain ⟨hHead, hTail⟩ := hWire
      obtain ⟨hWord, hFree, hDeclared⟩ := hUsable identifier (List.mem_cons_self ..)
      obtain ⟨hRest, hNames⟩ := ih hTail fun i hi => hUsable i (List.mem_cons_of_mem _ hi)
      refine ⟨.cons ?_ hRest, congrArg _ hNames⟩
      exact written_describes g owner schema p hHead hWord hFree hDeclared

/-- A struct that is written is its template filled with the field list. -/
theorem declare_struct_fields {s : Settings} {g : Generator} (hSound : Sound s g)
    {owner : String} {description : Option String} {schema : ObjectSchema} {block : String}
    (h : (g.declare (.struct owner description schema)).1 = .ok block) :
    ∃ context, context.lookup "fields" = some (.list (g.fieldList owner schema)) ∧
      Template.renderAll context Template.structTemplate = .ok block := by
  have hStore := hSound.store
  rw [declare_struct] at h
  dsimp only at h
  split at h
  · cases h
  · exact ⟨_, rfl, renderAll_of_render h hStore hStore.file?_struct⟩

/-- **One field for each property.** In every state of a generator, and for any struct, the
identifiers of the properties are settled one after the other in a scope of their own, and the
struct is filled from a list of fields that describe the properties in order. No two fields
have the same identifier. -/
theorem fieldList_describes {s : Settings} {g : Generator} (hReach : Reachable s g)
    (owner : String) (description : Option String) (schema : ObjectSchema) :
    ∃ identifiers entries,
      Naming.HandsOut policy g.style [] (schema.properties.map Prod.fst) identifiers ∧
      (g.fieldList owner schema).map FieldEntry.ofValue? = entries.map some ∧
      List.Forall₂ (Describes g.types owner schema) schema.properties entries ∧
      entries.map FieldEntry.declared = identifiers.map Naming.Identifier.declared ∧
      (entries.map FieldEntry.declared).Nodup ∧
      ∀ block, (g.declare (.struct owner description schema)).1 = .ok block →
        ∃ context, context.lookup "fields" = some (.list (g.fieldList owner schema)) ∧
          Template.renderAll context Template.structTemplate = .ok block := by
  have hSound := hReach.sound
  have hNames : (fieldOutlines g.types owner schema).map FieldOutline.wireName =
      schema.properties.map Prod.fst := by
    rw [fieldOutlines, List.map_map]
    rfl
  -- what was handed out before is forgotten, and what is remembered is right
  have hClear : g.scope.clear.Faithful := hSound.faithful
  obtain ⟨hHandsOut, -⟩ := Naming.identifyAll_handsOut hClear g.style
    ((fieldOutlines g.types owner schema).map FieldOutline.wireName)
  rw [show g.scope.clear.policy = policy from hSound.policy] at hHandsOut
  have hUsable := handsOut_usable hHandsOut
  have hNodup := handsOut_declared_nodup hHandsOut
  have hWire := hHandsOut.wireNames_eq.trans hNames
  rw [hNames] at hHandsOut hUsable hNodup hWire
  obtain ⟨hDescribes, hDeclared⟩ := forall₂_describes g owner schema hWire hUsable
  refine ⟨_, _, hHandsOut, ?_, hDescribes, hDeclared, hDeclared ▸ hNodup,
    fun block h => declare_struct_fields hSound h⟩
  rw [fieldList, hNames, fieldOutlines_eq, List.map_zipWith, List.map_zipWith]
  simp only [FieldEntry.ofValue?_fieldValue]

/-- An object whose properties fall together when they are converted, are reserved, or are no
words at all. -/
def crowded : ObjectSchema :=
  .mk none
    [("a-b", .leaf none .cidLink), ("a.b", .leaf none .cidLink), ("a_b_1", .leaf none .cidLink),
     ("type", .leaf none .cidLink), ("self", .leaf none .cidLink), ("self_", .leaf none .cidLink),
     ("9", .leaf none .cidLink), ("", .leaf none .cidLink), ("say \"hi\"\\", .leaf none .cidLink)]
    ["a-b", "type"] ["type"]

/-- A generator that has written a struct with the same properties before. -/
def experienced : Generator := plain.after (.declare (.struct "Before" none crowded))

theorem fieldList_describes_crowded :
    Reachable {} experienced ∧
    ∃ identifiers entries,
      Naming.HandsOut policy experienced.style [] (crowded.properties.map Prod.fst) identifiers ∧
      (experienced.fieldList "P" crowded).map FieldEntry.ofValue? = entries.map some ∧
      List.Forall₂ (Describes experienced.types "P" crowded) crowded.properties entries ∧
      entries.map FieldEntry.declared = identifiers.map Naming.Identifier.declared ∧
      (entries.map FieldEntry.declared).Nodup ∧
      ∀ block, (experienced.declare (.struct "P" none crowded)).1 = .ok block →
        ∃ context, context.lookup "fields" = some (.list (experienced.fieldList "P" crowded)) ∧
          Template.renderAll context Template.structTemplate = .ok block := by
  have hReach : Reachable {} experienced := (Reachable.built build_plain).step _
  exact ⟨hReach, fieldList_describes hReach "P" none crowded⟩

end Lexicon.Generator
