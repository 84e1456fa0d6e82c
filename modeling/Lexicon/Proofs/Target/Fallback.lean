import Lexicon.Proofs.Target.Forest

/-!
# Lexicon — fields of the fallback type

Which fields have the type that stands for what has no mapping, told from the schema alone: list
layers are peeled off until a kind is overridden or is no list, and the node that remains decides.
The hints of a type are of no use for telling it, since they have come a long way from that node.

* `TypeSettings.leaf`     — the node that decides on the type of a field.
* `TypeSettings.isMapped` — has a node a type of its own?
* `fieldType_hints`       — a field has a hint exactly if its leaf is not mapped, and then one.
* `Outline.unsupported`   — what a declaration leaves unsupported, by its fields or as a whole.
* `fieldFindings_unsupported` — the findings about the fields of a struct say just this, and
                            otherwise nothing but inconsistencies.
-/

namespace Lexicon.Target

open Lexicon.Schema

-- ---------------------------------------------------------------------------
-- The type of a node
-- ---------------------------------------------------------------------------

/-- The node below the list layers of a node: the first whose kind is overridden or that is no
list. -/
def TypeSettings.leaf (types : TypeSettings) : Node → Node
  | .array d items rules =>
    if (types.override? .array).isSome then .array d items rules else types.leaf items
  | node => node

/-- Does the node stand for a declaration? References do, and objects described in place. -/
def standsForType : Node → Bool
  | .leaf _ (.ref _) => true
  | .object _ => true
  | _ => false

/-- Has the node a type of its own? So have those of an overridden kind, the scalars for which a
type is set, and the nodes that stand for a declaration. -/
def TypeSettings.isMapped (types : TypeSettings) (node : Node) : Bool :=
  (types.override? node.kind).isSome || (types.scalar? node.kind).isSome || standsForType node

/-- The hint of a node that has the fallback type. -/
def TypeSettings.fallback? (types : TypeSettings) (node : Node) : Option Hint :=
  if types.isMapped (types.leaf node) then none
  else some ⟨(types.leaf node).kind, types.fallback⟩

theorem plainType_hints (types : TypeSettings) (hint : String) (node : Node) :
    (types.plainType hint node).hints =
      if types.isMapped node then [] else [⟨node.kind, types.fallback⟩] := by
  unfold TypeSettings.plainType TypeSettings.isMapped
  cases types.override? node.kind with
  | some name => rfl
  | none =>
    cases types.scalar? node.kind with
    | some name => rfl
    | none =>
      cases node with
      | leaf description leaf => cases leaf <;> rfl
      | _ => rfl

/-- The hints of a type are those of the node below the list layers. -/
theorem baseType_hints (types : TypeSettings) : ∀ (hint : String) (node : Node),
    (types.baseType hint node).hints = (types.fallback? node).toList
  | hint, .array d items rules => by
    rw [TypeSettings.baseType, TypeSettings.fallback?, TypeSettings.leaf]
    split
    · rw [plainType_hints]
      split <;> rfl
    · exact baseType_hints types (hint ++ TypeSettings.itemSuffix) items
  | hint, .leaf .. | hint, .object .. | hint, .params .. | hint, .record .. | hint, .query ..
  | hint, .procedure .. | hint, .subscription .. => by
    rw [TypeSettings.baseType, plainType_hints, TypeSettings.fallback?, TypeSettings.leaf]
    · split <;> rfl
    · simp
    · simp

/-- An `Option` around a type loses no hint and adds none. -/
theorem fieldType_hints (types : TypeSettings) (owner property : String) (optional : Bool)
    (node : Node) :
    (types.fieldType owner property optional node).hints = (types.fallback? node).toList := by
  rw [← baseType_hints types (Naming.nestedName owner property), TypeSettings.fieldType]
  cases optional with
  | false => rfl
  | true =>
    simp only [if_true, FieldType.asOption]
    split <;> rfl

-- ---------------------------------------------------------------------------
-- What a declaration leaves unsupported
-- ---------------------------------------------------------------------------

/-- What a declaration leaves unsupported: a placeholder its whole definition, and a struct each
of its fields that has the fallback type, in their order. -/
def Outline.unsupported (types : TypeSettings) : Outline → List Finding
  | .struct owner _ schema => schema.properties.filterMap fun (property, node) =>
    (types.fallback? node).map (.fellBack (owner ++ "." ++ property))
  | .enum _ _ _ => []
  | .placeholder _ kind => [.notDeclared kind]

/-- Does the finding say that something is not supported? -/
def isUnsupported (finding : Finding) : Bool := decide (finding.severity = .unsupported)

/-- All other findings about a field are inconsistencies. -/
theorem filter_nestedClashes (place : String) (seen objects : List NestedObject) :
    (nestedClashes place seen objects).filter isUnsupported = [] := by
  rw [List.filter_eq_nil_iff]
  intro finding hFinding
  obtain ⟨name, rfl⟩ := mem_nestedClashes hFinding
  exact Bool.false_ne_true

theorem filter_fieldFindings (owner : String) (seen : List NestedObject)
    (fields : List FieldOutline) :
    (fieldFindings owner seen fields).filter isUnsupported =
      fields.flatMap fun field =>
        field.type.hints.map (.fellBack (owner ++ "." ++ field.wireName)) := by
  induction fields generalizing seen with
  | nil => rfl
  | cons field rest ih =>
    have hHints : ∀ hints : List Hint,
        (hints.map (Finding.fellBack (owner ++ "." ++ field.wireName))).filter isUnsupported =
          hints.map (.fellBack (owner ++ "." ++ field.wireName)) := by
      intro hints
      rw [List.filter_eq_self]
      intro finding hFinding
      obtain ⟨hint, -, rfl⟩ := List.mem_map.mp hFinding
      rfl
    rw [fieldFindings, List.filter_append, List.filter_append, hHints, filter_nestedClashes,
      List.append_nil, ih, List.flatMap_cons]

/-- **What the findings about a struct leave unsupported** is exactly what its fields do: one
finding for each field of the fallback type, and none for the others. -/
theorem fieldFindings_unsupported (types : TypeSettings) (owner : String)
    (description : Option String) (schema : ObjectSchema) :
    (fieldFindings owner [] (fieldOutlines types owner schema)).filter isUnsupported =
      (Outline.struct owner description schema).unsupported types := by
  rw [filter_fieldFindings, fieldOutlines, List.flatMap_map, Outline.unsupported]
  induction schema.properties with
  | nil => rfl
  | cons p rest ih =>
    rw [List.flatMap_cons, List.filterMap_cons, ih]
    dsimp only
    rw [fieldType_hints]
    cases types.fallback? p.2 with
    | none => rfl
    | some hint => rfl

theorem filter_variantFindings (seen references : List String) :
    (variantFindings seen references).filter isUnsupported = [] := by
  induction references generalizing seen with
  | nil => rfl
  | cons reference rest ih =>
    rw [variantFindings]
    split
    · rw [List.filter_cons_of_neg Bool.false_ne_true, ih]
    · exact ih _

end Lexicon.Target
