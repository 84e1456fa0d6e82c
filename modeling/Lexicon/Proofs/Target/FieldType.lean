import Mathlib.Logic.Function.Iterate
import Lexicon.Proofs.Target.Fallback

/-!
# Lexicon — the type of a field

The type of a field is built from the inside out. The node below all list layers decides on it, and
each layer puts what is there so far into the pattern for lists; an `Option` comes last. The name
for an object grows the other way, by one suffix for each layer on the way in. Both ways are told
here by the number of layers alone, so that the type that a field refers to can be set against the
object that comes with it.

* `TypeSettings.layers` — the list layers that are peeled off a node before its leaf is reached.
* `OwnType`             — the type that a leaf has of its own, by what sets it.
* `baseType_name`       — the type of a node is that of its leaf, put into the pattern once for each
                          layer.
* `inPlace?_leaf`       — the object that a node describes in place is that of its leaf.
* `fieldType_of_leaf`   — the type of a field with all that comes with it, told from its leaf.
-/

namespace Lexicon.Target

open Lexicon.Schema

-- ---------------------------------------------------------------------------
-- Layers
-- ---------------------------------------------------------------------------

/-- The number of list layers of a node that lie above its leaf. -/
def TypeSettings.layers (types : TypeSettings) : Node → Nat
  | .array _ items _ => if (types.override? .array).isSome then 0 else types.layers items + 1
  | _ => 0

/-- The suffixes that are put behind the name of an object on its way through list layers. -/
def itemSuffixes : Nat → String
  | 0 => ""
  | k + 1 => TypeSettings.itemSuffix ++ itemSuffixes k

/-- A type in the pattern for lists. -/
def TypeSettings.listOf (types : TypeSettings) (item : Value) : Value :=
  .text (types.sequence.fill item.display)

/-- Peeling ends at a node that is no list or whose kind is overridden. -/
theorem leaf_stops (types : TypeSettings) : ∀ node : Node,
    (types.leaf node).kind = .array → (types.override? .array).isSome = true
  | .array d items rules, h => by
    rw [TypeSettings.leaf] at h
    split at h
    · assumption
    · exact leaf_stops types items h
  | .leaf _ leaf, h => by cases leaf <;> cases h
  | .object _, h | .params .., h | .record .., h | .query .., h | .procedure .., h
  | .subscription .., h => by cases h

-- ---------------------------------------------------------------------------
-- The type of a leaf
-- ---------------------------------------------------------------------------

/-- `OwnType types name node own`: the type that a node has of its own, list layers left out of
account. What is set for its kind comes first; `name` is the name for an object described in
place. -/
inductive OwnType (types : TypeSettings) (name : String) : Node → Value → Prop
  | override {node : Node} {own : Value} (hSet : types.override? node.kind = some own) :
      OwnType types name node own
  | scalar {node : Node} {own : Value} (hNotSet : types.override? node.kind = none)
      (hScalar : types.scalar? node.kind = some own) : OwnType types name node own
  | reference {description : Option String} {target : String}
      (hNotSet : types.override? .ref = none) :
      OwnType types name (.leaf description (.ref target)) (.text (Naming.tail target))
  | object {schema : ObjectSchema} (hNotSet : types.override? .object = none) :
      OwnType types name (.object schema) (.text name)
  | fallback {node : Node} (hUnmapped : types.isMapped node = false) :
      OwnType types name node types.fallback

theorem plainType_ownType (types : TypeSettings) (name : String) (node : Node) :
    OwnType types name node (types.plainType name node).name := by
  unfold TypeSettings.plainType
  cases hSet : types.override? node.kind with
  | some own => exact .override hSet
  | none =>
    cases hScalar : types.scalar? node.kind with
    | some own => exact .scalar hSet hScalar
    | none =>
      have hFallback : standsForType node = false → OwnType types name node types.fallback := by
        intro hStands
        refine .fallback ?_
        rw [TypeSettings.isMapped, hSet, hScalar, hStands]
        rfl
      cases node with
      | object schema => exact .object hSet
      | leaf description leaf =>
        cases leaf with
        | ref target => exact .reference hSet
        | _ => exact hFallback rfl
      | _ => exact hFallback rfl

-- ---------------------------------------------------------------------------
-- The way to the leaf
-- ---------------------------------------------------------------------------

/-- **Lists are put around the type of the leaf**, one for each layer; the name for an object has as
many suffixes. -/
theorem baseType_name (types : TypeSettings) : ∀ (hint : String) (node : Node),
    (types.baseType hint node).name = types.listOf^[types.layers node]
      (types.plainType (hint ++ itemSuffixes (types.layers node)) (types.leaf node)).name
  | hint, .array d items rules => by
    rw [TypeSettings.baseType, TypeSettings.layers, TypeSettings.leaf]
    split
    · rw [itemSuffixes, String.append_empty]
      rfl
    · -- the outermost list is put around last, while its suffix comes first
      rw [Function.iterate_succ_apply', itemSuffixes, ← String.append_assoc,
        ← baseType_name types (hint ++ TypeSettings.itemSuffix) items]
      rfl
  | hint, .leaf .. | hint, .object .. | hint, .params .. | hint, .record .. | hint, .query ..
  | hint, .procedure .. | hint, .subscription .. => by
    rw [TypeSettings.baseType, TypeSettings.layers, TypeSettings.leaf, itemSuffixes,
      String.append_empty]
    · rfl
    · simp
    · simp
    · simp

/-- The object that a node describes in place is the one that its leaf does, under the name that it
has there. -/
theorem inPlace?_leaf (types : TypeSettings) : ∀ (hint : String) (node : Node),
    types.inPlace? hint node =
      types.inPlace? (hint ++ itemSuffixes (types.layers node)) (types.leaf node)
  | hint, .array d items rules => by
    rw [TypeSettings.layers, TypeSettings.leaf]
    split
    · rw [itemSuffixes, String.append_empty]
    · rename_i hNotSet
      rw [TypeSettings.inPlace?, if_neg hNotSet, itemSuffixes, ← String.append_assoc]
      exact inPlace?_leaf types _ items
  | hint, .leaf .. | hint, .object .. | hint, .params .. | hint, .record .. | hint, .query ..
  | hint, .procedure .. | hint, .subscription .. => by
    rw [TypeSettings.layers, TypeSettings.leaf, itemSuffixes, String.append_empty] <;> simp

-- ---------------------------------------------------------------------------
-- Options
-- ---------------------------------------------------------------------------

theorem plainType_isOption (types : TypeSettings) (hint : String) (node : Node) :
    (types.plainType hint node).isOption = false := by
  unfold TypeSettings.plainType
  split
  · rfl
  · split
    · rfl
    · split
      · rfl
      · rfl
      · rfl

/-- No type is an `Option` of its own accord. -/
theorem baseType_isOption (types : TypeSettings) (hint : String) (node : Node) :
    (types.baseType hint node).isOption = false := by
  unfold TypeSettings.baseType
  split
  · split
    · exact plainType_isOption ..
    · rfl
  · exact plainType_isOption ..

/-- A type in an `Option`, if the field is optional. -/
def optioned (optional : Bool) (type : Value) : Value :=
  if optional then .text ("Option<" ++ type.display ++ ">") else type

theorem fieldType_optioned (types : TypeSettings) (owner property : String) (optional : Bool)
    (node : Node) :
    (types.fieldType owner property optional node).name =
      optioned optional (types.baseType (Naming.nestedName owner property) node).name := by
  rw [TypeSettings.fieldType, optioned]
  cases optional with
  | false => rfl
  | true =>
    simp only [if_true, FieldType.asOption, baseType_isOption]
    rfl

-- ---------------------------------------------------------------------------
-- Fields
-- ---------------------------------------------------------------------------

/-- **The type of a field is told from its leaf.** Its text is the leaf's own type, put into the
pattern for lists once for each layer, and then into an `Option` if the field is optional. An object
comes with it exactly if the leaf is one that has no type set for it, and then under the name that
the text refers to; a hint comes with it exactly if the leaf has no type of its own. -/
theorem fieldType_of_leaf (types : TypeSettings) (owner property : String) (optional : Bool)
    (node : Node) :
    let type := types.fieldType owner property optional node
    let leaf := types.leaf node
    let name := Naming.nestedName owner property ++ itemSuffixes (types.layers node)
    ∃ own, OwnType types name leaf own ∧
      type.name = optioned optional (types.listOf^[types.layers node] own) ∧
      (∀ schema, leaf = .object schema → types.override? .object = none →
        own = .text name ∧ type.nested = [⟨name, schema⟩]) ∧
      ((∀ schema, leaf = .object schema → (types.override? .object).isSome) →
        type.nested = []) ∧
      type.hints = if types.isMapped leaf then [] else [⟨leaf.kind, types.fallback⟩] := by
  intro type leaf name
  have hNested : type.nested = (types.inPlace? name leaf).toList := by
    rw [← inPlace?_leaf]
    exact fieldType_nested ..
  refine ⟨(types.plainType name leaf).name, plainType_ownType .., ?_, ?_, ?_, ?_⟩
  · rw [← baseType_name]
    exact fieldType_optioned ..
  · intro schema hLeaf hNotSet
    rw [hNested, hLeaf, TypeSettings.inPlace?, TypeSettings.plainType, Node.kind, hNotSet]
    exact ⟨rfl, rfl⟩
  · intro hNone
    rw [hNested]
    cases hLeaf : leaf with
    | object schema => rw [TypeSettings.inPlace?, if_pos (hNone schema hLeaf)]; rfl
    | array d items rules =>
      have hSet := leaf_stops types node (congrArg Node.kind hLeaf)
      rw [TypeSettings.inPlace?, if_pos hSet]
      rfl
    | _ => rfl
  · rw [show type.hints = (types.fallback? node).toList from fieldType_hints .., TypeSettings.fallback?]
    split <;> rfl

/-- An optional list of lists of objects. -/
example :
    let object : Node := .object (.mk none [] [] [])
    let lists : Node := .array none (.array none object ⟨none, none⟩) ⟨none, none⟩
    (TypeSettings.fieldType {} "Post" "facets" true lists).name =
      .text "Option<Vec<Vec<PostFacetsItemItem>>>" := by
  cbv

end Lexicon.Target
