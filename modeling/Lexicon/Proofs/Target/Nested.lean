import Lexicon.Target.Outline

/-!
# Lexicon — the objects described in place

A plan walks the properties of an object once and expands the objects described in
place on its way. What it writes does not depend on that: the same steps come out
when the objects of all fields are collected first and expanded one after the other
(`planObject_eq`). Nothing that is proved about plans looks at the walk again.

* `TypeSettings.inPlace?` — the object that a node describes in place, through all its
                            list layers; `baseType_nested` says that it is the one
                            that comes with the node's type.
* `introduced`            — the objects that the fields of a struct introduce, the
                            first of each name.
* `planAll`, `planObject_eq` — the steps for an object, written as a loop over what it
                            introduces.
* `introduced_induction`  — induction along what schemas introduce.
-/

namespace Lexicon.Target

open Lexicon.Schema

-- ---------------------------------------------------------------------------
-- The object below a field
-- ---------------------------------------------------------------------------

/-- The object that a node describes in place, under the name it is given. A list
describes what its items describe; a kind with a type of its own describes nothing. -/
def TypeSettings.inPlace? (types : TypeSettings) (hint : String) : Node → Option NestedObject
  | .array _ items _ =>
    if (types.override? .array).isSome then none
    else types.inPlace? (hint ++ itemSuffix) items
  | .object schema =>
    if (types.override? .object).isSome then none else some ⟨hint, schema⟩
  | _ => none

/-- The object that a property of `owner` describes in place. -/
def TypeSettings.propertyObject? (types : TypeSettings) (owner : String)
    (property : String × Node) : Option NestedObject :=
  types.inPlace? (Naming.nestedName owner property.1) property.2

/-- The type of a node that is neither a list nor an object comes without objects. -/
theorem plainType_nested_nil (types : TypeSettings) (hint : String) {node : Node}
    (hNode : ∀ schema, node ≠ .object schema) : (types.plainType hint node).nested = [] := by
  unfold TypeSettings.plainType
  split
  · rfl
  · split
    · rfl
    · split
      · rfl
      · exact absurd rfl (hNode _)
      · rfl

/-- The type of a node comes with the object that it describes in place. -/
theorem baseType_nested (types : TypeSettings) : ∀ (hint : String) (node : Node),
    (types.baseType hint node).nested = (types.inPlace? hint node).toList
  | hint, .array d items rules => by
    rw [TypeSettings.baseType, TypeSettings.inPlace?]
    split
    · exact plainType_nested_nil types hint (by simp)
    · exact baseType_nested types (hint ++ TypeSettings.itemSuffix) items
  | hint, .object schema => by
    rw [TypeSettings.inPlace?, TypeSettings.baseType, TypeSettings.plainType]
    · cases hOver : types.override? .object with
      | some name => simp [Node.kind, hOver, FieldType.named]
      | none => simp [Node.kind, hOver, TypeSettings.scalar?]
    · simp
  | hint, .leaf .. | hint, .params .. | hint, .record .. | hint, .query ..
  | hint, .procedure .. | hint, .subscription .. => by
    rw [TypeSettings.baseType, plainType_nested_nil] <;> simp [TypeSettings.inPlace?]

/-- An `Option` around a type does not change what comes with it. -/
theorem fieldType_nested (types : TypeSettings) (owner property : String) (optional : Bool)
    (node : Node) :
    (types.fieldType owner property optional node).nested =
      (types.inPlace? (Naming.nestedName owner property) node).toList := by
  rw [← baseType_nested, TypeSettings.fieldType]
  cases optional with
  | false => rfl
  | true =>
    simp only [if_true, FieldType.asOption]
    split <;> rfl

/-- An object described in place is smaller than the node that describes it. -/
theorem inPlace?_sizeOf (types : TypeSettings) : ∀ (hint : String) (node : Node)
    {o : NestedObject}, types.inPlace? hint node = some o → sizeOf o.schema < sizeOf node
  | hint, .array d items rules, o, h => by
    rw [TypeSettings.inPlace?] at h
    split at h
    · cases h
    · have hItems := inPlace?_sizeOf types _ items h
      rw [Node.array.sizeOf_spec]
      omega
  | hint, .object schema, o, h => by
    rw [TypeSettings.inPlace?] at h
    split at h
    · cases h
    · cases h
      show sizeOf schema < sizeOf (Node.object schema)
      rw [Node.object.sizeOf_spec]
      omega
  | _, .leaf .., _, h | _, .params .., _, h | _, .record .., _, h | _, .query .., _, h
  | _, .procedure .., _, h | _, .subscription .., _, h => by simp [TypeSettings.inPlace?] at h

-- ---------------------------------------------------------------------------
-- The objects of a struct
-- ---------------------------------------------------------------------------

/-- The first object of each name, the names in `seen` left out. -/
def unseen (seen : List String) : List NestedObject → List NestedObject
  | [] => []
  | o :: rest => if seen.contains o.name then unseen seen rest else o :: unseen (o.name :: seen) rest

/-- The objects that the fields of the struct `owner` introduce, the first of each
name. -/
def introduced (types : TypeSettings) (owner : String) (schema : ObjectSchema) :
    List NestedObject :=
  distinctNested [] ((fieldOutlines types owner schema).flatMap fun field => field.type.nested)

theorem unseen_congr {seen seen' : List String} (h : ∀ n, n ∈ seen ↔ n ∈ seen')
    (objects : List NestedObject) : unseen seen objects = unseen seen' objects := by
  induction objects generalizing seen seen' with
  | nil => rfl
  | cons o rest ih =>
    have hTest : seen.contains o.name = seen'.contains o.name := by
      rw [Bool.eq_iff_iff, List.contains_iff_mem, List.contains_iff_mem]
      exact h o.name
    have hCons : ∀ n, n ∈ o.name :: seen ↔ n ∈ o.name :: seen' := by
      intro n
      rw [List.mem_cons, List.mem_cons, h n]
    rw [unseen, unseen, hTest, ih h, ih hCons]

theorem mem_of_mem_unseen {seen : List String} {objects : List NestedObject} {o : NestedObject}
    (h : o ∈ unseen seen objects) : o ∈ objects := by
  induction objects generalizing seen with
  | nil => exact h
  | cons x rest ih =>
    rw [unseen] at h
    split at h
    · exact List.mem_cons_of_mem _ (ih h)
    · rcases List.mem_cons.mp h with rfl | hRest
      · exact List.mem_cons_self ..
      · exact List.mem_cons_of_mem _ (ih hRest)

/-- Collecting objects behind those seen before adds the unseen ones. -/
theorem distinctNested_eq (seen objects : List NestedObject) :
    distinctNested seen objects = seen ++ unseen (seen.map NestedObject.name) objects := by
  induction objects generalizing seen with
  | nil => simp [distinctNested, unseen]
  | cons o rest ih =>
    have hTest : (seen.any fun x => x.name == o.name) =
        (seen.map NestedObject.name).contains o.name := by
      rw [Bool.eq_iff_iff, List.contains_iff_mem, List.any_eq_true, List.mem_map]
      simp only [beq_iff_eq]
    rw [distinctNested, unseen, hTest]
    split
    · exact ih seen
    · have hNames : ∀ n, n ∈ (seen ++ [o]).map NestedObject.name ↔
          n ∈ o.name :: seen.map NestedObject.name := by
        intro n
        simp [or_comm]
      rw [ih, List.append_assoc, List.singleton_append, unseen_congr hNames]

/-- What the fields introduce, read off the properties. -/
theorem introduced_eq (types : TypeSettings) (owner : String) (schema : ObjectSchema) :
    introduced types owner schema =
      unseen [] (schema.properties.filterMap (types.propertyObject? owner)) := by
  rw [introduced, distinctNested_eq, List.nil_append, List.map_nil, fieldOutlines,
    List.flatMap_map]
  congr 1
  induction schema.properties with
  | nil => rfl
  | cons p rest ih =>
    rw [List.flatMap_cons, ih, fieldType_nested, List.filterMap_cons]
    show (types.propertyObject? owner p).toList ++ _ = _
    cases types.propertyObject? owner p <;> rfl

/-- An object that the fields introduce is described in place by a property. -/
theorem exists_property_of_mem_introduced {types : TypeSettings} {owner : String}
    {schema : ObjectSchema} {o : NestedObject} (h : o ∈ introduced types owner schema) :
    ∃ property ∈ schema.properties, types.propertyObject? owner property = some o := by
  rw [introduced_eq] at h
  exact List.mem_filterMap.mp (mem_of_mem_unseen h)

theorem sizeOf_lt_of_mem_introduced {types : TypeSettings} {owner : String}
    {schema : ObjectSchema} {o : NestedObject} (h : o ∈ introduced types owner schema) :
    sizeOf o.schema < sizeOf schema := by
  obtain ⟨⟨property, node⟩, hMem, hPlace⟩ := exists_property_of_mem_introduced h
  obtain ⟨own, properties, required, nullable⟩ := schema
  have hNode : sizeOf o.schema < sizeOf node := inPlace?_sizeOf types _ node hPlace
  have hEntry : sizeOf (property, node) < sizeOf properties := List.sizeOf_lt_of_mem hMem
  rw [Prod.mk.sizeOf_spec] at hEntry
  rw [ObjectSchema.mk.sizeOf_spec]
  omega

/-- **Induction along introduced objects.** What holds of a schema whenever it holds of
all objects that its fields introduce, holds of every schema. -/
theorem introduced_induction (types : TypeSettings) {P : ObjectSchema → Prop}
    (hStep : ∀ schema, (∀ owner, ∀ o ∈ introduced types owner schema, P o.schema) → P schema)
    (schema : ObjectSchema) : P schema := by
  induction hSize : sizeOf schema using Nat.strongRecOn generalizing schema with
  | _ size ih =>
    apply hStep
    intro owner o hMem
    exact ih (sizeOf o.schema) (hSize ▸ sizeOf_lt_of_mem_introduced hMem) o.schema rfl

-- ---------------------------------------------------------------------------
-- The plan of a struct
-- ---------------------------------------------------------------------------

/-- The steps for an introduced object: its struct with what lies below it, or a finding
if its name is not free. -/
def planIntroduced (s : PlanSettings) (taken : List String) (definition : String)
    (o : NestedObject) : List Step :=
  if taken.contains o.name || s.definitions.contains o.name then
    [.report ⟨definition, .alreadyDeclared o.name⟩]
  else planObject s taken definition o.name none o.schema

/-- The steps for several introduced objects, one after the other. -/
def planAll (s : PlanSettings) (taken : List String) (definition : String) :
    List NestedObject → List Step
  | [] => []
  | o :: rest =>
    let steps := planIntroduced s taken definition o
    steps ++ planAll s (declaredNames steps ++ taken) definition rest

/-- Planning below a node expands the object that it describes in place. -/
theorem planNested_eq (s : PlanSettings) (taken : List String) (definition : String)
    (seen : List String) : ∀ (hint : String) (node : Node),
    planNested s taken definition seen hint node =
      match s.types.inPlace? hint node with
      | none => []
      | some o => if seen.contains o.name then [] else planIntroduced s taken definition o
  | hint, .array d items rules => by
    rw [planNested, TypeSettings.inPlace?]
    split
    · rfl
    · exact planNested_eq s taken definition seen (hint ++ TypeSettings.itemSuffix) items
  | hint, .object schema => by
    rw [planNested, TypeSettings.inPlace?]
    cases hOver : (s.types.override? .object).isSome with
    | true => rfl
    | false =>
      simp only [Bool.false_or, Bool.false_eq_true, if_false]
      split
      · rfl
      · rfl
  | _, .leaf .. | _, .params .. | _, .record .. | _, .query ..
  | _, .procedure .. | _, .subscription .. => by simp [planNested, TypeSettings.inPlace?]

/-- The walk over the properties expands the unseen objects, in order. -/
theorem planProperties_eq (s : PlanSettings) (taken : List String) (definition owner : String)
    (seen : List String) (properties : List (String × Node)) :
    planProperties s taken definition owner seen properties =
      planAll s taken definition
        (unseen seen (properties.filterMap (s.types.propertyObject? owner))) := by
  induction properties generalizing taken seen with
  | nil => simp [planProperties, planAll, unseen]
  | cons p rest ih =>
    obtain ⟨property, node⟩ := p
    rw [planProperties, planNested_eq, baseType_nested, List.filterMap_cons,
      TypeSettings.propertyObject?]
    cases hPlace : s.types.inPlace? (Naming.nestedName owner property) node with
    | none => exact ih taken seen
    | some o =>
      simp only [Option.toList_some, List.map_cons, List.map_nil, List.singleton_append]
      rw [unseen]
      by_cases hSeen : seen.contains o.name = true
      · -- a name that is seen again is noted again, which changes nothing
        have hAgain : ∀ n, n ∈ o.name :: seen ↔ n ∈ seen := by
          intro n
          rw [List.mem_cons, or_iff_right_of_imp]
          rintro rfl
          exact List.contains_iff_mem.mp hSeen
        rw [if_pos hSeen, if_pos hSeen, List.nil_append, ih, unseen_congr hAgain]
        rfl
      · rw [if_neg hSeen, if_neg hSeen, planAll, ih]

/-- **A struct and then its objects.** The steps for an object are the findings on its
fields, its struct, and the steps for what the fields introduce. -/
theorem planObject_eq (s : PlanSettings) (taken : List String) (definition name : String)
    (description : Option String) (schema : ObjectSchema) :
    planObject s taken definition name description schema =
      (fieldFindings name [] (fieldOutlines s.types name schema)).map
        (fun finding => .report ⟨definition, finding⟩) ++
      .declare (.struct name (description.or schema.description) schema) ::
        planAll s (name :: taken) definition (introduced s.types name schema) := by
  obtain ⟨own, properties, required, nullable⟩ := schema
  rw [planObject, planProperties_eq, introduced_eq]
  rfl

end Lexicon.Target
