import Lexicon.Proofs.Schema.Keys
import Lexicon.Proofs.Target.Growth

/-!
# Lexicon — objects of one name

Two fields of a struct may describe objects that are given the same name. One struct is
declared for both, which is right only if the objects are equal; if they are not, a finding
says so. Without such a finding every object has a struct that was made for it or for an
equal one.

* `StandsFor`              — the struct of an object serves for another one too.
* `fieldFindings_standsFor` — without a clash, what the fields of a struct describe has one
                             among the introduced objects that stands for it.
* `Explains`               — the findings on every declared struct are reported.
* `planDocument_explains`  — a plan does so.
* `introduced_keyed`, `ownOutline_keyed` — no struct has repeated keys if the document has
                             none, so that every object is equal to itself.
-/

namespace Lexicon.Target

open Lexicon.Schema

-- ---------------------------------------------------------------------------
-- Standing for another
-- ---------------------------------------------------------------------------

/-- The objects have one name, and they are the same or equal. -/
def StandsFor (f o : NestedObject) : Prop :=
  f.name = o.name ∧ (f = o ∨ f.schema.same o.schema = true)

theorem mem_distinctNested_of_mem {seen objects : List NestedObject} {o : NestedObject}
    (h : o ∈ seen) : o ∈ distinctNested seen objects := by
  rw [distinctNested_eq]
  exact List.mem_append_left _ h

/-- Every object has one of its name among those collected. -/
theorem exists_name_distinctNested {seen objects : List NestedObject} {o : NestedObject}
    (h : o ∈ objects) : ∃ f ∈ distinctNested seen objects, f.name = o.name := by
  induction objects generalizing seen with
  | nil => cases h
  | cons first rest ih =>
    rw [distinctNested]
    rcases List.mem_cons.mp h with rfl | hRest
    · split
      · rename_i hSeen
        obtain ⟨f, hf, hName⟩ := List.any_eq_true.mp hSeen
        exact ⟨f, mem_distinctNested_of_mem hf, beq_iff_eq.mp hName⟩
      · exact ⟨o, mem_distinctNested_of_mem (List.mem_append_right _ (List.mem_cons_self ..)), rfl⟩
    · split
      · exact ih hRest
      · exact ih hRest

/-- Collecting the objects of several fields is collecting them field by field. -/
theorem distinctNested_append (seen first others : List NestedObject) :
    distinctNested seen (first ++ others) = distinctNested (distinctNested seen first) others := by
  induction first generalizing seen with
  | nil => rfl
  | cons o rest ih =>
    rw [List.cons_append, distinctNested, distinctNested]
    split
    · exact ih seen
    · exact ih (seen ++ [o])

/-- Objects that do not clash all have one that stands for them. -/
theorem nestedClashes_standsFor {place : String} {seen objects : List NestedObject}
    (h : nestedClashes place seen objects = []) :
    ∀ o ∈ objects, ∃ f ∈ distinctNested seen objects, StandsFor f o := by
  induction objects generalizing seen with
  | nil => intro o ho; cases ho
  | cons first rest ih =>
    rw [nestedClashes] at h
    intro o ho
    cases hFind : seen.find? (fun x => x.name == first.name) with
    | none =>
      -- the name is new, and the object stands for itself
      rw [hFind] at h
      have hNew : ¬ (seen.any fun x => x.name == first.name) = true := by
        rw [List.any_eq_true]
        rintro ⟨x, hx, hName⟩
        exact List.find?_eq_none.mp hFind x hx hName
      rw [distinctNested, if_neg hNew]
      rcases List.mem_cons.mp ho with rfl | hRest
      · refine ⟨o, mem_distinctNested_of_mem ?_, rfl, Or.inl rfl⟩
        exact List.mem_append_right _ (List.mem_cons_self ..)
      · exact ih h o hRest
    | some other =>
      rw [hFind] at h
      have hOther : other ∈ seen := List.mem_of_find?_eq_some hFind
      have hName := List.find?_some hFind
      have hSeen : (seen.any fun x => x.name == first.name) = true :=
        List.any_eq_true.mpr ⟨other, hOther, hName⟩
      rw [distinctNested, if_pos hSeen]
      dsimp only at h
      split at h
      · rename_i hSame
        rcases List.mem_cons.mp ho with rfl | hRest
        · exact ⟨other, mem_distinctNested_of_mem hOther, beq_iff_eq.mp hName, Or.inr hSame⟩
        · exact ih h o hRest
      · cases h

/-- **Without a clash** every object that the fields describe has one among those introduced
that stands for it. -/
theorem fieldFindings_standsFor {owner : String} {seen : List NestedObject}
    {fields : List FieldOutline}
    (h : ∀ place name, Finding.usedByOther place name ∉ fieldFindings owner seen fields) :
    ∀ field ∈ fields, ∀ o ∈ field.type.nested,
      ∃ f ∈ distinctNested seen (fields.flatMap fun field => field.type.nested), StandsFor f o := by
  induction fields generalizing seen with
  | nil => intro field hField; cases hField
  | cons first rest ih =>
    have hRest : ∀ place name, Finding.usedByOther place name ∉
        fieldFindings owner (distinctNested seen first.type.nested) rest := by
      intro place name hClash
      exact h place name (List.mem_append_right _ hClash)
    have hFirst : nestedClashes (owner ++ "." ++ first.wireName) seen first.type.nested = [] := by
      rw [List.eq_nil_iff_forall_not_mem]
      intro finding hFinding
      obtain ⟨name, rfl⟩ := mem_nestedClashes hFinding
      exact h _ name (List.mem_append_left _ (List.mem_append_right _ hFinding))
    rw [List.flatMap_cons, distinctNested_append]
    intro field hField o ho
    rcases List.mem_cons.mp hField with rfl | hLater
    · obtain ⟨f, hf, hStands⟩ := nestedClashes_standsFor hFirst o ho
      exact ⟨f, mem_distinctNested_of_mem hf, hStands⟩
    · exact ih hRest field hLater o ho

-- ---------------------------------------------------------------------------
-- Findings are reported
-- ---------------------------------------------------------------------------

/-- Are the findings on every struct that the steps declare among those they report? -/
def Explains (types : TypeSettings) (steps : List Step) : Prop :=
  ∀ owner description schema, .struct owner description schema ∈ outlines steps →
    ∀ finding ∈ fieldFindings owner [] (fieldOutlines types owner schema),
      ∃ definition, ⟨definition, finding⟩ ∈ reports steps

theorem Explains.append {types : TypeSettings} {steps later : List Step}
    (h : Explains types steps) (hLater : Explains types later) :
    Explains types (steps ++ later) := by
  intro owner description schema hMem finding hFinding
  rw [outlines, List.filterMap_append, List.mem_append] at hMem
  rw [reports, List.filterMap_append]
  rcases hMem with hHere | hThere
  · obtain ⟨definition, hReport⟩ := h owner description schema hHere finding hFinding
    exact ⟨definition, List.mem_append_left _ hReport⟩
  · obtain ⟨definition, hReport⟩ := hLater owner description schema hThere finding hFinding
    exact ⟨definition, List.mem_append_right _ hReport⟩

/-- Steps that declare no struct have nothing to explain. -/
theorem explains_of_no_struct {types : TypeSettings} {steps : List Step}
    (h : ∀ owner description schema, .struct owner description schema ∉ outlines steps) :
    Explains types steps :=
  fun owner description schema hMem => absurd hMem (h owner description schema)

theorem outlines_reports (definition : String) (findings : List Finding) :
    outlines (findings.map fun finding => .report ⟨definition, finding⟩) = [] := by
  induction findings with
  | nil => rfl
  | cons finding rest ih => exact ih

theorem reports_reports (definition : String) (findings : List Finding) :
    reports (findings.map fun finding => .report ⟨definition, finding⟩) =
      findings.map (⟨definition, ·⟩) := by
  induction findings with
  | nil => rfl
  | cons finding rest ih => exact congrArg _ ih

/-- A struct behind its findings is explained. -/
theorem explains_struct (types : TypeSettings) (definition owner : String)
    (description : Option String) (schema : ObjectSchema) :
    Explains types ((fieldFindings owner [] (fieldOutlines types owner schema)).map
      (fun finding => .report ⟨definition, finding⟩) ++
        [.declare (.struct owner description schema)]) := by
  intro owner' description' schema' hMem finding hFinding
  rw [outlines, List.filterMap_append] at hMem
  rw [← outlines, outlines_reports, List.nil_append] at hMem
  cases List.mem_singleton.mp hMem
  refine ⟨definition, ?_⟩
  rw [reports, List.filterMap_append, ← reports, reports_reports]
  exact List.mem_append_left _ (List.mem_map_of_mem hFinding)

theorem planAll_explains {s : PlanSettings} {definition : String} {objects : List NestedObject}
    (h : ∀ o ∈ objects, ∀ taken name description,
      Explains s.types (planObject s taken definition name description o.schema))
    (taken : List String) : Explains s.types (planAll s taken definition objects) := by
  induction objects generalizing taken with
  | nil => exact explains_of_no_struct fun _ _ _ hMem => by cases hMem
  | cons o rest ih =>
    rw [planAll]
    refine Explains.append ?_ (ih (fun x hx => h x (List.mem_cons_of_mem _ hx)) _)
    rw [planIntroduced]
    split
    · exact explains_of_no_struct fun _ _ _ hMem => by cases hMem
    · exact h o (List.mem_cons_self ..) taken o.name none

theorem planObject_explains (s : PlanSettings) (definition : String) (schema : ObjectSchema) :
    ∀ taken name description,
      Explains s.types (planObject s taken definition name description schema) := by
  refine introduced_induction s.types (P := fun schema => ∀ taken name description,
    Explains s.types (planObject s taken definition name description schema)) ?_ schema
  intro schema ih taken name description
  rw [planObject_eq, List.append_cons]
  exact (explains_struct s.types definition name _ schema).append (planAll_explains (ih name) _)

theorem planDefinition_explains (s : PlanSettings) (taken : List String) (name : String)
    (node : Node) : Explains s.types (planDefinition s taken name node) := by
  have hOther : ∀ (findings : List Finding) (outline : Outline),
      (∀ owner description schema, outline ≠ .struct owner description schema) →
      Explains s.types (findings.map (fun finding => .report ⟨name, finding⟩) ++
        [.declare outline]) := by
    intro findings outline hNone
    refine explains_of_no_struct fun owner description schema hMem => ?_
    rw [outlines, List.filterMap_append, ← outlines, outlines_reports, List.nil_append] at hMem
    exact hNone owner description schema (List.mem_singleton.mp hMem).symm
  cases node with
  | object schema => exact planObject_explains s name schema taken name none
  | record description key schema =>
    rw [planDefinition]
    split
    · exact planObject_explains s name schema taken name description
    · exact hOther [.notDeclared _] (.placeholder name _) (by simp)
  | leaf description leaf =>
    cases leaf with
    | union refs closed => exact hOther (variantFindings [] refs) (.enum name _ _) (by simp)
    | _ => exact hOther [.notDeclared _] (.placeholder name _) (by simp)
  | _ => exact hOther [.notDeclared _] (.placeholder name _) (by simp)

/-- **A plan explains itself.** What there is to say about the fields of any struct that it
declares is reported. -/
theorem planDocument_explains (s : PlanSettings) (taken : List String)
    (definitions : List (String × Node)) :
    Explains s.types (planDocument s taken definitions) := by
  induction definitions generalizing taken with
  | nil => exact explains_of_no_struct fun _ _ _ hMem => by cases hMem
  | cons p rest ih =>
    rw [planDocument]
    exact (planDefinition_explains s taken p.1 p.2).append (ih _)

-- ---------------------------------------------------------------------------
-- Keys
-- ---------------------------------------------------------------------------

/-- An object described in place has no repeated keys if its node has none. -/
theorem inPlace?_keyed (types : TypeSettings) : ∀ (hint : String) {node : Node} {o : NestedObject},
    node.Keyed → types.inPlace? hint node = some o → o.schema.Keyed
  | hint, .array _ items _, o, hKeyed, h => by
    rw [TypeSettings.inPlace?] at h
    split at h
    · cases h
    · cases hKeyed with
      | array hItems => exact inPlace?_keyed types _ hItems h
  | hint, .object schema, o, hKeyed, h => by
    rw [TypeSettings.inPlace?] at h
    split at h
    · cases h
    · cases h
      cases hKeyed with
      | object hSchema => exact hSchema
  | _, .leaf .., _, _, h | _, .params .., _, _, h | _, .record .., _, _, h
  | _, .query .., _, _, h | _, .procedure .., _, _, h | _, .subscription .., _, _, h => by
    simp [TypeSettings.inPlace?] at h

/-- What the fields of a struct describe has no repeated keys if the struct has none. -/
theorem nested_keyed {types : TypeSettings} {owner : String} {schema : ObjectSchema}
    (hKeyed : schema.Keyed) {field : FieldOutline} (hField : field ∈ fieldOutlines types owner schema)
    {o : NestedObject} (ho : o ∈ field.type.nested) : o.schema.Keyed := by
  obtain ⟨⟨property, node⟩, hProperty, rfl⟩ := List.mem_map.mp hField
  rw [fieldType_nested, Option.mem_toList] at ho
  cases hKeyed with
  | mk _ hNodes => exact inPlace?_keyed types _ (hNodes _ hProperty) ho

theorem introduced_keyed {types : TypeSettings} {owner : String} {schema : ObjectSchema}
    (hKeyed : schema.Keyed) {o : NestedObject} (ho : o ∈ introduced types owner schema) :
    o.schema.Keyed := by
  obtain ⟨⟨property, node⟩, hProperty, hPlace⟩ := exists_property_of_mem_introduced ho
  cases hKeyed with
  | mk _ hNodes => exact inPlace?_keyed types _ (hNodes _ hProperty) hPlace

/-- The struct of a definition has no repeated keys if the definition has none. -/
theorem ownOutline_keyed {s : PlanSettings} {name owner : String} {node : Node}
    {description : Option String} {schema : ObjectSchema} (hKeyed : node.Keyed)
    (h : ownOutline s name node = .struct owner description schema) : schema.Keyed := by
  cases hKeyed with
  | object hSchema =>
    cases h
    exact hSchema
  | record hSchema =>
    rw [ownOutline] at h
    split at h
    · cases h
      exact hSchema
    · cases h
  | @leaf description leaf => cases leaf <;> cases h
  | _ => cases h

end Lexicon.Target
