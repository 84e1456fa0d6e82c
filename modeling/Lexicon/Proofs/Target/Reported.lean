import Lexicon.Proofs.Schema.Coverage
import Lexicon.Proofs.Target.Clash
import Lexicon.Proofs.Target.Fallback

/-!
# Lexicon — what a plan reports

A plan reports findings between its declarations, all of them under the name of a definition. The
structs of objects described in place are declared far below that definition, by a recursion that
passes the name on; what such a struct leaves unsupported is reported once and under that name,
and an object that is left out takes its findings with it.

* `Below`               — the declarations below a definition: its own, and the structs of what is
                          described in place in it.
* `Below.exists_walk`   — a struct below a definition is made from an object in the definition's
                          tree.
* `FoundBelow`          — the findings that lie below a definition.
* `Tells`               — steps that declare, and report, what lies below a definition, and report
                          what is not supported by their declarations, no less and no more.
* `planDefinition_tells`, `planDocument_tells` — the plans of definitions and documents do so.
-/

namespace Lexicon.Schema

-- ---------------------------------------------------------------------------
-- Nodes of a tree
-- ---------------------------------------------------------------------------

theorem mem_walk_self (path : Path) (node : Node) : (path, node) ∈ node.walk path := by
  rw [walk_below]
  exact List.mem_cons_self ..

/-- What lies below a node of a tree lies in the tree. -/
theorem mem_walk_trans {node inner other : Node} {path p q : Path}
    (hInner : (p, inner) ∈ node.walk path) (hOther : (q, other) ∈ inner.walk p) :
    (q, other) ∈ node.walk path := by
  induction hSize : sizeOf node using Nat.strongRecOn generalizing node path with
  | ind n ih =>
    subst hSize
    rw [walk_below, List.mem_cons, List.mem_flatMap] at hInner
    rcases hInner with hHere | ⟨e, he, hBelow⟩
    · obtain ⟨rfl, rfl⟩ := Prod.mk.inj hHere
      exact hOther
    · rw [walk_below]
      have hLater := ih _ (nodes.smaller node e he) hBelow rfl
      exact List.mem_cons_of_mem _ (List.mem_flatMap.mpr ⟨e, he, hLater⟩)

/-- The node of a property lies in the tree of its object. -/
theorem mem_walk_property {schema : ObjectSchema} {property : String × Node}
    (h : property ∈ schema.properties) (path : Path) :
    (path.child property.1, property.2) ∈ (Node.object schema).walk path := by
  obtain ⟨description, properties, required, nullable⟩ := schema
  rw [Node.walk, ObjectSchema.walkProperties, walkEntries_eq]
  refine List.mem_cons_of_mem _ (List.mem_flatMap.mpr ⟨(.property property.1, property.2), ?_, ?_⟩)
  · exact List.mem_map_of_mem (f := fun e : String × Node => (Branch.property e.1, e.2)) h
  · exact mem_walk_self ..

end Lexicon.Schema

namespace Lexicon.Target

open Lexicon.Schema

-- ---------------------------------------------------------------------------
-- Below a definition
-- ---------------------------------------------------------------------------

/-- `Below s name node outline`: the declaration is that of the definition `name` itself, or it is
the struct of an object that a field of a struct below the definition introduces. -/
inductive Below (s : PlanSettings) (name : String) (node : Node) : Outline → Prop
  | own : Below s name node (ownOutline s name node)
  | nested {outline : Outline} {o : NestedObject} (hOuter : Below s name node outline)
      (hObject : o ∈ outline.introduces s.types) : Below s name node o.outline

/-- An object described in place lies in the tree of the node that describes it. -/
theorem inPlace?_walk (types : TypeSettings) : ∀ (hint : String) (node : Node) (path : Path)
    {o : NestedObject}, types.inPlace? hint node = some o →
    ∃ q, (q, .object o.schema) ∈ node.walk path
  | hint, .array d items rules, path, o, h => by
    rw [TypeSettings.inPlace?] at h
    split at h
    · cases h
    · obtain ⟨q, hq⟩ := inPlace?_walk types _ items (path.child "items") h
      rw [Node.walk]
      exact ⟨q, List.mem_cons_of_mem _ hq⟩
  | hint, .object schema, path, o, h => by
    rw [TypeSettings.inPlace?] at h
    split at h
    · cases h
    · cases h
      exact ⟨path, mem_walk_self ..⟩
  | _, .leaf .., _, _, h | _, .params .., _, _, h | _, .record .., _, _, h
  | _, .query .., _, _, h | _, .procedure .., _, _, h | _, .subscription .., _, _, h => by
    simp [TypeSettings.inPlace?] at h

/-- What is introduced by an object of a tree lies in the tree. -/
theorem introduced_walk {types : TypeSettings} {owner : String} {schema : ObjectSchema}
    {o : NestedObject} (h : o ∈ introduced types owner schema) (path : Path) :
    ∃ q, (q, .object o.schema) ∈ (Node.object schema).walk path := by
  obtain ⟨property, hProperty, hPlace⟩ := exists_property_of_mem_introduced h
  obtain ⟨q, hq⟩ := inPlace?_walk types _ property.2 (path.child property.1) hPlace
  exact ⟨q, mem_walk_trans (mem_walk_property hProperty path) hq⟩

/-- **A struct below a definition** is made from an object in the tree of the definition. -/
theorem Below.exists_walk {s : PlanSettings} {name owner : String} {node : Node}
    {description : Option String} {schema : ObjectSchema} {outline : Outline}
    (h : Below s name node outline) (hStruct : outline = .struct owner description schema) :
    ∃ path, (path, .object schema) ∈ node.walk "" := by
  induction h generalizing owner description schema with
  | own =>
    cases node with
    | object own =>
      cases hStruct
      exact ⟨"", mem_walk_self ..⟩
    | record d key inner =>
      rw [ownOutline] at hStruct
      split at hStruct
      · cases hStruct
        rw [Node.walk]
        exact ⟨_, List.mem_cons_of_mem _ (List.mem_cons_self ..)⟩
      · cases hStruct
    | leaf d leaf => cases leaf <;> cases hStruct
    | _ => cases hStruct
  | @nested outer o _ hObject ih =>
    cases hStruct
    cases outer with
    | struct owner' description' schema' =>
      obtain ⟨p, hp⟩ := ih rfl
      obtain ⟨q, hq⟩ := introduced_walk hObject p
      exact ⟨q, mem_walk_trans hp hq⟩
    | enum _ _ _ => cases hObject
    | placeholder _ _ => cases hObject

/-- The findings that lie below a definition: that its kind is not declared, that members of its
union have one name, and what there is to say about the fields of a struct, or the objects they
introduce, if the struct is below the definition. -/
inductive FoundBelow (s : PlanSettings) (name : String) (node : Node) : Finding → Prop
  | kind : FoundBelow s name node (.notDeclared node.kind)
  | variant {finding : Finding} {description : Option String} {references : List String}
      {closed : Option Bool} (hUnion : node = .leaf description (.union references closed))
      (hFinding : finding ∈ variantFindings [] references) : FoundBelow s name node finding
  | field {finding : Finding} {path : Path} {owner : String} {description : Option String}
      {schema : ObjectSchema} (hBelow : Below s name node (.struct owner description schema))
      (hInside : (path, .object schema) ∈ node.walk "")
      (hFinding : finding ∈ fieldFindings owner [] (fieldOutlines s.types owner schema)) :
      FoundBelow s name node finding
  | collision {path : Path} {owner : String} {description : Option String}
      {schema : ObjectSchema} {o : NestedObject}
      (hBelow : Below s name node (.struct owner description schema))
      (hInside : (path, .object schema) ∈ node.walk "")
      (hObject : o ∈ introduced s.types owner schema) :
      FoundBelow s name node (.alreadyDeclared o.name)

-- ---------------------------------------------------------------------------
-- Steps below a definition
-- ---------------------------------------------------------------------------

/-- Declarations, each with the name of the definition that it is below. -/
abbrev Labelled := List (String × Outline)

/-- What declarations leave unsupported, each under the name of its definition. -/
def Labelled.unsupported (types : TypeSettings) (declarations : Labelled) : List Diagnostic :=
  declarations.flatMap fun (name, outline) => (outline.unsupported types).map (⟨name, ·⟩)

theorem Labelled.unsupported_append (types : TypeSettings) (declarations others : Labelled) :
    Labelled.unsupported types (declarations ++ others) =
      declarations.unsupported types ++ others.unsupported types := List.flatMap_append

/-- The declarations of some steps below the definition `name`. -/
def labelled (name : String) (steps : List Step) : Labelled := (outlines steps).map (name, ·)

theorem labelled_append (name : String) (steps later : List Step) :
    labelled name (steps ++ later) = labelled name steps ++ labelled name later := by
  rw [labelled, outlines, List.filterMap_append, List.map_append]
  rfl

/-- The steps declare what is below a definition and report, under its name, what lies below it.
What they report as not supported is exactly what their declarations leave so, in their order. -/
structure Tells (s : PlanSettings) (name : String) (node : Node) (steps : List Step) : Prop where
  declared : ∀ outline ∈ outlines steps, Below s name node outline
  reported : ∀ d ∈ reports steps, d.definition = name ∧ FoundBelow s name node d.finding
  unsupported : (reports steps).filter (fun d => isUnsupported d.finding) =
    (labelled name steps).unsupported s.types

section Tells

variable {s : PlanSettings} {name : String} {node : Node} {steps later : List Step}

theorem tells_nil : Tells s name node [] where
  declared _ h := by cases h
  reported _ h := by cases h
  unsupported := rfl

theorem Tells.append (h : Tells s name node steps) (hLater : Tells s name node later) :
    Tells s name node (steps ++ later) where
  declared outline hOutline := by
    rw [outlines, List.filterMap_append, List.mem_append] at hOutline
    exact hOutline.elim (h.declared outline) (hLater.declared outline)
  reported d hd := by
    rw [reports, List.filterMap_append, List.mem_append] at hd
    exact hd.elim (h.reported d) (hLater.reported d)
  unsupported := by
    rw [reports, List.filterMap_append, List.filter_append, labelled_append,
      Labelled.unsupported_append]
    exact congrArg₂ _ h.unsupported hLater.unsupported

/-- A declaration behind the findings about it. -/
theorem tells_declaration {outline : Outline} {findings : List Finding}
    (hBelow : Below s name node outline) (hFound : ∀ f ∈ findings, FoundBelow s name node f)
    (hUnsupported : findings.filter isUnsupported = outline.unsupported s.types) :
    Tells s name node (findings.map (fun finding => .report ⟨name, finding⟩) ++
      [.declare outline]) := by
  have hOutlines : outlines (findings.map (fun finding => .report ⟨name, finding⟩) ++
      [.declare outline]) = [outline] := by
    rw [outlines, List.filterMap_append, ← outlines, outlines_reports]
    rfl
  have hReports : reports (findings.map (fun finding => .report ⟨name, finding⟩) ++
      [.declare outline]) = findings.map (⟨name, ·⟩) := by
    rw [reports, List.filterMap_append, ← reports, reports_reports]
    exact List.append_nil _
  refine ⟨?_, ?_, ?_⟩
  · rw [hOutlines]
    intro other hOther
    rw [List.mem_singleton.mp hOther]
    exact hBelow
  · rw [hReports]
    intro d hd
    obtain ⟨finding, hFinding, rfl⟩ := List.mem_map.mp hd
    exact ⟨rfl, hFound finding hFinding⟩
  · rw [labelled, hOutlines, hReports, Labelled.unsupported, List.map_singleton,
      List.flatMap_singleton, List.filter_map]
    exact congrArg (List.map (Diagnostic.mk name)) hUnsupported

/-- An object that is left out declares nothing, and nothing that is below it is reported. -/
theorem tells_collision {finding : Finding} (hFound : FoundBelow s name node finding)
    (hSupported : isUnsupported finding = false) :
    Tells s name node [.report ⟨name, finding⟩] where
  declared _ h := by cases h
  reported d hd := by
    rw [List.mem_singleton.mp hd]
    exact ⟨rfl, hFound⟩
  unsupported := by
    show List.filter _ [_] = []
    rw [List.filter_cons_of_neg (by simp [hSupported])]
    rfl

-- ---------------------------------------------------------------------------
-- Plans
-- ---------------------------------------------------------------------------

theorem planAll_tells {objects : List NestedObject}
    (hCollision : ∀ o ∈ objects, FoundBelow s name node (.alreadyDeclared o.name))
    (hObject : ∀ o ∈ objects, ∀ taken,
      Tells s name node (planObject s taken name o.name none o.schema))
    (taken : List String) : Tells s name node (planAll s taken name objects) := by
  induction objects generalizing taken with
  | nil => exact tells_nil
  | cons o rest ih =>
    have hRest := ih (fun x hx => hCollision x (List.mem_cons_of_mem _ hx))
      (fun x hx => hObject x (List.mem_cons_of_mem _ hx))
    rw [planAll, planIntroduced]
    refine Tells.append ?_ (hRest _)
    split
    · exact tells_collision (hCollision o (List.mem_cons_self ..)) rfl
    · exact hObject o (List.mem_cons_self ..) taken

/-- **The steps for an object**, by induction along what its fields introduce. The name under
which findings are reported stays that of the definition. -/
theorem planObject_tells (s : PlanSettings) (name : String) (node : Node) (schema : ObjectSchema) :
    ∀ taken owner description,
      Below s name node (.struct owner (Option.or description schema.description) schema) →
      Tells s name node (planObject s taken name owner description schema) := by
  refine introduced_induction s.types (P := fun schema => ∀ taken owner description,
    Below s name node (.struct owner (Option.or description schema.description) schema) →
    Tells s name node (planObject s taken name owner description schema)) ?_ schema
  intro schema ih taken owner description hBelow
  obtain ⟨path, hInside⟩ := hBelow.exists_walk rfl
  rw [planObject_eq, List.append_cons]
  refine (tells_declaration hBelow (fun f hf => .field hBelow hInside hf)
    (fieldFindings_unsupported ..)).append (planAll_tells ?_ ?_ _)
  · exact fun o ho => .collision hBelow hInside ho
  · intro o ho taken'
    exact ih owner o ho taken' o.name none (.nested hBelow ho)

/-- **The steps for a definition.** -/
theorem planDefinition_tells (s : PlanSettings) (taken : List String) (name : String)
    (node : Node) : Tells s name node (planDefinition s taken name node) := by
  -- what has no declaration leaves a placeholder behind the finding that says so
  have hPlaceholder : ownOutline s name node = .placeholder name node.kind →
      Tells s name node [.report ⟨name, .notDeclared node.kind⟩,
        .declare (.placeholder name node.kind)] := by
    intro hOwn
    have hFound : ∀ f ∈ [Finding.notDeclared node.kind], FoundBelow s name node f := by
      intro f hf
      rw [List.mem_singleton.mp hf]
      exact .kind
    exact tells_declaration (hOwn ▸ .own) hFound rfl
  cases node with
  | object schema => exact planObject_tells s name _ schema taken name none .own
  | record description key schema =>
    rw [planDefinition]
    rw [ownOutline] at hPlaceholder
    split
    · rename_i hExpands
      refine planObject_tells s name _ schema taken name description ?_
      have hOwn : Below s name (.record description key schema) _ := .own
      rwa [ownOutline, if_pos hExpands] at hOwn
    · rename_i hFolded
      exact hPlaceholder (if_neg hFolded)
  | leaf description leaf =>
    cases leaf with
    | union references closed =>
      exact tells_declaration .own (fun f hf => .variant rfl hf)
        (filter_variantFindings [] references)
    | _ => exact hPlaceholder rfl
  | _ => exact hPlaceholder rfl

end Tells

/-- **The steps for a document.** Every declaration is below a definition, and so is everything
reported; what is reported as not supported is exactly what the declarations leave so. -/
theorem planDocument_tells (s : PlanSettings) (taken : List String)
    (definitions : List (String × Node)) : ∃ declarations : Labelled,
    outlines (planDocument s taken definitions) = declarations.map Prod.snd ∧
    (∀ p ∈ declarations, ∃ node, (p.1, node) ∈ definitions ∧ Below s p.1 node p.2) ∧
    (∀ d ∈ reports (planDocument s taken definitions), ∃ node,
      (d.definition, node) ∈ definitions ∧ FoundBelow s d.definition node d.finding) ∧
    (reports (planDocument s taken definitions)).filter (fun d => isUnsupported d.finding) =
      declarations.unsupported s.types := by
  induction definitions generalizing taken with
  | nil =>
    refine ⟨[], rfl, ?_, ?_, rfl⟩
    · intro p hp
      cases hp
    · intro d hd
      cases hd
  | cons p rest ih =>
    obtain ⟨name, node⟩ := p
    have hFirst := planDefinition_tells s taken name node
    rw [planDocument]
    generalize planDefinition s taken name node = steps at hFirst
    obtain ⟨declarations, hOutlines, hBelow, hReported, hUnsupported⟩ :=
      ih (declaredNames steps ++ taken)
    refine ⟨labelled name steps ++ declarations, ?_, ?_, ?_, ?_⟩
    · rw [outlines, List.filterMap_append, ← outlines, ← outlines, hOutlines, List.map_append,
        labelled, List.map_map]
      exact congrArg (· ++ _) (List.map_id' (outlines steps)).symm
    · intro q hq
      rcases List.mem_append.mp hq with hHere | hLater
      · obtain ⟨outline, hOutline, rfl⟩ := List.mem_map.mp hHere
        exact ⟨node, List.mem_cons_self .., hFirst.declared outline hOutline⟩
      · obtain ⟨other, hMem, hOther⟩ := hBelow q hLater
        exact ⟨other, List.mem_cons_of_mem _ hMem, hOther⟩
    · intro d hd
      rw [reports, List.filterMap_append, List.mem_append] at hd
      rcases hd with hHere | hLater
      · obtain ⟨rfl, hFound⟩ := hFirst.reported d hHere
        exact ⟨node, List.mem_cons_self .., hFound⟩
      · obtain ⟨other, hMem, hFound⟩ := hReported d hLater
        exact ⟨other, List.mem_cons_of_mem _ hMem, hFound⟩
    · rw [reports, List.filterMap_append, List.filter_append, Labelled.unsupported_append]
      exact congrArg₂ _ hFirst.unsupported hUnsupported

end Lexicon.Target
