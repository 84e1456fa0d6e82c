import Lexicon.Proofs.Target.Nested

/-!
# Lexicon — the forest of declarations

What a document declares hangs together as a forest: a tree for each definition, whose
root is the declaration of the definition itself, and below every struct the structs of
the objects that its fields introduce. The plan of a document writes this forest in
preorder.

* `Forest`            — trees of declarations, with `preorder` and `roots`.
* `Grows`             — which forest grows from some introduced objects, and which names
                        are left out on the way since they are not free.
* `DocumentGrows`     — the same for the definitions of a document.
* `plansTree`, `planDocument_grows` — every plan writes a forest that has grown, and reports
                        exactly the names left out.
-/

namespace Lexicon.Target

open Lexicon.Schema

-- ---------------------------------------------------------------------------
-- Trees of declarations
-- ---------------------------------------------------------------------------

/-- Trees of declarations: the first has the root `root` and the trees `below` under it,
and `next` are the trees after it. -/
inductive Forest where
  | empty
  | tree (root : Outline) (below next : Forest)

namespace Forest

/-- The declarations, each before those below it and these before its next sibling. -/
def preorder : Forest → List Outline
  | empty => []
  | tree root below next => root :: (below.preorder ++ next.preorder)

/-- The roots of the trees. -/
def roots : Forest → List Outline
  | empty => []
  | tree root _ next => root :: next.roots

/-- The types that are declared. -/
def names (forest : Forest) : List String := forest.preorder.filterMap Outline.declared?

@[simp] theorem names_empty : empty.names = [] := rfl

theorem names_tree (root : Outline) (below next : Forest) :
    (tree root below next).names = root.declared?.toList ++ below.names ++ next.names := by
  rw [names, preorder, List.filterMap_cons, List.filterMap_append]
  cases root.declared? <;> rfl

theorem mem_preorder_of_mem_roots {forest : Forest} {outline : Outline}
    (h : outline ∈ forest.roots) : outline ∈ forest.preorder := by
  induction forest with
  | empty => exact h
  | tree root below next _ ih =>
    rcases List.mem_cons.mp h with rfl | hNext
    · exact List.mem_cons_self ..
    · exact List.mem_cons_of_mem _ (List.mem_append_right _ (ih hNext))

theorem mem_names {forest : Forest} {outline : Outline} {name : String}
    (h : outline ∈ forest.preorder) (hName : outline.declared? = some name) :
    name ∈ forest.names :=
  List.mem_filterMap.mpr ⟨outline, h, hName⟩

end Forest

/-- The struct of an introduced object. -/
def NestedObject.outline (o : NestedObject) : Outline :=
  .struct o.name o.schema.description o.schema

/-- The objects that a declaration introduces through its fields. -/
def Outline.introduces (types : TypeSettings) : Outline → List NestedObject
  | .struct name _ schema => introduced types name schema
  | .enum _ _ _ => []
  | .placeholder _ _ => []

/-- The declaration of a definition itself. -/
def ownOutline (s : PlanSettings) (name : String) : Node → Outline
  | .object schema => .struct name schema.description schema
  | .leaf description (.union refs _) => .enum name description (variantNames [] refs)
  | .record description _ schema =>
    if s.expandsRecords then .struct name (description.or schema.description) schema
    else .placeholder name .record
  | node => .placeholder name node.kind

-- ---------------------------------------------------------------------------
-- Growth
-- ---------------------------------------------------------------------------

/-- `Grows s taken objects forest left`: going through `objects` in order, each of them
becomes a tree, if its name is neither in `taken`, nor that of a definition, nor declared
by a tree before it. Below its struct stands what its own fields introduce. The names of
the others are in `left`, those met below a struct before those met after it. -/
inductive Grows (s : PlanSettings) :
    List String → List NestedObject → Forest → List String → Prop
  | done {taken : List String} : Grows s taken [] .empty []
  | leave {taken left : List String} {o : NestedObject} {rest : List NestedObject}
      {forest : Forest} (hTaken : o.name ∈ taken ∨ o.name ∈ s.definitions)
      (hRest : Grows s taken rest forest left) : Grows s taken (o :: rest) forest (o.name :: left)
  | place {taken leftBelow leftNext : List String} {o : NestedObject} {rest : List NestedObject}
      {below next : Forest} (hFree : o.name ∉ taken) (hOther : o.name ∉ s.definitions)
      (hBelow : Grows s (o.name :: taken) (o.outline.introduces s.types) below leftBelow)
      (hNext : Grows s (o.name :: below.names ++ taken) rest next leftNext) :
      Grows s taken (o :: rest) (.tree o.outline below next) (leftBelow ++ leftNext)

/-- `DocumentGrows s taken definitions forest left`: every definition becomes a tree, in
order. Its root is the definition's own declaration, and below it stands what that one
introduces. -/
inductive DocumentGrows (s : PlanSettings) :
    List String → List (String × Node) → Forest → List String → Prop
  | done {taken : List String} : DocumentGrows s taken [] .empty []
  | define {taken leftBelow leftNext : List String} {name : String} {node : Node}
      {rest : List (String × Node)} {below next : Forest}
      (hBelow : Grows s ((ownOutline s name node).declared?.toList ++ taken)
        ((ownOutline s name node).introduces s.types) below leftBelow)
      (hNext : DocumentGrows s ((ownOutline s name node).declared?.toList ++ below.names ++ taken)
        rest next leftNext) :
      DocumentGrows s taken ((name, node) :: rest) (.tree (ownOutline s name node) below next)
        (leftBelow ++ leftNext)

-- ---------------------------------------------------------------------------
-- What steps write and report
-- ---------------------------------------------------------------------------

/-- The finding of a step. -/
def Step.diagnostic? : Step → Option Diagnostic
  | .report d => some d
  | .declare _ => none

/-- The findings among some steps, in order. -/
def reports (steps : List Step) : List Diagnostic := steps.filterMap Step.diagnostic?

/-- The name that a finding calls declared already. -/
def collision? (d : Diagnostic) : Option String :=
  match d.finding with
  | .alreadyDeclared name => some name
  | _ => none

/-- The names that findings call declared already, in order. -/
def collisions (diagnostics : List Diagnostic) : List String := diagnostics.filterMap collision?

/-- The steps write the forest and report the names left out. -/
def Lays (steps : List Step) (forest : Forest) (left : List String) : Prop :=
  outlines steps = forest.preorder ∧ collisions (reports steps) = left

theorem lays_nil : Lays [] .empty [] := ⟨rfl, rfl⟩

/-- The types that steps declare are those of the forest that they write. -/
theorem Lays.declaredNames_eq {steps : List Step} {forest : Forest} {left : List String}
    (h : Lays steps forest left) : declaredNames steps = forest.names := by
  rw [declaredNames, h.1, Forest.names]

/-- A finding that is no collision leaves nothing out. -/
theorem Lays.report {steps : List Step} {forest : Forest} {left : List String}
    (h : Lays steps forest left) {d : Diagnostic} (hOther : collision? d = none) :
    Lays (.report d :: steps) forest left := by
  refine ⟨h.1, ?_⟩
  show collisions (d :: reports steps) = left
  rw [collisions, List.filterMap_cons_none hOther]
  exact h.2

/-- A collision leaves its name out. -/
theorem Lays.collide {steps : List Step} {forest : Forest} {left : List String}
    (h : Lays steps forest left) (definition name : String) :
    Lays (.report ⟨definition, .alreadyDeclared name⟩ :: steps) forest (name :: left) := by
  refine ⟨h.1, ?_⟩
  show name :: collisions (reports steps) = name :: left
  rw [h.2]

theorem Lays.reportAll {steps : List Step} {forest : Forest} {left : List String}
    (h : Lays steps forest left) (definition : String) {findings : List Finding}
    (hOther : ∀ finding ∈ findings, collision? ⟨definition, finding⟩ = none) :
    Lays (findings.map (fun finding => .report ⟨definition, finding⟩) ++ steps) forest left := by
  induction findings with
  | nil => exact h
  | cons finding rest ih =>
    have hRest := ih fun f hf => hOther f (List.mem_cons_of_mem _ hf)
    exact hRest.report (hOther finding (List.mem_cons_self ..))

/-- A declaration goes before what lies below it. -/
theorem Lays.declare {steps : List Step} {below : Forest} {left : List String}
    (h : Lays steps below left) (root : Outline) :
    Lays (.declare root :: steps) (.tree root below .empty) left := by
  refine ⟨?_, h.2⟩
  show root :: outlines steps = root :: (below.preorder ++ [])
  rw [h.1, List.append_nil]

/-- The steps of a tree and the steps of the trees after it. -/
theorem Lays.append {steps later : List Step} {root : Outline} {below next : Forest}
    {left left' : List String} (h : Lays steps (.tree root below .empty) left)
    (hLater : Lays later next left') :
    Lays (steps ++ later) (.tree root below next) (left ++ left') := by
  constructor
  · rw [outlines, List.filterMap_append]
    show outlines steps ++ outlines later = _
    rw [h.1, hLater.1]
    simp [Forest.preorder]
  · rw [reports, List.filterMap_append, collisions, List.filterMap_append]
    show collisions (reports steps) ++ collisions (reports later) = _
    rw [h.2, hLater.2]

-- ---------------------------------------------------------------------------
-- Findings between the declarations
-- ---------------------------------------------------------------------------

theorem mem_nestedClashes {place : String} {seen objects : List NestedObject} {finding : Finding}
    (h : finding ∈ nestedClashes place seen objects) :
    ∃ name, finding = .usedByOther place name := by
  induction objects generalizing seen with
  | nil => cases h
  | cons o rest ih =>
    rw [nestedClashes] at h
    split at h
    · exact ih h
    · split at h
      · exact ih h
      · rcases List.mem_cons.mp h with hHead | hRest
        · exact ⟨o.name, hHead⟩
        · exact ih hRest

/-- The findings on fields are hints and clashes. -/
theorem mem_fieldFindings {owner : String} {seen : List NestedObject}
    {fields : List FieldOutline} {finding : Finding}
    (h : finding ∈ fieldFindings owner seen fields) :
    (∃ place hint, finding = .fellBack place hint) ∨
      ∃ place name, finding = .usedByOther place name := by
  induction fields generalizing seen with
  | nil => cases h
  | cons field rest ih =>
    rw [fieldFindings, List.mem_append, List.mem_append, List.mem_map] at h
    rcases h with (⟨hint, _, rfl⟩ | hClash) | hRest
    · exact Or.inl ⟨_, hint, rfl⟩
    · obtain ⟨name, rfl⟩ := mem_nestedClashes hClash
      exact Or.inr ⟨_, name, rfl⟩
    · exact ih hRest

theorem fieldFindings_collision {owner : String} {seen : List NestedObject}
    {fields : List FieldOutline} (definition : String) :
    ∀ finding ∈ fieldFindings owner seen fields, collision? ⟨definition, finding⟩ = none := by
  intro finding h
  rcases mem_fieldFindings h with ⟨_, _, rfl⟩ | ⟨_, _, rfl⟩ <;> rfl

theorem variantFindings_collision {refs : List String} (seen : List String) (definition : String) :
    ∀ finding ∈ variantFindings seen refs, collision? ⟨definition, finding⟩ = none := by
  induction refs generalizing seen with
  | nil => intro finding h; cases h
  | cons reference rest ih =>
    intro finding h
    rw [variantFindings] at h
    split at h
    · rcases List.mem_cons.mp h with rfl | hRest
      · rfl
      · exact ih seen finding hRest
    · exact ih _ finding h

-- ---------------------------------------------------------------------------
-- Plans write forests
-- ---------------------------------------------------------------------------

/-- The plan of an object writes its struct and, below it, what its fields introduce. -/
def PlansTree (s : PlanSettings) (definition : String) (schema : ObjectSchema) : Prop :=
  ∀ taken name description, ∃ below left,
    Grows s (name :: taken) (introduced s.types name schema) below left ∧
    Lays (planObject s taken definition name description schema)
      (.tree (.struct name (description.or schema.description) schema) below .empty) left

/-- Introduced objects whose plans write trees are planned as a forest that grows. -/
theorem planAll_grows_of {s : PlanSettings} {definition : String} {objects : List NestedObject}
    (hTrees : ∀ o ∈ objects, PlansTree s definition o.schema) (taken : List String) :
    ∃ forest left, Grows s taken objects forest left ∧
      Lays (planAll s taken definition objects) forest left := by
  induction objects generalizing taken with
  | nil => exact ⟨.empty, [], .done, lays_nil⟩
  | cons o rest ih =>
    have hRest := ih fun x hx => hTrees x (List.mem_cons_of_mem _ hx)
    rw [planAll, planIntroduced]
    by_cases hTaken : (taken.contains o.name || s.definitions.contains o.name) = true
    · -- the name is not free: a finding, and nothing is declared
      rw [if_pos hTaken]
      rw [Bool.or_eq_true, List.contains_iff_mem, List.contains_iff_mem] at hTaken
      obtain ⟨forest, left, hGrows, hLays⟩ := hRest taken
      exact ⟨forest, o.name :: left, .leave hTaken hGrows, hLays.collide definition o.name⟩
    · rw [if_neg hTaken]
      rw [Bool.or_eq_true, List.contains_iff_mem, List.contains_iff_mem, not_or] at hTaken
      obtain ⟨below, leftBelow, hBelow, hTree⟩ :=
        hTrees o (List.mem_cons_self ..) taken o.name none
      rw [Option.none_or] at hTree
      obtain ⟨next, leftNext, hNext, hLays⟩ := hRest (o.name :: below.names ++ taken)
      have hNames : declaredNames (planObject s taken definition o.name none o.schema) =
          o.name :: below.names := by
        rw [hTree.declaredNames_eq, Forest.names_tree, Forest.names_empty, List.append_nil]
        rfl
      rw [hNames]
      exact ⟨.tree o.outline below next, leftBelow ++ leftNext,
        .place hTaken.1 hTaken.2 hBelow hNext, hTree.append hLays⟩

theorem plansTree (s : PlanSettings) (definition : String) (schema : ObjectSchema) :
    PlansTree s definition schema := by
  refine introduced_induction s.types ?_ schema
  intro schema ih taken name description
  obtain ⟨below, left, hGrows, hLays⟩ := planAll_grows_of (ih name) (name :: taken)
  refine ⟨below, left, hGrows, ?_⟩
  rw [planObject_eq]
  exact (hLays.declare _).reportAll definition (fieldFindings_collision definition)

/-- The plan of a definition writes its own declaration and what grows below it. -/
theorem planDefinition_grows (s : PlanSettings) (taken : List String) (name : String)
    (node : Node) : ∃ below left,
    Grows s ((ownOutline s name node).declared?.toList ++ taken)
      ((ownOutline s name node).introduces s.types) below left ∧
    Lays (planDefinition s taken name node) (.tree (ownOutline s name node) below .empty) left := by
  -- a definition that is no struct introduces nothing
  have hLone : ∀ outline : Outline, outline.introduces s.types = [] →
      ∀ findings : List Finding,
        (∀ finding ∈ findings, collision? ⟨name, finding⟩ = none) → ∃ below left,
        Grows s (outline.declared?.toList ++ taken) (outline.introduces s.types) below left ∧
        Lays (findings.map (fun finding => .report ⟨name, finding⟩) ++ [.declare outline])
          (.tree outline below .empty) left := by
    intro outline hNone findings hFindings
    rw [hNone]
    exact ⟨.empty, [], .done, (lays_nil.declare outline).reportAll name hFindings⟩
  have hPlaceholder : ∀ kind : Kind, ∀ finding ∈ [Finding.notDeclared kind],
      collision? ⟨name, finding⟩ = none := by
    intro kind finding hFinding
    rw [List.mem_singleton.mp hFinding]
    rfl
  cases node with
  | object schema => exact plansTree s name schema taken name none
  | record description key schema =>
    simp only [planDefinition, ownOutline]
    split
    · exact plansTree s name schema taken name description
    · exact hLone (.placeholder name .record) rfl [.notDeclared .record] (hPlaceholder _)
  | leaf description leaf =>
    cases leaf with
    | union refs closed =>
      exact hLone (.enum name description (variantNames [] refs)) rfl (variantFindings [] refs)
        (variantFindings_collision [] name)
    | _ => exact hLone (.placeholder name _) rfl [.notDeclared _] (hPlaceholder _)
  | _ => exact hLone (.placeholder name _) rfl [.notDeclared _] (hPlaceholder _)

/-- **A plan writes a forest.** The declarations of a document are the preorder of a forest
that grows from its definitions, and the collisions reported are the names left out. -/
theorem planDocument_grows (s : PlanSettings) (taken : List String)
    (definitions : List (String × Node)) : ∃ forest left,
    DocumentGrows s taken definitions forest left ∧
    Lays (planDocument s taken definitions) forest left := by
  induction definitions generalizing taken with
  | nil => exact ⟨.empty, [], .done, lays_nil⟩
  | cons p rest ih =>
    obtain ⟨name, node⟩ := p
    obtain ⟨below, leftBelow, hBelow, hTree⟩ := planDefinition_grows s taken name node
    have hNames : declaredNames (planDefinition s taken name node) =
        (ownOutline s name node).declared?.toList ++ below.names := by
      rw [hTree.declaredNames_eq, Forest.names_tree, Forest.names_empty, List.append_nil]
    rw [planDocument, hNames]
    obtain ⟨next, leftNext, hNext, hLays⟩ :=
      ih ((ownOutline s name node).declared?.toList ++ below.names ++ taken)
    exact ⟨.tree (ownOutline s name node) below next, leftBelow ++ leftNext,
      .define hBelow hNext, hTree.append hLays⟩

end Lexicon.Target
