import Mathlib.Data.List.Flatten
import Mathlib.Data.List.Perm.Subperm
import Lexicon.Proofs.Target.Growth

/-!
# Lexicon — definitions planned apart

What is declared below a definition depends on the rest of the document only through the names
that are taken. Where nothing was left out, the trees of the definitions share no names, so that
each of them grows alike in any document made of some of the definitions.

* `Grows.unique`         — what grows is determined.
* `Grows.transfer`       — what has grown with nothing left out grows again wherever its names
                           are free.
* `Planted`, `Apart`     — definitions with what is declared below them, in trees of their own.
* `DocumentGrows.apart`  — the definitions of a document in which nothing was left out.
* `Apart.select`         — some of them, in any order and in a document of their own.
* `planDefinition_congr` — in which order names were taken does not matter.
-/

namespace Lexicon.Target

open Lexicon.Schema

-- ---------------------------------------------------------------------------
-- One forest
-- ---------------------------------------------------------------------------

/-- What grows is determined. -/
theorem Grows.unique {s : PlanSettings} {taken left : List String} {objects : List NestedObject}
    {forest : Forest} (h : Grows s taken objects forest left) {other : Forest}
    {otherLeft : List String} (hOther : Grows s taken objects other otherLeft) :
    forest = other ∧ left = otherLeft := by
  induction h generalizing other otherLeft with
  | done =>
    cases hOther
    exact ⟨rfl, rfl⟩
  | leave hTaken _ ih =>
    cases hOther with
    | leave _ hRest =>
      obtain ⟨rfl, rfl⟩ := ih hRest
      exact ⟨rfl, rfl⟩
    | place hFree hNew _ _ => exact absurd hTaken (not_or.mpr ⟨hFree, hNew⟩)
  | place hFree hNew _ _ ihBelow ihNext =>
    cases hOther with
    | leave hTaken _ => exact absurd hTaken (not_or.mpr ⟨hFree, hNew⟩)
    | place _ _ hBelow hNext =>
      obtain ⟨rfl, rfl⟩ := ihBelow hBelow
      obtain ⟨rfl, rfl⟩ := ihNext hNext
      exact ⟨rfl, rfl⟩

/-- **What has grown with nothing left out grows again** wherever its names are free. -/
theorem Grows.transfer {s s' : PlanSettings} (hTypes : s'.types = s.types)
    {taken left : List String} {objects : List NestedObject} {forest : Forest}
    (h : Grows s taken objects forest left) (hLeft : left = []) {taken' : List String}
    (hFree : ∀ n ∈ forest.names, n ∉ taken' ∧ n ∉ s'.definitions) :
    Grows s' taken' objects forest [] := by
  induction h generalizing taken' with
  | done => exact .done
  | leave _ _ _ => cases hLeft
  | @place taken leftBelow leftNext o rest below next _ _ hBelow hNext ihBelow ihNext =>
    obtain ⟨hLeftBelow, hLeftNext⟩ := List.append_eq_nil_iff.mp hLeft
    have hName : o.name ∈ (Forest.tree o.outline below next).names :=
      Forest.mem_names_tree.mpr (.inl (List.mem_singleton_self _))
    have hBelowFree : ∀ n ∈ below.names, n ∉ o.name :: taken' ∧ n ∉ s'.definitions := by
      intro n hn
      obtain ⟨hNew, hDef⟩ := hFree n (Forest.mem_names_tree.mpr (.inr (.inl hn)))
      refine ⟨?_, hDef⟩
      rw [List.mem_cons, not_or]
      exact ⟨fun hEq => (hBelow.names_free n hn).1 (hEq ▸ List.mem_cons_self ..), hNew⟩
    have hNextFree : ∀ n ∈ next.names,
        n ∉ o.name :: below.names ++ taken' ∧ n ∉ s'.definitions := by
      intro n hn
      obtain ⟨hNew, hDef⟩ := hFree n (Forest.mem_names_tree.mpr (.inr (.inr hn)))
      refine ⟨?_, hDef⟩
      rw [List.mem_append, not_or]
      exact ⟨fun hBefore => (hNext.names_free n hn).1 (List.mem_append_left _ hBefore), hNew⟩
    have hGrowsBelow := ihBelow hLeftBelow hBelowFree
    rw [← hTypes] at hGrowsBelow
    exact .place (hFree o.name hName).1 (hFree o.name hName).2 hGrowsBelow
      (ihNext hLeftNext hNextFree)

-- ---------------------------------------------------------------------------
-- The definitions of a document
-- ---------------------------------------------------------------------------

/-- A definition, with what is declared below it. -/
abbrev Planted := (String × Node) × Forest

/-- The declarations of a definition, its own first. -/
def Planted.outlines (s : PlanSettings) (tree : Planted) : List Outline :=
  ownOutline s tree.1.1 tree.1.2 :: tree.2.preorder

/-- The definitions have trees in which nothing was left out; these share no names with each
other, nor with the definitions of the document. -/
structure Apart (s : PlanSettings) (trees : List Planted) : Prop where
  grows : ∀ tree ∈ trees,
    ∃ taken, Grows s taken ((ownOutline s tree.1.1 tree.1.2).introduces s.types) tree.2 []
  nodup : (trees.flatMap fun tree => tree.2.names).Nodup
  free : ∀ tree ∈ trees, ∀ n ∈ tree.2.names, n ∉ s.definitions

/-- **A document in which nothing was left out** has its definitions apart. -/
theorem DocumentGrows.apart {s : PlanSettings} {taken left : List String}
    {definitions : List (String × Node)} {forest : Forest}
    (h : DocumentGrows s taken definitions forest left) (hLeft : left = []) :
    ∃ trees : List Planted, trees.map Prod.fst = definitions ∧ Apart s trees ∧
      ∀ tree ∈ trees, ∀ n ∈ tree.2.names, n ∉ taken := by
  induction h with
  | done =>
    refine ⟨[], rfl, ⟨?_, List.nodup_nil, ?_⟩, ?_⟩
    all_goals
      intro tree hTree
      cases hTree
  | @define taken leftBelow leftNext name node rest below next hBelow hNext ih =>
    obtain ⟨rfl, rfl⟩ := List.append_eq_nil_iff.mp hLeft
    obtain ⟨trees, hTrees, hApart, hNew⟩ := ih rfl
    refine ⟨((name, node), below) :: trees, by rw [List.map_cons, hTrees], ⟨?_, ?_, ?_⟩, ?_⟩
    · intro tree hTree
      rcases List.mem_cons.mp hTree with rfl | hTree
      · exact ⟨_, hBelow⟩
      · exact hApart.grows tree hTree
    · rw [List.flatMap_cons, List.nodup_append']
      refine ⟨hBelow.names_nodup, hApart.nodup, ?_⟩
      intro n hn hLater
      obtain ⟨tree, hTree, hn'⟩ := List.mem_flatMap.mp hLater
      exact hNew tree hTree n hn' (List.mem_append_left _ (List.mem_append_right _ hn))
    · intro tree hTree n hn
      rcases List.mem_cons.mp hTree with rfl | hTree
      · exact (hBelow.names_free n hn).2
      · exact hApart.free tree hTree n hn
    · intro tree hTree n hn hTaken
      rcases List.mem_cons.mp hTree with rfl | hTree
      · exact (hBelow.names_free n hn).1 (List.mem_append_right _ hTaken)
      · exact hNew tree hTree n hn (List.mem_append_right _ hTaken)

theorem ownOutline_congr {s s' : PlanSettings} (h : s'.expandsRecords = s.expandsRecords)
    (name : String) (node : Node) : ownOutline s' name node = ownOutline s name node := by
  cases node with
  | record description key schema => rw [ownOutline, ownOutline, h]
  | leaf description leaf => cases leaf <;> rfl
  | _ => rfl

/-- **Some of the definitions are apart as well**, in any order and in a document of theirs. -/
theorem Apart.select {s s' : PlanSettings} {trees others : List Planted} (h : Apart s trees)
    (hOthers : others.Subperm trees) (hTypes : s'.types = s.types)
    (hExpands : s'.expandsRecords = s.expandsRecords)
    (hDefinitions : ∀ n ∈ s'.definitions, n ∈ s.definitions) : Apart s' others := by
  have hMem : ∀ tree ∈ others, tree ∈ trees := fun _ hTree => hOthers.subset hTree
  have hFree : ∀ tree ∈ others, ∀ n ∈ tree.2.names, n ∉ s'.definitions := by
    intro tree hTree n hn hDef
    exact h.free tree (hMem tree hTree) n hn (hDefinitions n hDef)
  refine ⟨?_, ?_, hFree⟩
  · intro tree hTree
    obtain ⟨taken, hGrows⟩ := h.grows tree (hMem tree hTree)
    refine ⟨[], ?_⟩
    rw [ownOutline_congr hExpands, hTypes]
    exact hGrows.transfer hTypes rfl fun n hn => ⟨List.not_mem_nil, hFree tree hTree n hn⟩
  · obtain ⟨same, hPerm, hSublist⟩ := hOthers
    exact ((hPerm.flatMap_right _).nodup_iff).mp ((hSublist.flatMap _).nodup h.nodup)

/-- **A definition whose tree is apart** is planned as this tree, if the names below it are
free. -/
theorem Apart.outlines_eq {s : PlanSettings} {trees : List Planted} (h : Apart s trees)
    {tree : Planted} (hTree : tree ∈ trees) (hName : tree.1.1 ∈ s.definitions)
    {taken : List String} (hFree : ∀ n ∈ tree.2.names, n ∉ taken) :
    outlines (planDefinition s taken tree.1.1 tree.1.2) = tree.outlines s := by
  obtain ⟨before, hGrows⟩ := h.grows tree hTree
  have hDefs := h.free tree hTree
  -- the definition's own name is one of the document, and none of those below it
  have hNew : ∀ n ∈ tree.2.names,
      n ∉ (ownOutline s tree.1.1 tree.1.2).declared?.toList ++ taken ∧ n ∉ s.definitions := by
    intro n hn
    refine ⟨?_, hDefs n hn⟩
    rw [List.mem_append, not_or]
    refine ⟨?_, hFree n hn⟩
    intro hOwn
    rw [ownOutline_declared (Option.mem_toList.mp hOwn)] at hn
    exact hDefs _ hn hName
  obtain ⟨below, left, hPlanned, hLays⟩ := planDefinition_grows s taken tree.1.1 tree.1.2
  obtain ⟨rfl, -⟩ := (hGrows.transfer rfl rfl hNew).unique hPlanned
  rw [hLays.1, Forest.preorder, Forest.preorder, List.append_nil, Planted.outlines]

/-- A definition declares none of the names below those after it. -/
theorem Apart.not_declared {s : PlanSettings} {tree : Planted} {rest : List Planted}
    (h : Apart s (tree :: rest)) (hName : tree.1.1 ∈ s.definitions) {other : Planted}
    (hOther : other ∈ rest) {n : String} (hn : n ∈ other.2.names) :
    n ∉ (tree.outlines s).filterMap Outline.declared? := by
  have hNames : (tree.outlines s).filterMap Outline.declared?
      = (ownOutline s tree.1.1 tree.1.2).declared?.toList ++ tree.2.names := by
    rw [Planted.outlines, List.filterMap_cons, Forest.names]
    cases (ownOutline s tree.1.1 tree.1.2).declared? <;> rfl
  have hNodup := h.nodup
  rw [List.flatMap_cons, List.nodup_append'] at hNodup
  rw [hNames, List.mem_append, not_or]
  constructor
  · intro hOwn
    rw [ownOutline_declared (Option.mem_toList.mp hOwn)] at hn
    exact h.free other (List.mem_cons_of_mem _ hOther) _ hn hName
  · intro hBelow
    exact hNodup.2.2 hBelow (List.mem_flatMap.mpr ⟨other, hOther, hn⟩)

-- ---------------------------------------------------------------------------
-- Names that are taken
-- ---------------------------------------------------------------------------

theorem contains_congr {taken taken' : List String} (h : ∀ n, n ∈ taken ↔ n ∈ taken')
    (name : String) : taken.contains name = taken'.contains name := by
  rw [Bool.eq_iff_iff, List.contains_iff_mem, List.contains_iff_mem]
  exact h name

theorem planAll_congr {s : PlanSettings} {definition : String} {objects : List NestedObject}
    (hObjects : ∀ o ∈ objects, ∀ taken taken' : List String, (∀ n, n ∈ taken ↔ n ∈ taken') →
      planObject s taken definition o.name none o.schema
        = planObject s taken' definition o.name none o.schema)
    {taken taken' : List String} (h : ∀ n, n ∈ taken ↔ n ∈ taken') :
    planAll s taken definition objects = planAll s taken' definition objects := by
  induction objects generalizing taken taken' with
  | nil => rfl
  | cons o rest ih =>
    have hFirst : planIntroduced s taken definition o = planIntroduced s taken' definition o := by
      rw [planIntroduced, planIntroduced, contains_congr h,
        hObjects o (List.mem_cons_self ..) taken taken' h]
    rw [planAll, planAll, hFirst]
    refine congrArg _ (ih (fun x hx => hObjects x (List.mem_cons_of_mem _ hx)) ?_)
    intro n
    rw [List.mem_append, List.mem_append, h n]

theorem planObject_congr (s : PlanSettings) {taken taken' : List String}
    (h : ∀ n, n ∈ taken ↔ n ∈ taken') (definition name : String) (description : Option String)
    (schema : ObjectSchema) :
    planObject s taken definition name description schema
      = planObject s taken' definition name description schema := by
  induction schema using introduced_induction s.types generalizing taken taken' name description with
  | hStep schema ih =>
    rw [planObject_eq, planObject_eq]
    refine congrArg (fun steps => _ ++ Step.declare _ :: steps) (planAll_congr ?_ ?_)
    · intro o ho taken taken' h
      exact ih name o ho h o.name none
    · intro n
      rw [List.mem_cons, List.mem_cons, h n]

/-- **In which order names were taken does not matter** to the plan of a definition. -/
theorem planDefinition_congr (s : PlanSettings) {taken taken' : List String}
    (h : ∀ n, n ∈ taken ↔ n ∈ taken') (name : String) (node : Node) :
    planDefinition s taken name node = planDefinition s taken' name node := by
  cases node with
  | object schema => exact planObject_congr s h name name none schema
  | record description key schema =>
    rw [planDefinition, planDefinition, planObject_congr s h]
  | leaf description leaf => cases leaf <;> rfl
  | _ => rfl

end Lexicon.Target
