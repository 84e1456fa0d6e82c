import Mathlib.Data.List.Nodup
import Lexicon.Proofs.Target.Forest

/-!
# Lexicon — what grows in a forest

Facts about every forest that has grown, by induction on its growth. The names that were
taken before are the invariant: what grows is new beside them, and what has grown is taken
for everything after it.

* `Grows.names_free`, `Grows.names_nodup` — introduced structs have new names.
* `Grows.left_declared` — a name that is left out is taken, or it is declared before.
* `Grows.placed`        — what a declared struct introduces is declared or left out.
* `DocumentGrows.names_nodup`, `DocumentGrows.left_declared`, `DocumentGrows.placed`,
  `DocumentGrows.roots_eq` — the same for whole documents, and whose the roots are.
* `DocumentGrows.declared_iff` — which of the names declared or left out are declared.
* `Grows.forall_outline`, `DocumentGrows.forall_outline`, `DocumentGrows.forall_struct` — what holds
                          of the definitions and passes on to what is introduced holds of all that
                          is declared.
-/

namespace Lexicon.Target

open Lexicon.Schema

-- ---------------------------------------------------------------------------
-- One tree and those after it
-- ---------------------------------------------------------------------------

theorem Forest.mem_names_tree {root : Outline} {below next : Forest} {n : String} :
    n ∈ (Forest.tree root below next).names ↔
      n ∈ root.declared?.toList ∨ n ∈ below.names ∨ n ∈ next.names := by
  rw [Forest.names_tree, List.append_assoc, List.mem_append, List.mem_append]

/-- A name left out below a root, or in a tree after it, is declared with them or was not
free before. -/
theorem Forest.left_declared_tree {root : Outline} {below next : Forest}
    {taken definitions leftBelow leftNext : List String}
    (hBelow : ∀ n ∈ leftBelow,
      n ∈ below.names ∨ n ∈ root.declared?.toList ++ taken ∨ n ∈ definitions)
    (hNext : ∀ n ∈ leftNext,
      n ∈ next.names ∨ n ∈ root.declared?.toList ++ below.names ++ taken ∨ n ∈ definitions) :
    ∀ n ∈ leftBelow ++ leftNext,
      n ∈ (Forest.tree root below next).names ∨ n ∈ taken ∨ n ∈ definitions := by
  intro n hn
  rw [Forest.mem_names_tree]
  rcases List.mem_append.mp hn with hLeft | hLeft
  · have := hBelow n hLeft
    rw [List.mem_append] at this
    tauto
  · have := hNext n hLeft
    rw [List.mem_append, List.mem_append] at this
    tauto

/-- Where no name is declared twice, one declaration has the name of any given one. -/
theorem Forest.filter_declared {declarations : List Outline} {outline : Outline} {name : String}
    (hNodup : (declarations.filterMap Outline.declared?).Nodup) (h : outline ∈ declarations)
    (hName : outline.declared? = some name) :
    declarations.filter (fun other => other.declared? = some name) = [outline] := by
  induction declarations with
  | nil => cases h
  | cons first rest ih =>
    rcases List.mem_cons.mp h with rfl | hRest
    · -- the name is not declared again
      rw [List.filterMap_cons_some hName, List.nodup_cons] at hNodup
      have hNone : rest.filter (fun other => other.declared? = some name) = [] := by
        rw [List.filter_eq_nil_iff]
        intro other hOther hSame
        exact hNodup.1 (List.mem_filterMap.mpr ⟨other, hOther, of_decide_eq_true hSame⟩)
      rw [List.filter_cons_of_pos, hNone]
      exact decide_eq_true hName
    · have hTail : (rest.filterMap Outline.declared?).Nodup := by
        cases hFirst : first.declared? with
        | none => rwa [List.filterMap_cons_none hFirst] at hNodup
        | some n =>
          rw [List.filterMap_cons_some hFirst] at hNodup
          exact (List.nodup_cons.mp hNodup).2
      rw [List.filter_cons_of_neg, ih hTail hRest]
      intro hSame
      rw [List.filterMap_cons_some (of_decide_eq_true hSame), List.nodup_cons] at hNodup
      exact hNodup.1 (List.mem_filterMap.mpr ⟨outline, hRest, hName⟩)

/-- What the declarations of a tree, or of those after it, introduce is declared with them
or left out, if that holds of the root. -/
theorem Forest.placed_tree {types : TypeSettings} {root : Outline} {below next : Forest}
    {leftBelow leftNext : List String}
    (hRoot : ∀ o ∈ root.introduces types, o.outline ∈ below.roots ∨ o.name ∈ leftBelow)
    (hBelow : ∀ outline ∈ below.preorder, ∀ o ∈ outline.introduces types,
      o.outline ∈ below.preorder ∨ o.name ∈ leftBelow)
    (hNext : ∀ outline ∈ next.preorder, ∀ o ∈ outline.introduces types,
      o.outline ∈ next.preorder ∨ o.name ∈ leftNext) :
    ∀ outline ∈ (Forest.tree root below next).preorder, ∀ o ∈ outline.introduces types,
      o.outline ∈ (Forest.tree root below next).preorder ∨ o.name ∈ leftBelow ++ leftNext := by
  intro outline hOutline o ho
  rw [Forest.preorder, List.mem_cons, List.mem_append] at hOutline ⊢
  rw [List.mem_append]
  rcases hOutline with rfl | hUnder | hAfter
  · -- the objects of the root are the roots of the trees below it
    have := (hRoot o ho).imp_left Forest.mem_preorder_of_mem_roots
    tauto
  · have := hBelow outline hUnder o ho
    tauto
  · have := hNext outline hAfter o ho
    tauto

-- ---------------------------------------------------------------------------
-- Below a struct
-- ---------------------------------------------------------------------------

/-- What is introduced takes names that are free. -/
theorem Grows.names_free {s : PlanSettings} {taken left : List String}
    {objects : List NestedObject} {forest : Forest} (h : Grows s taken objects forest left) :
    ∀ n ∈ forest.names, n ∉ taken ∧ n ∉ s.definitions := by
  induction h with
  | done => intro n hn; cases hn
  | leave _ _ ih => exact ih
  | @place taken leftBelow leftNext o rest below next hFree hOther _ _ ihBelow ihNext =>
    intro n hn
    rcases Forest.mem_names_tree.mp hn with hRoot | hBelow | hNext
    · obtain rfl : n = o.name := by simpa [NestedObject.outline, Outline.declared?] using hRoot
      exact ⟨hFree, hOther⟩
    · obtain ⟨hNew, hDef⟩ := ihBelow n hBelow
      exact ⟨fun hn => hNew (List.mem_cons_of_mem _ hn), hDef⟩
    · obtain ⟨hNew, hDef⟩ := ihNext n hNext
      exact ⟨fun hn => hNew (List.mem_append_right _ hn), hDef⟩

/-- No name is introduced twice. -/
theorem Grows.names_nodup {s : PlanSettings} {taken left : List String}
    {objects : List NestedObject} {forest : Forest} (h : Grows s taken objects forest left) :
    forest.names.Nodup := by
  induction h with
  | done => exact List.nodup_nil
  | leave _ _ ih => exact ih
  | @place taken leftBelow leftNext o rest below next _ _ hBelow hNext ihBelow ihNext =>
    rw [Forest.names_tree]
    show (o.name :: below.names ++ next.names).Nodup
    refine List.nodup_append'.mpr ⟨List.nodup_cons.mpr ⟨?_, ihBelow⟩, ihNext, ?_⟩
    · intro hn
      exact (hBelow.names_free _ hn).1 (List.mem_cons_self ..)
    · intro n hn hLater
      exact (hNext.names_free n hLater).1 (List.mem_append_left _ hn)

/-- A name that is left out is declared in the forest, unless it was not free before. -/
theorem Grows.left_declared {s : PlanSettings} {taken left : List String}
    {objects : List NestedObject} {forest : Forest} (h : Grows s taken objects forest left) :
    ∀ n ∈ left, n ∈ forest.names ∨ n ∈ taken ∨ n ∈ s.definitions := by
  induction h with
  | done => intro n hn; cases hn
  | leave hTaken _ ih =>
    intro n hn
    rcases List.mem_cons.mp hn with rfl | hRest
    · exact Or.inr hTaken
    · exact ih n hRest
  | place _ _ _ _ ihBelow ihNext => exact Forest.left_declared_tree ihBelow ihNext

/-- Every object becomes a root or is left out. -/
theorem Grows.placed_root {s : PlanSettings} {taken left : List String}
    {objects : List NestedObject} {forest : Forest} (h : Grows s taken objects forest left) :
    ∀ o ∈ objects, o.outline ∈ forest.roots ∨ o.name ∈ left := by
  induction h with
  | done => intro o ho; cases ho
  | leave _ _ ih =>
    intro o ho
    rcases List.mem_cons.mp ho with rfl | hRest
    · exact Or.inr (List.mem_cons_self ..)
    · exact (ih o hRest).imp_right (List.mem_cons_of_mem _)
  | place _ _ _ _ _ ihNext =>
    intro o ho
    rcases List.mem_cons.mp ho with rfl | hRest
    · exact Or.inl (List.mem_cons_self ..)
    · exact (ihNext o hRest).imp (List.mem_cons_of_mem _) (List.mem_append_right _)

/-- What a struct of the forest introduces is declared below it or left out. -/
theorem Grows.placed {s : PlanSettings} {taken left : List String}
    {objects : List NestedObject} {forest : Forest} (h : Grows s taken objects forest left) :
    ∀ outline ∈ forest.preorder, ∀ o ∈ outline.introduces s.types,
      o.outline ∈ forest.preorder ∨ o.name ∈ left := by
  induction h with
  | done => intro outline hOutline; cases hOutline
  | leave _ _ ih =>
    intro outline hOutline o ho
    exact (ih outline hOutline o ho).imp_right (List.mem_cons_of_mem _)
  | place _ _ hBelow _ ihBelow ihNext =>
    exact Forest.placed_tree hBelow.placed_root ihBelow ihNext

/-- What holds of the introduced objects of free names, and passes from a declaration to what it
introduces, holds of every declaration of the forest. -/
theorem Grows.forall_outline {s : PlanSettings} {P : Outline → Prop}
    (hPass : ∀ outline, P outline →
      ∀ o ∈ outline.introduces s.types, o.name ∉ s.definitions → P o.outline)
    {taken left : List String} {objects : List NestedObject} {forest : Forest}
    (h : Grows s taken objects forest left)
    (hObjects : ∀ o ∈ objects, o.name ∉ s.definitions → P o.outline) :
    ∀ outline ∈ forest.preorder, P outline := by
  induction h with
  | done => intro _ hMem; cases hMem
  | leave _ _ ih => exact ih fun o ho => hObjects o (List.mem_cons_of_mem _ ho)
  | @place taken _ _ o rest below next _ hOther _ _ ihBelow ihNext =>
    have hRoot : P o.outline := hObjects o (List.mem_cons_self ..) hOther
    intro outline hMem
    rw [Forest.preorder, List.mem_cons, List.mem_append] at hMem
    rcases hMem with rfl | hUnder | hAfter
    · exact hRoot
    · exact ihBelow (hPass o.outline hRoot) outline hUnder
    · exact ihNext (fun x hx => hObjects x (List.mem_cons_of_mem _ hx)) outline hAfter

-- ---------------------------------------------------------------------------
-- A whole document
-- ---------------------------------------------------------------------------

/-- The types that the definitions themselves declare, in order. -/
def ownNames (s : PlanSettings) (definitions : List (String × Node)) : List String :=
  definitions.filterMap fun p => (ownOutline s p.1 p.2).declared?

/-- A definition declares its own name, or nothing. -/
theorem ownOutline_declared {s : PlanSettings} {name n : String} {node : Node}
    (h : (ownOutline s name node).declared? = some n) : n = name := by
  cases node with
  | object schema => exact (Option.some.inj h).symm
  | record description key schema =>
    rw [ownOutline] at h
    split at h
    · exact (Option.some.inj h).symm
    · cases h
  | leaf description leaf =>
    cases leaf with
    | union refs closed => exact (Option.some.inj h).symm
    | _ => cases h
  | _ => cases h

theorem mem_names_of_mem_ownNames {s : PlanSettings} {definitions : List (String × Node)}
    {n : String} (h : n ∈ ownNames s definitions) : n ∈ definitions.map Prod.fst := by
  obtain ⟨p, hp, hDeclared⟩ := List.mem_filterMap.mp h
  rw [ownOutline_declared hDeclared]
  exact List.mem_map_of_mem hp

/-- Every definition is the root of a tree, and there are no other trees. -/
theorem DocumentGrows.roots_eq {s : PlanSettings} {taken left : List String}
    {definitions : List (String × Node)} {forest : Forest}
    (h : DocumentGrows s taken definitions forest left) :
    forest.roots = definitions.map fun (name, node) => ownOutline s name node := by
  induction h with
  | done => rfl
  | define _ _ ih => rw [Forest.roots, ih, List.map_cons]

/-- What a document declares is the name of a definition that is declared, or new. -/
theorem DocumentGrows.names_own_or_free {s : PlanSettings} {taken left : List String}
    {definitions : List (String × Node)} {forest : Forest}
    (h : DocumentGrows s taken definitions forest left) :
    ∀ n ∈ forest.names, n ∈ ownNames s definitions ∨ n ∉ taken ∧ n ∉ s.definitions := by
  induction h with
  | done => intro n hn; cases hn
  | @define taken _ _ name node rest below next hBelow _ ih =>
    intro n hn
    rw [ownNames, List.mem_filterMap]
    rcases Forest.mem_names_tree.mp hn with hRoot | hUnder | hAfter
    · exact Or.inl ⟨(name, node), List.mem_cons_self .., Option.mem_toList.mp hRoot⟩
    · obtain ⟨hNew, hDef⟩ := hBelow.names_free n hUnder
      exact Or.inr ⟨fun hTaken => hNew (List.mem_append_right _ hTaken), hDef⟩
    · rcases ih n hAfter with hOwn | ⟨hNew, hDef⟩
      · obtain ⟨p, hp, hDeclared⟩ := List.mem_filterMap.mp hOwn
        exact Or.inl ⟨p, List.mem_cons_of_mem _ hp, hDeclared⟩
      · exact Or.inr ⟨fun hTaken => hNew (List.mem_append_right _ hTaken), hDef⟩

/-- **No name is declared twice.** Definitions of different names declare different types,
and what they introduce stays clear of all of them. -/
theorem DocumentGrows.names_nodup {s : PlanSettings} {taken left : List String}
    {definitions : List (String × Node)} {forest : Forest}
    (h : DocumentGrows s taken definitions forest left)
    (hNames : (definitions.map Prod.fst).Nodup)
    (hKnown : ∀ n ∈ definitions.map Prod.fst, n ∈ s.definitions) : forest.names.Nodup := by
  induction h with
  | done => exact List.nodup_nil
  | @define taken _ _ name node rest below next hBelow hNext ih =>
    rw [List.map_cons] at hNames hKnown
    obtain ⟨hHead, hTail⟩ := List.nodup_cons.mp hNames
    have hRest : ∀ n ∈ rest.map Prod.fst, n ∈ s.definitions :=
      fun n hn => hKnown n (List.mem_cons_of_mem _ hn)
    have hRoot : ∀ n ∈ (ownOutline s name node).declared?.toList, n = name :=
      fun n hn => ownOutline_declared (Option.mem_toList.mp hn)
    rw [Forest.names_tree]
    refine List.nodup_append'.mpr ⟨List.nodup_append'.mpr ⟨?_, hBelow.names_nodup, ?_⟩,
      ih hTail hRest, ?_⟩
    · cases (ownOutline s name node).declared? with
      | none => exact List.nodup_nil
      | some n => exact List.nodup_singleton n
    · -- what lies below the root is no definition's name
      intro n hn hUnder
      rw [hRoot n hn] at hUnder
      exact (hBelow.names_free name hUnder).2 (hKnown name (List.mem_cons_self ..))
    · intro n hn hAfter
      rcases hNext.names_own_or_free n hAfter with hOwn | ⟨hNew, -⟩
      · -- the name of a later definition
        have hLater := mem_names_of_mem_ownNames hOwn
        rcases List.mem_append.mp hn with hIsRoot | hUnder
        · rw [hRoot n hIsRoot] at hLater
          exact hHead hLater
        · exact (hBelow.names_free n hUnder).2 (hRest n hLater)
      · exact hNew (List.mem_append_left _ hn)

/-- The definitions that are declared are so under their own names. -/
theorem DocumentGrows.own_declared {s : PlanSettings} {taken left : List String}
    {definitions : List (String × Node)} {forest : Forest}
    (h : DocumentGrows s taken definitions forest left) :
    ∀ n ∈ ownNames s definitions, n ∈ forest.names := by
  intro n hn
  obtain ⟨p, hp, hDeclared⟩ := List.mem_filterMap.mp hn
  refine Forest.mem_names (Forest.mem_preorder_of_mem_roots ?_) hDeclared
  rw [h.roots_eq]
  exact List.mem_map_of_mem hp

theorem DocumentGrows.left_declared {s : PlanSettings} {taken left : List String}
    {definitions : List (String × Node)} {forest : Forest}
    (h : DocumentGrows s taken definitions forest left) :
    ∀ n ∈ left, n ∈ forest.names ∨ n ∈ taken ∨ n ∈ s.definitions := by
  induction h with
  | done => intro n hn; cases hn
  | define hBelow _ ih => exact Forest.left_declared_tree hBelow.left_declared ih

theorem DocumentGrows.placed {s : PlanSettings} {taken left : List String}
    {definitions : List (String × Node)} {forest : Forest}
    (h : DocumentGrows s taken definitions forest left) :
    ∀ outline ∈ forest.preorder, ∀ o ∈ outline.introduces s.types,
      o.outline ∈ forest.preorder ∨ o.name ∈ left := by
  induction h with
  | done => intro outline hOutline; cases hOutline
  | define hBelow _ ih => exact Forest.placed_tree hBelow.placed_root hBelow.placed ih

/-- **Declared or not.** Of the names declared or left out, those are declared that no
definition without a declaration of its own has. -/
theorem DocumentGrows.declared_iff {s : PlanSettings} {left : List String}
    {definitions : List (String × Node)} {forest : Forest}
    (h : DocumentGrows s [] definitions forest left)
    (hNames : (definitions.map Prod.fst).Nodup)
    (hKnown : ∀ n, n ∈ s.definitions ↔ n ∈ definitions.map Prod.fst) {n : String}
    (hn : n ∈ forest.names ∨ n ∈ left) :
    n ∈ forest.names ↔
      ∀ node, (n, node) ∈ definitions → (ownOutline s n node).declared? = some n := by
  constructor
  · intro hDeclared node hNode
    rcases h.names_own_or_free n hDeclared with hOwn | ⟨-, hFree⟩
    · obtain ⟨⟨name, other⟩, hOther, hOutline⟩ := List.mem_filterMap.mp hOwn
      obtain rfl : n = name := ownOutline_declared hOutline
      -- there is one definition of the name
      cases List.inj_on_of_nodup_map hNames hOther hNode rfl
      exact hOutline
    · exact absurd ((hKnown n).mpr (List.mem_map_of_mem hNode)) hFree
  · intro hOwn
    by_contra hMissing
    rcases h.left_declared n (hn.resolve_left hMissing) with hDeclared | hTaken | hDefinition
    · exact hMissing hDeclared
    · cases hTaken
    · obtain ⟨p, hp, rfl⟩ := List.mem_map.mp ((hKnown n).mp hDefinition)
      have hMem : p.1 ∈ ownNames s definitions :=
        List.mem_filterMap.mpr ⟨p, hp, hOwn p.2 hp⟩
      exact hMissing (h.own_declared p.1 hMem)

/-- What holds of the declarations of the definitions, and passes from a declaration to what it
introduces under a free name, holds of everything that is declared. -/
theorem DocumentGrows.forall_outline {s : PlanSettings} {P : Outline → Prop}
    (hPass : ∀ outline, P outline →
      ∀ o ∈ outline.introduces s.types, o.name ∉ s.definitions → P o.outline)
    {taken left : List String} {definitions : List (String × Node)} {forest : Forest}
    (h : DocumentGrows s taken definitions forest left)
    (hOwn : ∀ p ∈ definitions, P (ownOutline s p.1 p.2)) :
    ∀ outline ∈ forest.preorder, P outline := by
  induction h with
  | done => intro _ hMem; cases hMem
  | @define taken _ _ name node rest below next hBelow _ ih =>
    have hRoot := hOwn (name, node) (List.mem_cons_self ..)
    intro outline hMem
    rw [Forest.preorder, List.mem_cons, List.mem_append] at hMem
    rcases hMem with rfl | hUnder | hAfter
    · exact hRoot
    · exact hBelow.forall_outline hPass (hPass _ hRoot) outline hUnder
    · exact ih (fun p hp => hOwn p (List.mem_cons_of_mem _ hp)) outline hAfter

/-- What holds of the structs of the definitions and passes from a struct to what it
introduces holds of every struct that is declared. -/
theorem DocumentGrows.forall_struct {s : PlanSettings} {P : ObjectSchema → Prop}
    (hPass : ∀ owner schema, P schema → ∀ o ∈ introduced s.types owner schema, P o.schema)
    {taken left : List String} {definitions : List (String × Node)} {forest : Forest}
    (h : DocumentGrows s taken definitions forest left)
    (hOwn : ∀ p ∈ definitions, ∀ owner description schema,
      ownOutline s p.1 p.2 = .struct owner description schema → P schema) :
    ∀ owner description schema,
      .struct owner description schema ∈ forest.preorder → P schema := by
  have hAll := h.forall_outline (P := fun outline => ∀ owner description schema,
    outline = .struct owner description schema → P schema) ?_ hOwn
  · exact fun owner description schema hMem => hAll _ hMem owner description schema rfl
  · rintro (⟨owner, description, schema⟩ | _ | _) hOuter o ho - _ _ _ hSame
    · cases hSame
      exact hPass owner schema (hOuter owner description schema rfl) o ho
    · cases ho
    · cases ho

end Lexicon.Target
