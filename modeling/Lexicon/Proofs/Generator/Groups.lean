import Lexicon.Proofs.Generator.History
import Lexicon.Proofs.Target.Independence

/-!
# Lexicon — the blocks of a text by definition

A document is generated definition by definition: each of them gives a group of blocks, in the
state that those before it have left behind. The plan of a whole document is no more than the
plans of its definitions carried out in this way.

* `Generator.inGroups`  — the blocks for some definitions, a group for each of them.
* `Generator.parts`     — the head of a document and its groups.
* `perform_append`, `perform_frame` — a plan is carried out bit by bit, and what that changes.
* `generate_parts`      — a text is made of these parts.
-/

namespace Lexicon.Generator

open Schema Target

-- ---------------------------------------------------------------------------
-- Groups
-- ---------------------------------------------------------------------------

/-- The blocks for some definitions, one after the other: a group for each of them. -/
def inGroups (g : Generator) :
    List (String × Node) → Except GenerationFault (List (List String)) × Generator
  | [] => (.ok [], g)
  | (name, node) :: rest =>
    match g.definition name node with
    | (.error fault, g) => (.error fault, g)
    | (.ok blocks, g) =>
      match g.inGroups rest with
      | (.error fault, g) => (.error fault, g)
      | (.ok groups, g) => (.ok (blocks :: groups), g)

/-- The parts of the text for a document: its head, and the groups of its definitions. -/
def parts (g : Generator) (document : Document) :
    Except GenerationFault (List String × List (List String)) :=
  match (g.start document).prelude document with
  | (.error fault, _) => .error fault
  | (.ok head, g) => (g.inGroups document.definitions).1.map fun groups => (head, groups)

/-- What comes of definitions: the group of the first, and then those of the others. -/
theorem inGroups_cons (g : Generator) (name : String) (node : Node)
    (rest : List (String × Node)) :
    (g.inGroups ((name, node) :: rest)).1 =
      (g.definition name node).1.bind fun blocks =>
        ((g.definition name node).2.inGroups rest).1.map (blocks :: ·) := by
  rw [inGroups]
  split
  · rename_i hBlocks
    rw [hBlocks]
    rfl
  · rename_i blocks next hBlocks
    rw [hBlocks]
    split
    · rename_i hRest
      dsimp only
      rw [hRest]
      rfl
    · rename_i hRest
      dsimp only
      rw [hRest]
      rfl

theorem parts_eq (g : Generator) (document : Document) :
    g.parts document = ((g.start document).prelude document).1.bind fun head =>
      (((g.start document).prelude document).2.inGroups document.definitions).1.map
        fun groups => (head, groups) := by
  rw [parts]
  split
  · rename_i hHead
    rw [hHead]
    rfl
  · rename_i hHead
    rw [hHead]
    rfl

-- ---------------------------------------------------------------------------
-- Plans
-- ---------------------------------------------------------------------------

/-- The state after a plan that begins with a declaration. -/
theorem perform_declare_snd (g : Generator) (outline : Outline) (rest : List Step) {block : String}
    (h : (g.declare outline).1 = .ok block) :
    (g.perform (.declare outline :: rest)).2 = ((g.declare outline).2.perform rest).2 := by
  rw [perform]
  split
  · rename_i hBlock
    rw [hBlock] at h
    cases h
  · rename_i hBlock
    rw [hBlock]
    split
    · rename_i hRest
      dsimp only
      rw [hRest]
    · rename_i hRest
      dsimp only
      rw [hRest]

/-- **A plan is carried out bit by bit.** -/
theorem perform_append (g : Generator) (steps later : List Step) :
    (g.perform (steps ++ later)).1 =
      (g.perform steps).1.bind fun blocks =>
        ((g.perform steps).2.perform later).1.map (blocks ++ ·) := by
  induction steps generalizing g with
  | nil =>
    show (g.perform later).1 = (g.perform later).1.map fun blocks => [] ++ blocks
    cases (g.perform later).1 <;> rfl
  | cons first rest ih =>
    cases first with
    | report d => exact ih (g.report d)
    | declare outline =>
      rw [List.cons_append, perform_declare, perform_declare]
      cases hBlock : (g.declare outline).1 with
      | error fault => rfl
      | ok block =>
        rw [perform_declare_snd g outline rest hBlock]
        dsimp only [Except.bind]
        rw [ih]
        cases ((g.declare outline).2.perform rest).1 with
        | error fault => rfl
        | ok blocks =>
          dsimp only [Except.bind, Except.map]
          cases (((g.declare outline).2.perform rest).2.perform later).1 <;> rfl

/-- A plan that is carried out leaves alone what plans depend on, and notes what it declares. -/
theorem perform_frame {g g' : Generator} {steps : List Step} {blocks : List String}
    (h : g.perform steps = (.ok blocks, g')) :
    g'.planSettings = g.planSettings ∧
      ∀ n, n ∈ g'.declared ↔ n ∈ declaredNames steps ∨ n ∈ g.declared := by
  induction steps generalizing g blocks with
  | nil =>
    cases h
    exact ⟨rfl, fun n => (or_iff_right List.not_mem_nil).symm⟩
  | cons first rest ih =>
    cases first with
    | report d => exact ih (g := g.report d) h
    | declare outline =>
      rw [perform] at h
      split at h
      · cases h
      · rename_i block next hBlock
        split at h
        · cases h
        · rename_i others last hRest
          cases h
          obtain ⟨hSettings, hDeclared⟩ := ih hRest
          obtain ⟨scope, store, hFrame⟩ := declare_frame g outline
          rw [hBlock] at hFrame
          obtain rfl : next = _ := hFrame
          refine ⟨hSettings, ?_⟩
          intro n
          have hNames : declaredNames (.declare outline :: rest)
              = outline.declared?.toList ++ declaredNames rest := by
            show (outline :: outlines rest).filterMap Outline.declared? = _
            rw [List.filterMap_cons]
            cases outline.declared? <;> rfl
          rw [hDeclared n, hNames, List.mem_append, List.mem_append]
          exact or_left_comm.trans or_assoc.symm

-- ---------------------------------------------------------------------------
-- Documents
-- ---------------------------------------------------------------------------

/-- **The plan of a document** gives the blocks of its definitions, one group after the other. -/
theorem perform_planDocument {g : Generator} {taken : List String}
    (hTaken : ∀ n, n ∈ taken ↔ n ∈ g.declared) (definitions : List (String × Node)) :
    (g.perform (planDocument g.planSettings taken definitions)).1 =
      (g.inGroups definitions).1.map List.flatten := by
  induction definitions generalizing g taken with
  | nil => rfl
  | cons p rest ih =>
    obtain ⟨name, node⟩ := p
    rw [planDocument, planDefinition_congr g.planSettings hTaken, perform_append, inGroups_cons,
      definition]
    cases hRun : g.perform (planDefinition g.planSettings g.declared name node) with
    | mk result next =>
      cases result with
      | error fault => rfl
      | ok blocks =>
        obtain ⟨hSettings, hDeclared⟩ := perform_frame hRun
        have hNext : ∀ n, n ∈ declaredNames (planDefinition g.planSettings g.declared name node)
            ++ taken ↔ n ∈ next.declared := by
          intro n
          rw [hDeclared n, List.mem_append, hTaken n]
        dsimp only [Except.bind]
        rw [← hSettings] at hNext ⊢
        rw [ih hNext]
        cases (next.inGroups rest).1 <;> rfl

/-- **A text is made of the parts of its document**, with a line feed between the blocks. -/
theorem generate_parts (g : Generator) (document : Document) :
    (g.generate document).1 = (g.parts document).map fun parts =>
      "\n".intercalate (parts.1 ++ parts.2.flatten) := by
  rw [generate_fst, parts_eq]
  obtain ⟨store, hFrame⟩ := prelude_frame (g.start document) document
  cases ((g.start document).prelude document).1 with
  | error fault => rfl
  | ok head =>
    have hPlan : g.documentPlan document = planDocument
        ((g.start document).prelude document).2.planSettings [] document.definitions := by
      rw [hFrame]
      rfl
    have hTaken : ∀ n, n ∈ ([] : List String) ↔
        n ∈ ((g.start document).prelude document).2.declared := by
      intro n
      rw [hFrame]
      rfl
    dsimp only [Except.bind]
    rw [hPlan, perform_planDocument hTaken]
    cases (((g.start document).prelude document).2.inGroups document.definitions).1 <;> rfl

end Lexicon.Generator
