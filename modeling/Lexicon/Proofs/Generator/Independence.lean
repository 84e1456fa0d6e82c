import Lexicon.Proofs.Generator.Groups
import Lexicon.Proofs.Generator.Declarations

/-!
# Lexicon — definitions generated independently

Definitions share a state: names that are taken, names of fields that were handed out, and
conversions that are remembered. It shows in a text only where a name is reported as declared
already. Without such a report the blocks for a definition are those that it has in a document of
its own.

* `Sound.perform_fst`     — the blocks of a plan are those of its declarations, each by itself.
* `Reachable.inGroups_apart` — definitions that are apart have the groups of their trees.
* `Emits`                 — the head and the groups that every generator gives for a document.
* `generate_independent`  — a document in which no name is reported: each of its definitions has
                            the same group alone, and in any order.
-/

namespace Lexicon.Generator

open Schema Target

section Groups

variable {s : Settings} {g h : Generator}

-- ---------------------------------------------------------------------------
-- Blocks of declarations
-- ---------------------------------------------------------------------------

/-- **The blocks of a plan are those of its declarations**, each written by itself. -/
theorem Sound.perform_fst (hg : Sound s g) (hh : Sound s h) (steps : List Step) :
    (g.perform steps).1 = (outlines steps).mapM fun outline => (h.declare outline).1 := by
  induction steps generalizing g with
  | nil => rfl
  | cons first rest ih =>
    cases first with
    | report d => exact ih (hg.after (.report d))
    | declare outline =>
      show _ = (outline :: outlines rest).mapM _
      rw [perform_declare, List.mapM_cons, hg.declare_eq hh, ih (hg.declare outline)]
      cases (h.declare outline).1 with
      | error fault => rfl
      | ok block => cases (outlines rest).mapM fun outline => (h.declare outline).1 <;> rfl

/-- The blocks for a definition with what is declared below it. -/
def treeBlocks (g : Generator) (tree : Planted) : Except GenerationFault (List String) :=
  (tree.outlines g.planSettings).mapM fun outline => (g.declare outline).1

theorem Sound.treeBlocks_eq (hg : Sound s g) (hh : Sound s h) (tree : Planted) :
    g.treeBlocks tree = h.treeBlocks tree := by
  have hExpands : g.planSettings.expandsRecords = h.planSettings.expandsRecords := by
    rw [planSettings, planSettings, hg.settings_eq hh]
  rw [treeBlocks, treeBlocks, Planted.outlines, Planted.outlines, ownOutline_congr hExpands]
  exact congrArg (List.mapM · _) (funext fun outline => hg.declare_eq hh outline)

-- ---------------------------------------------------------------------------
-- Groups of definitions
-- ---------------------------------------------------------------------------

/-- **Definitions that are apart have the groups of their trees**, in whatever state they are
generated in. -/
theorem Reachable.inGroups_apart (hg : Reachable s g) (hh : Reachable s h) {trees : List Planted}
    (hApart : Apart g.planSettings trees) (hKnown : ∀ tree ∈ trees, tree.1.1 ∈ g.definitions)
    (hFree : ∀ tree ∈ trees, ∀ n ∈ tree.2.names, n ∉ g.declared) :
    (g.inGroups (trees.map Prod.fst)).1 = trees.mapM h.treeBlocks := by
  induction trees generalizing g with
  | nil => rfl
  | cons tree rest ih =>
    have hTree : tree ∈ tree :: rest := List.mem_cons_self ..
    have hName : tree.1.1 ∈ g.planSettings.definitions := hKnown tree hTree
    have hOutlines : outlines (planDefinition g.planSettings g.declared tree.1.1 tree.1.2)
        = tree.outlines g.planSettings := hApart.outlines_eq hTree hName (hFree tree hTree)
    have hBlocks : (g.definition tree.1.1 tree.1.2).1 = h.treeBlocks tree := by
      rw [definition, hg.sound.perform_fst hg.sound, hOutlines, ← hg.sound.treeBlocks_eq hh.sound]
      rfl
    rw [List.map_cons, inGroups_cons, List.mapM_cons, hBlocks]
    cases hRun : h.treeBlocks tree with
    | error fault => rfl
    | ok blocks =>
      have hReach : Reachable s (g.definition tree.1.1 tree.1.2).2 := hg.perform _
      cases hNext : g.definition tree.1.1 tree.1.2 with
      | mk result next =>
        rw [hNext] at hReach hBlocks
        obtain rfl : result = .ok blocks := hBlocks.trans hRun
        -- what the definition has declared is not in the way of the others
        obtain ⟨hSettings, hDeclared⟩ := perform_frame hNext
        have hDefinitions : next.definitions = g.definitions :=
          congrArg PlanSettings.definitions hSettings
        have hRest : Apart next.planSettings rest := by
          rw [hSettings]
          exact hApart.select (List.sublist_cons_self tree rest).subperm rfl rfl fun _ hn => hn
        have hRestKnown : ∀ other ∈ rest, other.1.1 ∈ next.definitions := by
          intro other hOther
          rw [hDefinitions]
          exact hKnown other (List.mem_cons_of_mem _ hOther)
        have hRestFree : ∀ other ∈ rest, ∀ n ∈ other.2.names, n ∉ next.declared := by
          intro other hOther n hn
          rw [hDeclared n, declaredNames, hOutlines, not_or]
          exact ⟨hApart.not_declared hName hOther hn,
            hFree other (List.mem_cons_of_mem _ hOther) n hn⟩
        dsimp only [Except.bind]
        rw [ih hReach hRest hRestKnown hRestFree]
        show _ = (rest.mapM h.treeBlocks).bind _
        cases rest.mapM h.treeBlocks <;> rfl

-- ---------------------------------------------------------------------------
-- Parts of documents
-- ---------------------------------------------------------------------------

/-- The head depends on nothing of a document but its name. -/
theorem Sound.head_eq (hg : Sound s g) (hh : Sound s h) {document other : Document}
    (hId : other.id = document.id) :
    ((g.start other).prelude other).1 = ((h.start document).prelude document).1 := by
  have hLeft : Sound s (g.start other) := hg.after (.start other)
  have hRight : Sound s (h.start document) := hh.after (.start document)
  rw [prelude_fst, prelude_fst, hId, hLeft.settings_eq hRight,
    render_eq hLeft.store hRight.store]

/-- **The parts of a document whose definitions are apart**: its head, and the groups of their
trees. -/
theorem Reachable.parts_apart (hg : Reachable s g) (hh : Reachable s h) {document : Document}
    {trees : List Planted} (hTrees : trees.map Prod.fst = document.definitions)
    (hApart : Apart (g.planFor document) trees) :
    g.parts document = ((h.start document).prelude document).1.bind fun head =>
      (trees.mapM h.treeBlocks).map fun groups => (head, groups) := by
  have hReach : Reachable s ((g.start document).prelude document).2 :=
    (hg.step (.start document)).prelude document
  obtain ⟨store, hFrame⟩ := prelude_frame (g.start document) document
  have hGroups : (((g.start document).prelude document).2.inGroups document.definitions).1
      = trees.mapM h.treeBlocks := by
    rw [← hTrees]
    refine hReach.inGroups_apart hh ?_ ?_ ?_
    · rw [hFrame]
      exact hApart
    · intro tree hTree
      rw [hFrame]
      have hMem : tree.1 ∈ document.definitions := hTrees ▸ List.mem_map_of_mem hTree
      exact List.mem_map_of_mem hMem
    · intro tree hTree n hn hMem
      rw [hFrame] at hMem
      cases hMem
  rw [parts_eq, hGroups, hg.sound.head_eq hh.sound rfl]

/-- The group of a definition is that of its tree. -/
def Gives (g : Generator) (group : (String × Node) × List String) (tree : Planted) : Prop :=
  tree.1 = group.1 ∧ g.treeBlocks tree = .ok group.2

theorem definitions_of_gives {groups : List ((String × Node) × List String)} {trees : List Planted}
    (h : List.Forall₂ g.Gives groups trees) : trees.map Prod.fst = groups.map Prod.fst := by
  induction h with
  | nil => rfl
  | cons hFirst _ ih => rw [List.map_cons, List.map_cons, ih, hFirst.1]

theorem mapM_of_gives {groups : List ((String × Node) × List String)} {trees : List Planted}
    (h : List.Forall₂ g.Gives groups trees) :
    trees.mapM g.treeBlocks = .ok (groups.map Prod.snd) := by
  refine mapM_of_forall₂ ?_
  induction h with
  | nil => exact .nil
  | cons hFirst _ ih => exact .cons hFirst.2 ih

theorem gives_zip {trees : List Planted} {groups : List (List String)}
    (h : trees.mapM g.treeBlocks = .ok groups) :
    List.Forall₂ g.Gives ((trees.map Prod.fst).zip groups) trees := by
  have hEach := forall₂_of_mapM_ok h
  clear h
  induction hEach with
  | nil => exact .nil
  | cons hFirst _ ih => exact .cons ⟨rfl, hFirst⟩ ih

end Groups

-- ---------------------------------------------------------------------------
-- Independence
-- ---------------------------------------------------------------------------

/-- Every generator of some settings gives this head and these groups of blocks for a document,
and the text that is made of them. -/
def Emits (s : Settings) (document : Document) (head : List String) (groups : List (List String)) :
    Prop :=
  ∀ g, Reachable s g → g.parts document = .ok (head, groups) ∧
    (g.generate document).1 = .ok ("\n".intercalate (head ++ groups.flatten))

/-- **Some definitions of a document whose definitions are apart** have their groups in any
document of the same name, in any order. -/
theorem emits_select {s : Settings} {g : Generator} (hReach : Reachable s g)
    {document : Document} {trees : List Planted}
    (hTrees : trees.map Prod.fst = document.definitions) (hApart : Apart (g.planFor document) trees)
    {head : List String} (hHead : ((g.start document).prelude document).1 = .ok head)
    {selected : List Planted} (hSelected : selected.Subperm trees)
    {groups : List ((String × Node) × List String)} (hGives : List.Forall₂ g.Gives groups selected)
    {other : Document} (hId : other.id = document.id)
    (hOther : other.definitions = groups.map Prod.fst) :
    Emits s other head (groups.map Prod.snd) := by
  intro h hh
  have hDefinitions : selected.map Prod.fst = other.definitions :=
    (definitions_of_gives hGives).trans hOther.symm
  have hKnown : ∀ n ∈ (h.planFor other).definitions, n ∈ (g.planFor document).definitions := by
    intro n hn
    obtain ⟨p, hp, rfl⟩ := List.mem_map.mp hn
    rw [← hDefinitions] at hp
    obtain ⟨tree, hTree, rfl⟩ := List.mem_map.mp hp
    have hMem : tree.1 ∈ document.definitions :=
      hTrees ▸ List.mem_map_of_mem (hSelected.subset hTree)
    exact List.mem_map_of_mem hMem
  have hOtherApart : Apart (h.planFor other) selected := by
    refine hApart.select hSelected ?_ ?_ hKnown
    · show h.types = g.types
      exact hh.sound.types_eq hReach.sound
    · show h.settings.expandRecords.truthy = g.settings.expandRecords.truthy
      rw [hh.sound.settings_eq hReach.sound]
  have hParts : h.parts other = .ok (head, groups.map Prod.snd) := by
    rw [hh.parts_apart hReach hDefinitions hOtherApart, mapM_of_gives hGives,
      hReach.sound.head_eq hReach.sound hId, hHead]
    rfl
  refine ⟨hParts, ?_⟩
  rw [generate_parts, hParts]
  rfl

/-- **Where nothing is reported as declared already**, the definitions of a document that has a
text are apart, and have their groups. -/
theorem apart_of_clear {s : Settings} {g : Generator} (hReach : Reachable s g)
    {document : Document} {text : String} {g' : Generator}
    (h : g.generate document = (.ok text, g')) {found : List Diagnostic}
    (hFound : g'.diagnostics = g.diagnostics ++ found) (hClear : collisions found = []) :
    ∃ trees head groups, trees.map Prod.fst = document.definitions ∧
      Apart (g.planFor document) trees ∧ ((g.start document).prelude document).1 = .ok head ∧
      trees.mapM g.treeBlocks = .ok groups := by
  obtain ⟨forest, left, hGrows, hLays⟩ :=
    planDocument_grows (g.planFor document) [] document.definitions
  -- what is reported names what was left out, which is nothing
  have hLeft : left = [] := by
    have hReports : found = reports (g.documentPlan document) :=
      List.append_cancel_left (hFound.symm.trans (generate_written hReach h).2)
    calc left = collisions (reports (g.documentPlan document)) := hLays.2.symm
      _ = collisions found := by rw [hReports]
      _ = [] := hClear
  obtain ⟨trees, hTrees, hApart, -⟩ := hGrows.apart hLeft
  have hText : (g.generate document).1 = .ok text := by rw [h]
  rw [generate_parts, hReach.parts_apart hReach hTrees hApart] at hText
  cases hHead : ((g.start document).prelude document).1 with
  | error fault =>
    rw [hHead] at hText
    cases hText
  | ok head =>
    cases hGroups : trees.mapM g.treeBlocks with
    | error fault =>
      rw [hHead, hGroups] at hText
      cases hText
    | ok groups => exact ⟨trees, head, groups, hTrees, hApart, rfl, hGroups⟩

/--
**Definitions are generated independently**: where the generation of a document reports no name as
declared already, the text is a head and a group of blocks for each definition. A document of the
same name that holds one of the definitions has the same head and the same group; and one that
holds all of them in another order has the same groups in that order. This holds of every
generator of the same settings, in whatever state it is.
-/
theorem generate_independent {s : Settings} {g : Generator} (hReach : Reachable s g)
    {document : Document} {text : String} {g' : Generator}
    (h : g.generate document = (.ok text, g')) {found : List Diagnostic}
    (hFound : g'.diagnostics = g.diagnostics ++ found) (hClear : collisions found = []) :
    ∃ head groups, Emits s document head groups ∧
      document.definitions.length = groups.length ∧
      (∀ definition blocks, (definition, blocks) ∈ document.definitions.zip groups →
        ∀ other : Document, other.id = document.id → other.definitions = [definition] →
          Emits s other head [blocks]) ∧
      (∀ moved : List ((String × Node) × List String),
        moved.Perm (document.definitions.zip groups) →
        ∀ other : Document, other.id = document.id → other.definitions = moved.map Prod.fst →
          Emits s other head (moved.map Prod.snd)) := by
  obtain ⟨trees, head, groups, hTrees, hApart, hHead, hGroups⟩ :=
    apart_of_clear hReach h hFound hClear
  have hGives := gives_zip hGroups
  rw [hTrees] at hGives
  have hLength : document.definitions.length = groups.length := by
    rw [← hTrees, List.length_map]
    exact (forall₂_of_mapM_ok hGroups).length_eq
  have hFst : document.definitions = (document.definitions.zip groups).map Prod.fst :=
    (List.map_fst_zip (Nat.le_of_eq hLength)).symm
  have hSnd : (document.definitions.zip groups).map Prod.snd = groups :=
    List.map_snd_zip (Nat.le_of_eq hLength.symm)
  refine ⟨head, groups, ?_, hLength, ?_, ?_⟩
  · have hAll := emits_select hReach hTrees hApart hHead (List.Subperm.refl _) hGives rfl hFst
    rwa [hSnd] at hAll
  · intro definition blocks hMem other hId hOther
    obtain ⟨i, hi, hEntry⟩ := List.mem_iff_getElem.mp hMem
    have hi' : i < trees.length := hGives.length_eq ▸ hi
    have hGiven : g.Gives (definition, blocks) trees[i] := hEntry ▸ hGives.get hi hi'
    have hTree : [trees[i]].Subperm trees :=
      List.singleton_subperm_iff.mpr (List.getElem_mem hi')
    exact emits_select hReach hTrees hApart hHead hTree (.cons hGiven .nil) hId hOther
  · intro moved hMoved other hId hOther
    obtain ⟨selected, hSelected, hPerm⟩ := List.perm_comp_forall₂ hMoved hGives
    exact emits_select hReach hTrees hApart hHead hPerm.subperm hSelected hId hOther

theorem generate_independent_family :
    ∃ head first second, Emits {} family head [first, second] ∧
      Emits {} { family with definitions := family.definitions.drop 1 } head [second] ∧
      Emits {} { family with definitions := family.definitions.reverse } head [second, first] := by
  have hOk : ((plain.generate family).1.map fun _ => true).toOption = some true := by
    decide +kernel
  obtain ⟨text, g', hRun, -⟩ := exists_of_passes hOk
  have hReach : Reachable {} plain := .built build_plain
  have hClear : collisions (reports (plain.documentPlan family)) = [] := by decide +kernel
  obtain ⟨head, groups, hAll, hLength, hEach, hMoved⟩ :=
    generate_independent hReach hRun (generate_written hReach hRun).2 hClear
  obtain ⟨first, second, rfl⟩ := List.length_eq_two.mp hLength.symm
  refine ⟨head, first, second, hAll, ?_, ?_⟩
  · exact hEach _ second (List.mem_cons_of_mem _ (List.mem_singleton_self _)) _ rfl rfl
  · exact hMoved _ (List.reverse_perm (family.definitions.zip [first, second])) _ rfl rfl

end Lexicon.Generator
