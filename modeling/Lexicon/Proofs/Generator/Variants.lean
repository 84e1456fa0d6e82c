import Lexicon.Proofs.Generator.Fields
import Lexicon.Proofs.Generator.Success
import Lexicon.Proofs.Target.Variants
import Lexicon.Proofs.Template.Variants

/-!
# Lexicon — the variants of an enum

A union is declared as an enum. Between its braces stand the variants and nothing else, and each of
them can be read back as it is written: its identifier, and on the wire the name that the members of
the union end in.

* `VariantEntry`        — a variant as it is read back, with `wireName`.
* `definition_variants` — in every state of a generator a union makes one variant for each name that
                          its members end in, at its first place, and one finding for each member
                          that repeats a name.
-/

namespace Lexicon.Generator

open Schema Target

-- ---------------------------------------------------------------------------
-- Variants read back
-- ---------------------------------------------------------------------------

/-- A variant as it is read back: its identifier as it is written, and its attribute lines. -/
structure VariantEntry where
  declared : String
  attributes : List String

namespace VariantEntry

/-- The variant as it stands in the enum. -/
def text (indent : String) (entry : VariantEntry) : String :=
  Template.variantText indent entry.declared entry.attributes

/-- The name of the variant on the wire: what its attribute says, or else its identifier without
the escape. -/
def wireName (entry : VariantEntry) : String :=
  (entry.attributes.findSome? (readAttribute "rename")).getD (withoutEscape entry.declared)

/-- The variant that is written for an identifier. -/
def written (identifier : Naming.Identifier) : VariantEntry :=
  { declared := identifier.declared, attributes := renameAttributes identifier }

theorem written_wireName {identifier : Naming.Identifier} (hWord : IsWord identifier.name)
    (hDeclared : identifier.declared = Target.written identifier.name) :
    (written identifier).wireName = identifier.wireName := by
  have hRead := @readBack_wireName identifier [] hWord hDeclared rfl
  rwa [List.append_nil] at hRead

end VariantEntry

/-- The variants that are written for some names, in a scope of their own. -/
def variantEntries (g : Generator) (variants : List String) : List VariantEntry :=
  (g.scope.clear.identifyAll .original variants).1.map VariantEntry.written

/-- **Each name has its variant**, in order: the wire names are the names, and the identifiers are
usable and all different. -/
theorem variantEntries_spec {s : Settings} {g : Generator} (hSound : Sound s g)
    (variants : List String) :
    (g.variantEntries variants).map VariantEntry.wireName = variants ∧
      (∀ entry ∈ g.variantEntries variants, Usable entry.declared) ∧
      ((g.variantEntries variants).map VariantEntry.declared).Nodup := by
  have hClear : g.scope.clear.Faithful := hSound.faithful
  obtain ⟨hHandsOut, -⟩ := Naming.identifyAll_handsOut hClear .original variants
  rw [show g.scope.clear.policy = policy from hSound.policy] at hHandsOut
  have hUsable := handsOut_usable hHandsOut
  refine ⟨?_, ?_, ?_⟩
  · refine Eq.trans ?_ hHandsOut.wireNames_eq
    rw [variantEntries, List.map_map]
    refine List.map_congr_left fun identifier hMem => ?_
    obtain ⟨hWord, -, hDeclared⟩ := hUsable identifier hMem
    exact VariantEntry.written_wireName hWord hDeclared
  · intro entry hEntry
    obtain ⟨identifier, hMem, rfl⟩ := List.mem_map.mp hEntry
    obtain ⟨hWord, hFree, hDeclared⟩ := hUsable identifier hMem
    exact ⟨identifier.name, hWord, hFree, hDeclared⟩
  · rw [variantEntries, List.map_map]
    exact handsOut_declared_nodup hHandsOut

-- ---------------------------------------------------------------------------
-- The definition of a union
-- ---------------------------------------------------------------------------

/-- The text of an enum is that of its variants between its braces. -/
theorem declare_enum_text {s : Settings} {g : Generator} (hSound : Sound s g) {name block : String}
    {description : Option String} {variants : List String}
    (h : (g.declare (.enum name description variants)).1 = .ok block) :
    ∃ lead indent, Template.WholeLines lead ∧
      block = lead ++ ("pub enum " ++ name ++ " \x7b\n" ++
        String.join ((g.variantEntries variants).map (VariantEntry.text indent)) ++ "\x7d\n") := by
  have hStore := hSound.store
  rw [declare_enum] at h
  dsimp only at h
  split at h
  · cases h
  · rename_i indent hIndent
    have hVariants : (g.enumContext name description variants indent).lookup "variants" =
        some (.list (((g.variantEntries variants).map fun entry =>
          (entry.declared, entry.attributes)).map fun variant =>
            Template.variantMapping variant.1 variant.2)) := by
      rw [variantEntries, List.map_map, List.map_map]
      rfl
    obtain ⟨lead, hLead, hBlock⟩ := Template.enumTemplate_variants rfl rfl hVariants
      (renderAll_of_render h hStore hStore.file?_enum)
    rw [List.map_map] at hBlock
    exact ⟨lead, indent, hLead, hBlock⟩

/-- The reports on the members of a union that have the name of one before them. -/
def repetitionReports (name : String) (references : List String) : List Diagnostic :=
  (repetitions references).map fun reference => ⟨name, repetitionFinding reference⟩

/-- The generator that has reported some findings. -/
def reporting (g : Generator) (found : List Diagnostic) : Generator :=
  { g with diagnostics := g.diagnostics ++ found }

theorem Sound.reporting {s : Settings} {g : Generator} (h : Sound s g) (found : List Diagnostic) :
    Sound s (g.reporting found) :=
  ⟨h.settings, h.style, h.types, h.policy, h.faithful, h.store⟩

/-- Findings are reported before the rest of a plan is carried out. -/
theorem perform_reports (g : Generator) (found : List Diagnostic) (rest : List Step) :
    g.perform (found.map .report ++ rest) = (g.reporting found).perform rest := by
  induction found generalizing g with
  | nil => rw [List.map_nil, List.nil_append, reporting, List.append_nil]
  | cons first others ih =>
    rw [List.map_cons, List.cons_append, Generator.perform, ih, Generator.report, reporting,
      reporting, List.append_assoc, List.singleton_append]

/-- A plan of one declaration writes one block. -/
theorem perform_single (g : Generator) (outline : Outline) :
    g.perform [.declare outline] =
      ((fun block => [block]) <$> (g.declare outline).1, (g.declare outline).2) := by
  rw [Generator.perform]
  split
  · rename_i hBlock
    rw [hBlock]
    rfl
  · rename_i hBlock
    rw [hBlock]
    rfl

/-- A union is defined by its reports and the enum of its variants. -/
theorem definition_union (g : Generator) (name : String) (description : Option String)
    (references : List String) (closed : Option Bool) :
    g.definition name (.leaf description (.union references closed)) =
      (g.reporting (repetitionReports name references)).perform
        [.declare (.enum name description (variantNames [] references))] := by
  rw [Generator.definition, planDefinition, variantFindings_eq, ← perform_reports,
    repetitionReports, List.map_map, List.map_map]
  rfl

/-- **The variants of a union.** Whatever a generator was used for before, the definition of a union
is one enum. Its variants have, on the wire and in their order, the names that the members of the
union end in, each at its first place; their identifiers are usable, and no two are the same. What is
reported is that a member has the name of one before it, once for each such member, so that the
reports and the variants are as many as the members. Under settings without warnings the enum is
written. -/
theorem definition_variants {s : Settings} {g : Generator} (hReach : Reachable s g) (name : String)
    (description : Option String) (references : List String) (closed : Option Bool) :
    let run := g.definition name (.leaf description (.union references closed))
    ∃ entries : List VariantEntry,
      entries.map VariantEntry.wireName = (references.map Naming.tail).eraseDups ∧
      (∀ entry ∈ entries, Usable entry.declared) ∧
      (entries.map VariantEntry.declared).Nodup ∧
      run.2.diagnostics = g.diagnostics ++ repetitionReports name references ∧
      (repetitionReports name references).length + entries.length = references.length ∧
      (∀ blocks, run.1 = .ok blocks → ∃ lead indent, Template.WholeLines lead ∧
        blocks = [lead ++ ("pub enum " ++ name ++ " \x7b\n" ++
          String.join (entries.map (VariantEntry.text indent)) ++ "\x7d\n")]) ∧
      (s.warnings = .ok [] → ∃ blocks, run.1 = .ok blocks) := by
  intro run
  have hSound := hReach.sound.reporting (repetitionReports name references)
  have hRun : run = _ := definition_union g name description references closed
  obtain ⟨hWire, hUsable, hNodup⟩ := variantEntries_spec hSound (variantNames [] references)
  refine ⟨_, ?_, hUsable, hNodup, ?_, ?_, ?_, ?_⟩
  · rw [hWire, variantNames_eq]
    simp
  · obtain ⟨scope, store, hFrame⟩ := declare_frame (g.reporting (repetitionReports name references))
      (.enum name description (variantNames [] references))
    rw [hRun, perform_single, hFrame]
    rfl
  · have hEach := congrArg List.length hWire
    rw [List.length_map] at hEach
    rw [hEach, ← length_variants_add [] references, variantFindings_eq, repetitionReports,
      List.length_map, List.length_map]
  · intro blocks hBlocks
    rw [hRun, perform_single] at hBlocks
    obtain ⟨block, hBlock, rfl⟩ := exists_of_map_ok hBlocks
    obtain ⟨lead, indent, hLead, rfl⟩ := declare_enum_text hSound hBlock
    exact ⟨lead, indent, hLead, rfl⟩
  · intro hWarnings
    rw [hRun]
    exact perform_ok (Settings.clear_of_warnings hWarnings) hSound _

/-- The members of a union that end in the same names or in names that fall together when they are
cleaned, in reserved words, and in no name at all. -/
def kindred : List String :=
  ["#a-b", "a.b#a.b", "com.other#a-b", "#type", "#self", "x#self_", "#", "com.example.defs", "#type",
   "#say \"hi\"\\"]

theorem definition_variants_kindred :
    Reachable {} experienced ∧
    let run := experienced.definition "U" (.leaf none (.union kindred none))
    ∃ entries : List VariantEntry,
      entries.map VariantEntry.wireName = (kindred.map Naming.tail).eraseDups ∧
      (∀ entry ∈ entries, Usable entry.declared) ∧
      (entries.map VariantEntry.declared).Nodup ∧
      run.2.diagnostics = experienced.diagnostics ++ repetitionReports "U" kindred ∧
      (repetitionReports "U" kindred).length + entries.length = kindred.length ∧
      (∀ blocks, run.1 = .ok blocks → ∃ lead indent, Template.WholeLines lead ∧
        blocks = [lead ++ ("pub enum " ++ "U" ++ " \x7b\n" ++
          String.join (entries.map (VariantEntry.text indent)) ++ "\x7d\n")]) ∧
      ∃ blocks, run.1 = .ok blocks := by
  have hReach : Reachable {} experienced := (Reachable.built build_plain).step _
  obtain ⟨entries, hWire, hUsable, hNodup, hReports, hCount, hText, hOk⟩ :=
    definition_variants hReach "U" none kindred none
  exact ⟨hReach, entries, hWire, hUsable, hNodup, hReports, hCount, hText, hOk rfl⟩

/-- Two of these members repeat a name. -/
example : repetitions kindred = ["com.other#a-b", "#type"] := by decide

end Lexicon.Generator
