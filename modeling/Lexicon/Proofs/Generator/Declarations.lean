import Lexicon.Proofs.Generator.Blocks
import Lexicon.Proofs.Schema.Keys
import Lexicon.Proofs.Target.Clash

/-!
# Lexicon — the declarations of a generated text

What stands in the text for a document, whatever was generated before.

* `generate_depth_first` — a text holds one block for each definition, in their order, and
                           below each struct the structs of the objects described in it. No
                           name is declared twice.
* `exists_checkedBelow`  — what the check reports lies below the definition that it names.
* `process_forest`        — a processed document is written as a forest, and what is reported
                           names what was left out of it.
* `process_nested_declared` — without a finding about a name, every object described in place
                           has one struct of its name, made from an equal object.
* `process_declared_iff`  — with such a finding, the name is declared unless it belongs to a
                           definition that has no declaration of its own.
-/

namespace Lexicon.Generator

open Schema Target

-- ---------------------------------------------------------------------------
-- The forest of a text
-- ---------------------------------------------------------------------------

/-- What the plan of a document depends on. -/
def planFor (g : Generator) (document : Document) : PlanSettings :=
  (g.start document).planSettings

theorem mem_planFor_definitions (g : Generator) (document : Document) (n : String) :
    n ∈ (g.planFor document).definitions ↔ n ∈ document.definitions.map Prod.fst := Iff.rfl

/-- **Depth first.** A generated text holds a block for each struct, enum and placeholder of a
forest, in preorder. The roots are the declarations of the definitions, in their order; below
a struct stand the structs of the objects that its fields introduce. No name is declared
twice. -/
theorem generate_depth_first {s : Settings} {g : Generator} (hReach : Reachable s g)
    {document : Document} (hNames : document.names.Nodup) {text : String} {g' : Generator}
    (h : g.generate document = (.ok text, g')) :
    ∃ forest left, Written s document forest.preorder text ∧ forest.names.Nodup ∧
      forest.roots = document.definitions.map
        (fun (name, node) => ownOutline (g.planFor document) name node) ∧
      DocumentGrows (g.planFor document) [] document.definitions forest left := by
  obtain ⟨hWritten, -⟩ := generate_written hReach h
  obtain ⟨forest, left, hGrows, hLays⟩ :=
    planDocument_grows (g.planFor document) [] document.definitions
  have hOutlines : outlines (g.documentPlan document) = forest.preorder := hLays.1
  rw [hOutlines] at hWritten
  refine ⟨forest, left, hWritten, ?_, hGrows.roots_eq, hGrows⟩
  exact hGrows.names_nodup hNames fun n hn => (mem_planFor_definitions g document n).mpr hn

/-- A document with an object in an object, a second object after it, and a definition after
these. -/
def family : Document :=
  { lexicon := 1, id := "a.b", revision := none, description := none
    definitions :=
      [("Profile", .object (.mk none
        [("a", .object (.mk none [("inner", .object (.mk none [] [] []))] [] [])),
         ("b", .object (.mk none [] [] []))] [] [])),
       ("Next", .object (.mk none [] [] []))] }

theorem generate_depth_first_family : family.names.Nodup ∧ ∃ text g',
    plain.generate family = (.ok text, g') ∧
    ∃ forest left, Written {} family forest.preorder text ∧ forest.names.Nodup ∧
      forest.roots = family.definitions.map
        (fun (name, node) => ownOutline (plain.planFor family) name node) ∧
      DocumentGrows (plain.planFor family) [] family.definitions forest left := by
  have hNames : family.names.Nodup := by decide
  have hOk : ((plain.generate family).1.map fun _ => true).toOption = some true := by
    decide +kernel
  obtain ⟨text, g', hRun, -⟩ := exists_of_passes hOk
  exact ⟨hNames, text, g', hRun, generate_depth_first (.built build_plain) hNames hRun⟩

-- ---------------------------------------------------------------------------
-- The forest of a processed document
-- ---------------------------------------------------------------------------

/-- What the check finds about a node at a path. -/
theorem mem_nodeFindings {index : Option Naming.ReferenceIndex} {document path : String}
    {node : Node} {finding : Finding} (h : finding ∈ nodeFindings index document path node) :
    (∃ name, finding = .notAProperty name path) ∨ finding = .emptyUnion path ∨
      (∃ reference, finding = .unresolvedMember reference path) ∨
        ∃ reference, finding = .unresolvedReference reference path := by
  unfold nodeFindings at h
  split at h
  · obtain ⟨name, -, rfl⟩ := List.mem_map.mp h
    exact .inl ⟨name, rfl⟩
  · obtain ⟨name, -, rfl⟩ := List.mem_map.mp h
    exact .inl ⟨name, rfl⟩
  · rcases List.mem_append.mp h with hEmpty | hMembers
    · split at hEmpty
      · exact .inr (.inl (List.mem_singleton.mp hEmpty))
      · cases hEmpty
    · split at hMembers
      · cases hMembers
      · obtain ⟨reference, -, rfl⟩ := List.mem_map.mp hMembers
        exact .inr (.inr (.inl ⟨reference, rfl⟩))
  · rename_i target
    split at h
    · cases h
    · split at h
      · exact .inr (.inr (.inr ⟨target, List.mem_singleton.mp h⟩))
      · cases h
  · cases h

/-- The findings of the check that lie below a definition: those about the nodes of its tree, each
at the place of its node, and that its name cannot be a type's name. -/
inductive CheckedBelow (index : Option Naming.ReferenceIndex) (document name : String)
    (node : Node) : Finding → Prop
  | inside {finding : Finding} {path : Path} {inner : Node} (hInner : (path, inner) ∈ node.walk "")
      (hFinding : finding ∈ nodeFindings index document
        (if path = "" then name else name ++ "." ++ path) inner) :
      CheckedBelow index document name node finding
  | named : CheckedBelow index document name node (.badName name)

/-- Whatever the check reports lies below the definition that it names. -/
theorem exists_checkedBelow {index : Option Naming.ReferenceIndex} {document : Document}
    {d : Diagnostic} (hd : d ∈ documentDiagnostics index document) :
    ∃ node, (d.definition, node) ∈ document.definitions ∧
      CheckedBelow index document.id d.definition node d.finding := by
  rw [documentDiagnostics, List.mem_append, List.mem_flatMap] at hd
  rcases hd with ⟨⟨name, node⟩, hp, hDefinition⟩ | hName
  · obtain ⟨place, hPlace, hFound⟩ := List.mem_flatMap.mp hDefinition
    obtain ⟨finding, hFinding, rfl⟩ := List.mem_map.mp hFound
    exact ⟨node, hp, .inside hPlace hFinding⟩
  · obtain ⟨name, hMem, rfl⟩ := List.mem_map.mp hName
    obtain ⟨⟨_, node⟩, hp, rfl⟩ := List.mem_map.mp (List.mem_of_mem_filter hMem)
    exact ⟨node, hp, .named⟩

/-- The check of a document says nothing about names that are declared already. -/
theorem documentDiagnostics_collisions (index : Option Naming.ReferenceIndex)
    (document : Document) : collisions (documentDiagnostics index document) = [] := by
  rw [collisions, List.filterMap_eq_nil_iff]
  rintro ⟨name, finding⟩ hd
  obtain ⟨node, -, hChecked⟩ := exists_checkedBelow hd
  change CheckedBelow index document.id name node finding at hChecked
  cases hChecked with
  | inside _ hFinding =>
    rcases mem_nodeFindings hFinding with ⟨_, rfl⟩ | rfl | ⟨_, rfl⟩ | ⟨_, rfl⟩ <;> rfl
  | named => rfl

/-- A processed document is written as a forest. What is reported names exactly what was left
out of it, and says all there is to say about the fields of its structs. -/
theorem process_forest {s : Settings} {g : Generator} (hReach : Reachable s g)
    {payload : Payload} (hPayload : payload.Keyed) {index : Option Naming.ReferenceIndex}
    {result : Generated} {g' : Generator} (h : g.process payload index = (.ok result, g')) :
    ∃ document text forest, Document.decode payload = .ok document ∧ document.Keyed ∧
      Written s document forest.preorder text ∧ result.code = layout text ∧
      DocumentGrows (g.planFor document) [] document.definitions forest
        (collisions result.diagnostics) ∧
      ∀ owner description schema, .struct owner description schema ∈ forest.preorder →
        ∀ finding ∈ fieldFindings owner [] (fieldOutlines g.types owner schema),
          ∃ definition, ⟨definition, finding⟩ ∈ result.diagnostics := by
  obtain ⟨document, text, hDecode, hWritten, hCode, hDiagnostics⟩ := process_written hReach h
  obtain ⟨forest, left, hGrows, hOutlines, hLeft⟩ :=
    planDocument_grows (g.planFor document) [] document.definitions
  -- the check finds no collisions, so those reported are those of the plan
  have hCollisions : collisions result.diagnostics = left := by
    rw [hDiagnostics, collisions, List.filterMap_append, ← collisions, ← collisions,
      documentDiagnostics_collisions, List.nil_append]
    exact hLeft
  refine ⟨document, text, forest, hDecode, Document.decode_keyed hPayload hDecode, ?_, hCode,
    hCollisions ▸ hGrows, ?_⟩
  · rw [← hOutlines]
    exact hWritten
  · intro owner description schema hStruct finding hFinding
    rw [← hOutlines] at hStruct
    obtain ⟨definition, hReport⟩ := planDocument_explains (g.planFor document) []
      document.definitions owner description schema hStruct finding hFinding
    refine ⟨definition, ?_⟩
    rw [hDiagnostics]
    exact List.mem_append_right _ hReport

-- ---------------------------------------------------------------------------
-- One struct for each object
-- ---------------------------------------------------------------------------

/-- Does no finding say that a name of an object described in place is declared already, or
used by a different object? -/
def ClearOfNames (diagnostics : List Diagnostic) : Prop :=
  ∀ d ∈ diagnostics, (∀ name, d.finding ≠ .alreadyDeclared name) ∧
    ∀ place name, d.finding ≠ .usedByOther place name

theorem collisions_eq_nil {diagnostics : List Diagnostic} (h : ClearOfNames diagnostics) :
    collisions diagnostics = [] := by
  rw [collisions, List.filterMap_eq_nil_iff]
  intro d hd
  rw [collision?]
  split
  · rename_i name hFinding
    exact absurd hFinding ((h d hd).1 name)
  · rfl

/-- **One struct for each object.** If nothing is found about names, then every object that a
field of a declared struct describes, in whatever depth, has exactly one declaration of its
name, and this is a struct made from an equal object. -/
theorem process_nested_declared {s : Settings} {g : Generator} (hReach : Reachable s g)
    {payload : Payload} (hPayload : payload.Keyed) {index : Option Naming.ReferenceIndex}
    {result : Generated} {g' : Generator} (h : g.process payload index = (.ok result, g'))
    (hClear : ClearOfNames result.diagnostics) :
    ∃ document text declarations, Document.decode payload = .ok document ∧
      Written s document declarations text ∧ result.code = layout text ∧
      ∀ owner description schema, .struct owner description schema ∈ declarations →
        ∀ field ∈ fieldOutlines g.types owner schema, ∀ o ∈ field.type.nested,
          ∃ description' schema',
            declarations.filter (fun other => other.declared? = some o.name) =
              [.struct o.name description' schema'] ∧
            schema'.same o.schema = true := by
  obtain ⟨document, text, forest, hDecode, hKeyed, hWritten, hCode, hGrows, hExplained⟩ :=
    process_forest hReach hPayload h
  -- no collision is reported, so nothing was left out
  rw [collisions_eq_nil hClear] at hGrows
  have hNodup : forest.names.Nodup := hGrows.names_nodup hKeyed.names
    fun n hn => (mem_planFor_definitions g document n).mpr hn
  refine ⟨document, text, forest.preorder, hDecode, hWritten, hCode, ?_⟩
  intro owner description schema hStruct field hField o ho
  have hSchema : schema.Keyed := hGrows.forall_struct (P := ObjectSchema.Keyed)
    (fun _ _ hKeyed _ ho => introduced_keyed hKeyed ho)
    (fun p hp _ _ _ hOwn => ownOutline_keyed (hKeyed.nodes p hp) hOwn)
    owner description schema hStruct
  -- a clash would have been reported
  have hUnclashed : ∀ place name, Finding.usedByOther place name ∉
      fieldFindings owner [] (fieldOutlines g.types owner schema) := by
    intro place name hFinding
    obtain ⟨definition, hReport⟩ := hExplained owner description schema hStruct _ hFinding
    exact (hClear _ hReport).2 place name rfl
  obtain ⟨f, hf, hName, hSame⟩ := fieldFindings_standsFor hUnclashed field hField o ho
  have hPlaced : f.outline ∈ forest.preorder := by
    have hOrLeft := hGrows.placed (.struct owner description schema) hStruct f hf
    exact hOrLeft.resolve_right List.not_mem_nil
  refine ⟨f.schema.description, f.schema, ?_, ?_⟩
  · rw [Forest.filter_declared hNodup hPlaced (congrArg some hName), NestedObject.outline, hName]
  · rcases hSame with rfl | hSame
    · exact ObjectSchema.same_refl (nested_keyed hSchema hField ho)
    · exact hSame

/-- A document with three equal objects in one struct, two of them under one name and one as
a list item. -/
def twins : Document :=
  let side : Node := .object (.mk none [("x", .leaf none .cidLink)] [] [])
  { lexicon := 1, id := "a.b", revision := none, description := none
    definitions :=
      [("P", .object (.mk none
        [("a-b", side), ("a.b", side), ("tags", .array none side ⟨none, none⟩)] [] []))] }

theorem twins_keyed : Payload.Keyed (.document twins) := by
  have hSide : (Node.object (.mk none [("x", .leaf none .cidLink)] [] [])).Keyed := by
    refine .object (.mk (by decide) fun p hp => ?_)
    rw [List.mem_singleton.mp hp]
    exact .leaf
  refine ⟨by decide, fun p hp => ?_⟩
  rw [List.mem_singleton.mp hp]
  refine .object (.mk (by decide) fun q hq => ?_)
  simp only [List.mem_cons, List.not_mem_nil, or_false] at hq
  rcases hq with rfl | rfl | rfl
  · exact hSide
  · exact hSide
  · exact .array hSide

theorem process_nested_declared_twins : Payload.Keyed (.document twins) ∧ ∃ result g',
    plain.process (.document twins) none = (.ok result, g') ∧ ClearOfNames result.diagnostics ∧
    ∃ document text declarations, Document.decode (.document twins) = .ok document ∧
      Written {} document declarations text ∧ result.code = layout text ∧
      ∀ owner description schema, .struct owner description schema ∈ declarations →
        ∀ field ∈ fieldOutlines plain.types owner schema, ∀ o ∈ field.type.nested,
          ∃ description' schema',
            declarations.filter (fun other => other.declared? = some o.name) =
              [.struct o.name description' schema'] ∧
            schema'.same o.schema = true := by
  have hOk : ((plain.process (.document twins) none).1.map fun result =>
      result.diagnostics.isEmpty).toOption = some true := by decide +kernel
  obtain ⟨result, g', hRun, hEmpty⟩ := exists_of_passes hOk
  have hClear : ClearOfNames result.diagnostics := by
    rw [List.isEmpty_iff.mp hEmpty]
    intro d hd
    cases hd
  exact ⟨twins_keyed, result, g', hRun, hClear,
    process_nested_declared (.built build_plain) twins_keyed hRun hClear⟩

-- ---------------------------------------------------------------------------
-- Names that are left out
-- ---------------------------------------------------------------------------

/-- A name of an object described in place: a finding calls it declared already, or a field
of a declared struct has its type. -/
def NamesObject (types : TypeSettings) (declarations : List Outline)
    (diagnostics : List Diagnostic) (name : String) : Prop :=
  name ∈ collisions diagnostics ∨
    ∃ owner description schema, .struct owner description schema ∈ declarations ∧
      ∃ field ∈ fieldOutlines types owner schema, ∃ o ∈ field.type.nested, o.name = name

/-- **Declared or not.** A name that is reported as declared already, and likewise any name
that a field has as its type, is declared in the text unless a definition of the name has no
declaration of its own. -/
theorem process_declared_iff {s : Settings} {g : Generator} (hReach : Reachable s g)
    {payload : Payload} (hPayload : payload.Keyed) {index : Option Naming.ReferenceIndex}
    {result : Generated} {g' : Generator} (h : g.process payload index = (.ok result, g')) :
    ∃ document text declarations, Document.decode payload = .ok document ∧
      Written s document declarations text ∧ result.code = layout text ∧
      ∀ name, NamesObject g.types declarations result.diagnostics name →
        (name ∈ declarations.filterMap Outline.declared? ↔
          ∀ node, (name, node) ∈ document.definitions →
            (ownOutline (g.planFor document) name node).declared? = some name) := by
  obtain ⟨document, text, forest, hDecode, hKeyed, hWritten, hCode, hGrows, -⟩ :=
    process_forest hReach hPayload h
  refine ⟨document, text, forest.preorder, hDecode, hWritten, hCode, ?_⟩
  intro name hName
  refine hGrows.declared_iff hKeyed.names (mem_planFor_definitions g document) ?_
  rcases hName with hReported | ⟨owner, description, schema, hStruct, field, hField, o, ho, rfl⟩
  · exact Or.inr hReported
  · -- the object, or one of its name, is declared or left out
    have hMem : o ∈ (fieldOutlines g.types owner schema).flatMap fun field => field.type.nested :=
      List.mem_flatMap.mpr ⟨field, hField, ho⟩
    obtain ⟨f, hf, hSame⟩ : ∃ f ∈ introduced g.types owner schema, f.name = o.name :=
      exists_name_distinctNested hMem
    rw [← hSame]
    exact (hGrows.placed (.struct owner description schema) hStruct f hf).imp_left
      fun hPlaced => Forest.mem_names hPlaced rfl

/-- A document in which an object is given the name of a definition that leaves a comment. -/
def shadowed : Document :=
  { lexicon := 1, id := "a.b", revision := none, description := none
    definitions :=
      [("Profile", .object (.mk none [("address", .object (.mk none [] [] []))] [] [])),
       ("ProfileAddress", .leaf none .token)] }

theorem shadowed_keyed : Payload.Keyed (.document shadowed) := by
  refine ⟨by decide, fun p hp => ?_⟩
  rcases List.mem_cons.mp hp with rfl | hLast
  · refine .object (.mk (by decide) fun q hq => ?_)
    rw [List.mem_singleton.mp hq]
    refine .object (.mk List.nodup_nil fun r hr => ?_)
    cases hr
  · rw [List.mem_singleton.mp hLast]
    exact .leaf

theorem process_declared_iff_shadowed : Payload.Keyed (.document shadowed) ∧ ∃ result g',
    plain.process (.document shadowed) none = (.ok result, g') ∧
    ∃ document text declarations, Document.decode (.document shadowed) = .ok document ∧
      Written {} document declarations text ∧ result.code = layout text ∧
      ∀ name, NamesObject plain.types declarations result.diagnostics name →
        (name ∈ declarations.filterMap Outline.declared? ↔
          ∀ node, (name, node) ∈ document.definitions →
            (ownOutline (plain.planFor document) name node).declared? = some name) := by
  have hOk : ((plain.process (.document shadowed) none).1.map fun _ => true).toOption =
      some true := by decide +kernel
  obtain ⟨result, g', hRun, -⟩ := exists_of_passes hOk
  exact ⟨shadowed_keyed, result, g', hRun,
    process_declared_iff (.built build_plain) shadowed_keyed hRun⟩

/-- **A name that nothing declares.** The name of the field's type is reported as declared
already, and the whole text shows that it is not. -/
theorem reported_but_not_declared : ∃ result g',
    plain.process (.document shadowed) none = (.ok result, g') ∧
    collisions result.diagnostics = ["ProfileAddress"] ∧
    result.code =
      "#[derive(Debug, Clone, Serialize, Deserialize)]\n" ++
      "pub struct Profile \x7b\n    pub address: Option<ProfileAddress>,\n\x7d\n\n" ++
      "/* ProfileAddress: token - not generated */\n" := by
  have hOk : ((plain.process (.document shadowed) none).1.map fun result => decide (
      collisions result.diagnostics = ["ProfileAddress"] ∧
      result.code =
        "#[derive(Debug, Clone, Serialize, Deserialize)]\n" ++
        "pub struct Profile \x7b\n    pub address: Option<ProfileAddress>,\n\x7d\n\n" ++
        "/* ProfileAddress: token - not generated */\n")).toOption = some true := by
    decide +kernel
  obtain ⟨result, g', hRun, hPasses⟩ := exists_of_passes hOk
  exact ⟨result, g', hRun, of_decide_eq_true hPasses⟩

end Lexicon.Generator
