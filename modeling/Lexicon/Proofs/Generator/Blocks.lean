import Lexicon.Proofs.Generator.Reachable

/-!
# Lexicon — the blocks of a text

The text for a document is made of blocks, one for each declaration of its plan and in that
order, with a line feed between them. A block shows what it declares: a struct or an enum
opens with its keyword and name on a line, and a definition that is not declared leaves a
comment.

* `Shows`           — what the block of a declaration looks like.
* `Writes`          — a block that a generator writes for a declaration.
* `Written`         — a text made of the blocks of some declarations.
* `generate_written` — a generated text is made of the blocks of its plan, and the findings
                      of the plan are reported.
* `process_written` — the same for a document that is decoded, checked and generated.
-/

namespace Lexicon.Generator

open Schema Target

-- ---------------------------------------------------------------------------
-- What a declaration is written from
-- ---------------------------------------------------------------------------

/-- The generator that has noted a declaration and handed out the names in it. -/
def handing (g : Generator) (outline : Outline) (style : Naming.Style) (names : List String) :
    Generator :=
  { g with declared := outline.declared?.toList ++ g.declared
           scope := (g.scope.clear.identifyAll style names).2 }

/-- The fields of a struct as its template sees them. -/
def fieldList (g : Generator) (name : String) (schema : ObjectSchema) : List Value :=
  let fields := fieldOutlines g.types name schema
  List.zipWith g.fieldValue fields
    (g.scope.clear.identifyAll g.style (fields.map FieldOutline.wireName)).1

/-- What the template of a struct is filled from. -/
def structContext (g : Generator) (name : String) (description : Option String)
    (schema : ObjectSchema) (indent : String) : Fields :=
  [("struct_name", .text name), ("description", g.comment description),
   ("derives", g.settings.derives), ("fields", .list (g.fieldList name schema)),
   ("indent", .text indent)]

theorem declare_struct (g : Generator) (name : String) (description : Option String)
    (schema : ObjectSchema) :
    g.declare (.struct name description schema) =
      let next := g.handing (.struct name description schema) g.style
        ((fieldOutlines g.types name schema).map FieldOutline.wireName)
      match g.settings.indent with
      | .error m => (.error (.mismatch m), next)
      | .ok indent =>
        next.render Template.structName (g.structContext name description schema indent) := rfl

/-- What the template of an enum is filled from. -/
def enumContext (g : Generator) (name : String) (description : Option String)
    (variants : List String) (indent : String) : Fields :=
  [("enum_name", .text name), ("description", g.comment description),
   ("derives", g.settings.derives), ("tag", g.settings.unionTag),
   ("variants", .list ((g.scope.clear.identifyAll .original variants).1.map variantValue)),
   ("indent", .text indent)]

theorem declare_enum (g : Generator) (name : String) (description : Option String)
    (variants : List String) :
    g.declare (.enum name description variants) =
      let next := g.handing (.enum name description variants) .original variants
      match g.settings.indent with
      | .error m => (.error (.mismatch m), next)
      | .ok indent =>
        next.render Template.enumName (g.enumContext name description variants indent) := rfl

-- ---------------------------------------------------------------------------
-- Frames
-- ---------------------------------------------------------------------------

/-- Filling a template changes nothing but the store. -/
theorem render_frame (g : Generator) (name : String) (context : Fields) :
    ∃ store, (g.render name context).2 = { g with store } := by
  rw [Generator.render]
  split
  · exact ⟨_, rfl⟩
  · exact ⟨_, rfl⟩

/-- Writing a declaration notes its name, hands out names and may look templates up. -/
theorem declare_frame (g : Generator) (outline : Outline) :
    ∃ scope store, (g.declare outline).2 =
      { g with declared := outline.declared?.toList ++ g.declared, scope, store } := by
  cases outline with
  | struct name description schema =>
    rw [declare_struct]
    dsimp only
    split
    · exact ⟨_, _, rfl⟩
    · obtain ⟨store, hStore⟩ := render_frame _ _ _
      exact ⟨_, store, hStore⟩
  | enum name description variants =>
    rw [declare_enum]
    dsimp only
    split
    · exact ⟨_, _, rfl⟩
    · obtain ⟨store, hStore⟩ := render_frame _ _ _
      exact ⟨_, store, hStore⟩
  | placeholder name kind =>
    obtain ⟨store, hStore⟩ := render_frame _ _ _
    exact ⟨_, store, hStore⟩

/-- A text that was filled comes from the template of its name. -/
theorem renderAll_of_render {g : Generator} {name text : String} {context : Fields}
    {parts : List Template.Part} (h : (g.render name context).1 = .ok text)
    (hStore : g.store.Original) (hFile : g.store.file? name = some parts) :
    Template.renderAll context parts = .ok text := by
  have hRender := (hStore.render name context).2
  rw [Generator.render] at h
  split at h
  · rename_i found store hRun
    rw [hRun] at hRender
    cases h
    obtain ⟨found, hFound, hText⟩ := hRender text rfl
    rw [hFile] at hFound
    cases hFound
    exact hText
  · cases h

-- ---------------------------------------------------------------------------
-- One block
-- ---------------------------------------------------------------------------

/-- What the block of a declaration looks like. -/
def Shows : Outline → String → Prop
  | .struct name _ _, block => Template.Opens "struct" name block
  | .enum name _ _, block => Template.Opens "enum" name block
  | .placeholder name kind, block => block = Template.placeholderText name kind.name

/-- **A block shows its declaration.** -/
theorem declare_shows {s : Settings} {g : Generator} (hSound : Sound s g) {outline : Outline}
    {block : String} (h : (g.declare outline).1 = .ok block) : Shows outline block := by
  have hStore := hSound.store
  cases outline with
  | struct name description schema =>
    rw [declare_struct] at h
    dsimp only at h
    split at h
    · cases h
    · exact Template.structTemplate_opens rfl (renderAll_of_render h hStore hStore.file?_struct)
  | enum name description variants =>
    rw [declare_enum] at h
    dsimp only at h
    split at h
    · cases h
    · exact Template.enumTemplate_opens rfl (renderAll_of_render h hStore hStore.file?_enum)
  | placeholder name kind =>
    exact Template.placeholderTemplate_text rfl rfl
      (renderAll_of_render h hStore hStore.file?_placeholder)

/-- `Writes s outline block`: the block shows the declaration, and a generator built from the
settings writes it so in some state. -/
def Writes (s : Settings) (outline : Outline) (block : String) : Prop :=
  Shows outline block ∧ ∃ g, Reachable s g ∧ (g.declare outline).1 = .ok block

-- ---------------------------------------------------------------------------
-- A plan
-- ---------------------------------------------------------------------------

/-- **A plan that is carried out** writes the blocks of its declarations, and reports its
findings after those reported before. -/
theorem perform_writes {s : Settings} {g : Generator} (hReach : Reachable s g)
    {steps : List Step} {blocks : List String} {g' : Generator}
    (h : g.perform steps = (.ok blocks, g')) :
    List.Forall₂ (Writes s) (outlines steps) blocks ∧
      g'.diagnostics = g.diagnostics ++ reports steps := by
  induction steps generalizing g blocks with
  | nil =>
    cases h
    exact ⟨.nil, (List.append_nil _).symm⟩
  | cons first rest ih =>
    cases first with
    | report d =>
      rw [Generator.perform] at h
      obtain ⟨hBlocks, hReports⟩ := ih (hReach.step (.report d)) h
      refine ⟨hBlocks, ?_⟩
      rw [hReports, Generator.after, Generator.report, List.append_assoc]
      rfl
    | declare outline =>
      rw [Generator.perform] at h
      split at h
      · cases h
      · rename_i block next hRun
        split at h
        · cases h
        · rename_i others last hLater
          cases h
          -- the rest of the plan is carried out in the state that the block leaves behind
          have hNext : Reachable s next := by
            have := hReach.step (.declare outline)
            rwa [Generator.after, hRun] at this
          obtain ⟨hBlocks, hReports⟩ := ih hNext hLater
          have hBlock : (g.declare outline).1 = .ok block := by rw [hRun]
          have hSame : next.diagnostics = g.diagnostics := by
            obtain ⟨scope, store, hFrame⟩ := declare_frame g outline
            rw [hRun] at hFrame
            rw [show next = _ from hFrame]
          refine ⟨.cons ⟨declare_shows hReach.sound hBlock, g, hReach, hBlock⟩ hBlocks, ?_⟩
          rw [hReports, hSame]
          rfl

-- ---------------------------------------------------------------------------
-- A document
-- ---------------------------------------------------------------------------

/-- What goes before the blocks of a document's declarations: the head of the file, if it is
switched on. -/
def Heads (s : Settings) (document : Document) (head : List String) : Prop :=
  if s.emitPrelude.truthy then
    ∃ block, head = [block] ∧
      Template.renderAll [("lexicon_id", .text document.id), ("uses", textList uses)]
        Template.preludeTemplate = .ok block
  else head = []

/-- `Written s document declarations text`: the text is the head of the document and a block
for each of the declarations, in their order, with a line feed between them. -/
def Written (s : Settings) (document : Document) (declarations : List Outline) (text : String) :
    Prop :=
  ∃ head blocks, Heads s document head ∧ List.Forall₂ (Writes s) declarations blocks ∧
    text = "\n".intercalate (head ++ blocks)

/-- The plan by which a generator declares the definitions of a document. -/
def documentPlan (g : Generator) (document : Document) : List Step :=
  planDocument (g.start document).planSettings [] document.definitions

theorem prelude_heads {s : Settings} {g : Generator} (hSound : Sound s g) {document : Document}
    {head : List String} {g' : Generator} (h : g.prelude document = (.ok head, g')) :
    Heads s document head ∧ ∃ store, g' = { g with store } := by
  rw [Generator.prelude, hSound.settings] at h
  rw [Heads]
  split at h
  · rename_i hOn
    rw [if_pos hOn]
    obtain ⟨store, hFrame⟩ := render_frame g Template.preludeName
      [("lexicon_id", .text document.id), ("uses", textList uses)]
    split at h
    · rename_i block next hRun
      cases h
      rw [hRun] at hFrame
      have hBlock : (g.render Template.preludeName
          [("lexicon_id", .text document.id), ("uses", textList uses)]).1 = .ok block := by rw [hRun]
      exact ⟨⟨block, rfl, renderAll_of_render hBlock hSound.store hSound.store.file?_prelude⟩,
        store, hFrame⟩
    · cases h
  · rename_i hOff
    rw [if_neg hOff]
    cases h
    exact ⟨rfl, g.store, rfl⟩

/-- **A generated text** is made of the blocks of its plan, and the findings of the plan are
reported. -/
theorem generate_written {s : Settings} {g : Generator} (hReach : Reachable s g)
    {document : Document} {text : String} {g' : Generator}
    (h : g.generate document = (.ok text, g')) :
    Written s document (outlines (g.documentPlan document)) text ∧
      g'.diagnostics = g.diagnostics ++ reports (g.documentPlan document) := by
  have hStart := hReach.step (.start document)
  have hPrelude := hStart.prelude document
  rw [Generator.generate] at h
  rw [Generator.after, Generator.start] at hStart hPrelude
  split at h
  · cases h
  · rename_i head next hHead
    rw [hHead] at hPrelude
    obtain ⟨hHeads, store, rfl⟩ := prelude_heads hStart.sound hHead
    split at h
    · cases h
    · rename_i blocks last hRun
      cases h
      obtain ⟨hBlocks, hReports⟩ := perform_writes hPrelude hRun
      exact ⟨⟨head, blocks, hHeads, hBlocks, rfl⟩, hReports⟩

/-- **A processed document** is decoded, checked and generated. What was found by the check
stands before the findings of the plan. -/
theorem process_written {s : Settings} {g : Generator} (hReach : Reachable s g)
    {payload : Payload} {index : Option Naming.ReferenceIndex} {result : Generated}
    {g' : Generator} (h : g.process payload index = (.ok result, g')) :
    ∃ document text, Document.decode payload = .ok document ∧
      Written s document (outlines (g.documentPlan document)) text ∧
      result.code = layout text ∧
      result.diagnostics =
        documentDiagnostics (some (index.getD (indexOf [document]))) document ++
          reports (g.documentPlan document) := by
  rw [Generator.process] at h
  split at h
  · cases h
  · rename_i document hDecode
    have hChecked := (hReach.step (.reset (some (index.getD (indexOf [document]))))).step
      (.check document)
    rw [Generator.after, Generator.after] at hChecked
    rw [Generator.processDocument] at h
    split at h
    · cases h
    · rename_i text last hRun
      cases h
      obtain ⟨hWritten, hReports⟩ := generate_written hChecked hRun
      exact ⟨document, text, hDecode, hWritten, rfl, hReports⟩

end Lexicon.Generator
