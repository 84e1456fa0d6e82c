import Lexicon.Proofs.Generator.Blocks

/-!
# Lexicon — generators with a past

A generator is called many times, on documents of all sorts, and calls may fail halfway. What it
keeps from them are conversions of names, names handed out, templates found, declared types and
findings. Here it is shown that none of this reaches the next document.

* `Sound.declare_eq`, `Sound.perform_eq`, `generate_eq` — two generators of the same settings write
                            the same declarations, plans and documents, or fail alike.
* `processDocument_eq`    — and they give the same results.
* `Call`, `callAll`       — what callers can do, and the generator after that.
* `process_after_calls`   — after any calls a generator gives the results of a new one.
-/

namespace Lexicon.Generator

open Schema Target

-- ---------------------------------------------------------------------------
-- Declarations
-- ---------------------------------------------------------------------------

section Declarations

variable {s : Settings} {g h : Generator}

theorem Sound.settings_eq (hg : Sound s g) (hh : Sound s h) : g.settings = h.settings :=
  hg.settings.trans hh.settings.symm

theorem Sound.style_eq (hg : Sound s g) (hh : Sound s h) : g.style = h.style :=
  Option.some.inj (hg.style.symm.trans hh.style)

theorem Sound.types_eq (hg : Sound s g) (hh : Sound s h) : g.types = h.types :=
  Except.ok.inj (hg.types.symm.trans hh.types)

/-- In a scope of its own, a generator hands out the same names as any other one. -/
theorem Sound.identifyAll_eq (hg : Sound s g) (hh : Sound s h) (style : Naming.Style)
    (names : List String) :
    (g.scope.clear.identifyAll style names).1 = (h.scope.clear.identifyAll style names).1 := by
  have hLeft : g.scope.clear.Faithful := hg.faithful
  have hRight : h.scope.clear.Faithful := hh.faithful
  have hPolicy : g.scope.clear.policy = h.scope.clear.policy := hg.policy.trans hh.policy.symm
  exact Naming.identifyAll_eq hLeft hRight hPolicy rfl style names

/-- The result of filling a template; the generator lends nothing but its store to it. -/
theorem render_fst (g : Generator) (name : String) (context : Fields) :
    (g.render name context).1 =
      (g.store.render name context).1.mapError (.template name) := by
  rw [Generator.render]
  split
  · rename_i hRun
    rw [hRun]
    rfl
  · rename_i hRun
    rw [hRun]
    rfl

/-- A template that is found is filled; what is looked up before makes no difference. -/
theorem render_fst_eq {g : Generator} {name : String} {context : Fields}
    {parts : List Template.Part} (hStore : g.store.Original)
    (hFile : g.store.file? name = some parts) :
    (g.render name context).1 = (Template.renderAll context parts).mapError (.template name) := by
  have hFind : (g.store.find name).1 = .ok parts := by
    rw [hStore.find_fst, hFile]
  rw [render_fst, Template.Store.render]
  split
  · rename_i hRun
    rw [hRun] at hFind
    cases hFind
    rfl
  · rename_i hRun
    rw [hRun] at hFind
    cases hFind

theorem render_eq {g h : Generator} (hg : g.store.Original) (hh : h.store.Original)
    (name : String) (context : Fields) :
    (g.render name context).1 = (h.render name context).1 := by
  rw [render_fst, render_fst, hg.render_eq hh]

theorem Sound.comment_eq (hg : Sound s g) (hh : Sound s h) (description : Option String) :
    g.comment description = h.comment description := by
  cases description with
  | none => rfl
  | some text => rw [comment, comment, hg.settings_eq hh]

theorem Sound.fieldValue_eq (hg : Sound s g) (hh : Sound s h) : g.fieldValue = h.fieldValue := by
  funext field identifier
  rw [fieldValue, fieldValue, hg.comment_eq hh, skipAttributes, skipAttributes,
    hg.settings_eq hh]

theorem Sound.structContext_eq (hg : Sound s g) (hh : Sound s h) (name : String)
    (description : Option String) (schema : ObjectSchema) (indent : String) :
    g.structContext name description schema indent =
      h.structContext name description schema indent := by
  have hFields : g.fieldList name schema = h.fieldList name schema := by
    rw [fieldList, fieldList, hg.fieldValue_eq hh, hg.types_eq hh, hg.style_eq hh,
      hg.identifyAll_eq hh]
  rw [structContext, structContext, hFields, hg.comment_eq hh, hg.settings_eq hh]

theorem Sound.enumContext_eq (hg : Sound s g) (hh : Sound s h) (name : String)
    (description : Option String) (variants : List String) (indent : String) :
    g.enumContext name description variants indent =
      h.enumContext name description variants indent := by
  rw [enumContext, enumContext, hg.identifyAll_eq hh, hg.comment_eq hh, hg.settings_eq hh]

/-- **One declaration** is written alike by generators of the same settings. -/
theorem Sound.declare_eq (hg : Sound s g) (hh : Sound s h) (outline : Outline) :
    (g.declare outline).1 = (h.declare outline).1 := by
  have hSettings := hg.settings_eq hh
  cases outline with
  | struct name description schema =>
    rw [declare_struct, declare_struct]
    dsimp only
    rw [hSettings]
    cases h.settings.indent with
    | error m => rfl
    | ok indent =>
      dsimp only
      rw [hg.structContext_eq hh]
      refine render_eq ?_ ?_ _ _
      · exact hg.store
      · exact hh.store
  | enum name description variants =>
    rw [declare_enum, declare_enum]
    dsimp only
    rw [hSettings]
    cases h.settings.indent with
    | error m => rfl
    | ok indent =>
      dsimp only
      rw [hg.enumContext_eq hh]
      refine render_eq ?_ ?_ _ _
      · exact hg.store
      · exact hh.store
  | placeholder name kind => exact render_eq hg.store hh.store ..

end Declarations

/-- What comes of a plan that begins with a declaration. -/
theorem perform_declare (g : Generator) (outline : Outline) (rest : List Step) :
    (g.perform (.declare outline :: rest)).1 =
      (g.declare outline).1.bind fun block =>
        ((g.declare outline).2.perform rest).1.map (block :: ·) := by
  rw [Generator.perform]
  split
  · rename_i hBlock
    rw [hBlock]
    rfl
  · rename_i block next hBlock
    rw [hBlock]
    split
    · rename_i hRest
      dsimp only
      rw [hRest]
      rfl
    · rename_i hRest
      dsimp only
      rw [hRest]
      rfl

/-- **A plan is carried out alike**, up to the same failure if there is one. -/
theorem Sound.perform_eq {s : Settings} {g h : Generator} (hg : Sound s g) (hh : Sound s h)
    (steps : List Step) : (g.perform steps).1 = (h.perform steps).1 := by
  induction steps generalizing g h with
  | nil => rfl
  | cons first rest ih =>
    cases first with
    | report d => exact ih (hg.after (.report d)) (hh.after (.report d))
    | declare outline =>
      have hBlock := hg.declare_eq hh outline
      -- what the declaration leaves behind is sound again
      have hRest := ih (hg.declare outline) (hh.declare outline)
      rw [perform_declare, perform_declare, hBlock, hRest]

-- ---------------------------------------------------------------------------
-- Documents
-- ---------------------------------------------------------------------------

/-- The head of a file is written without touching anything but the store. -/
theorem prelude_frame (g : Generator) (document : Document) :
    ∃ store, (g.prelude document).2 = { g with store } := by
  rw [Generator.prelude]
  split
  · obtain ⟨store, hFrame⟩ := render_frame g Template.preludeName
      [("lexicon_id", .text document.id), ("uses", textList uses)]
    split
    · rename_i hRun
      rw [hRun] at hFrame
      exact ⟨store, hFrame⟩
    · rename_i hRun
      rw [hRun] at hFrame
      exact ⟨store, hFrame⟩
  · exact ⟨g.store, rfl⟩

/-- What comes of the head of a file, if there is one. -/
theorem prelude_fst (g : Generator) (document : Document) :
    (g.prelude document).1 =
      if g.settings.emitPrelude.truthy then
        (g.render Template.preludeName
          [("lexicon_id", .text document.id), ("uses", textList uses)]).1.map ([·])
      else .ok [] := by
  rw [Generator.prelude]
  split
  · split
    · rename_i hRun
      rw [hRun]
      rfl
    · rename_i hRun
      rw [hRun]
      rfl
  · rfl

/-- What comes of a document: its head, and then the blocks of its plan. -/
theorem generate_fst (g : Generator) (document : Document) :
    (g.generate document).1 =
      ((g.start document).prelude document).1.bind fun head =>
        (((g.start document).prelude document).2.perform (g.documentPlan document)).1.map
          fun blocks => "\n".intercalate (head ++ blocks) := by
  obtain ⟨store, hFrame⟩ := prelude_frame (g.start document) document
  have hStart : { g with declared := [], definitions := document.names } = g.start document := rfl
  rw [generate, hStart]
  split
  · rename_i hHead
    rw [hHead]
    rfl
  · rename_i head next hHead
    rw [hHead] at hFrame
    obtain rfl : next = { g.start document with store } := hFrame
    rw [hHead]
    -- the head has left the plan as it was
    split
    · rename_i hRun
      have hPlan : Generator.perform _ (g.documentPlan document) = _ := hRun
      dsimp only [Except.bind]
      rw [hPlan]
      rfl
    · rename_i hRun
      have hPlan : Generator.perform _ (g.documentPlan document) = _ := hRun
      dsimp only [Except.bind]
      rw [hPlan]
      rfl

section Documents

variable {s : Settings} {g h : Generator}

theorem Sound.prelude_eq (hg : Sound s g) (hh : Sound s h) (document : Document) :
    (g.prelude document).1 = (h.prelude document).1 := by
  rw [prelude_fst, prelude_fst, hg.settings_eq hh, render_eq hg.store hh.store]

theorem Sound.documentPlan_eq (hg : Sound s g) (hh : Sound s h) (document : Document) :
    g.documentPlan document = h.documentPlan document := by
  have hPlan : (g.start document).planSettings = (h.start document).planSettings := by
    simp only [planSettings, start, hg.types_eq hh, hg.settings_eq hh]
  rw [documentPlan, documentPlan, hPlan]

/-- **A document is generated alike** by generators of the same settings: whatever they had at
hand before, they begin the document with none of its names. -/
theorem generate_eq (hg : Reachable s g) (hh : Reachable s h) (document : Document) :
    (g.generate document).1 = (h.generate document).1 := by
  have hStartLeft : Reachable s (g.start document) := hg.step (.start document)
  have hStartRight : Reachable s (h.start document) := hh.step (.start document)
  have hHead := hStartLeft.sound.prelude_eq hStartRight.sound document
  have hBlocks := (hStartLeft.prelude document).sound.perform_eq
    (hStartRight.prelude document).sound (h.documentPlan document)
  rw [generate_fst, generate_fst, hHead, hg.sound.documentPlan_eq hh.sound, hBlocks]

end Documents

-- ---------------------------------------------------------------------------
-- Results
-- ---------------------------------------------------------------------------

/-- The generator that has checked a document, right before it generates it. -/
def prepared (g : Generator) (document : Document) (index : Option Naming.ReferenceIndex) :
    Generator :=
  (g.reset (some (index.getD (indexOf [document])))).check document

theorem Reachable.prepared {s : Settings} {g : Generator} (h : Reachable s g)
    (document : Document) (index : Option Naming.ReferenceIndex) :
    Reachable s (g.prepared document index) :=
  (h.step (.reset _)).step (.check document)

/-- What comes of a processed document. -/
theorem processDocument_fst {s : Settings} {g : Generator} (hReach : Reachable s g)
    (document : Document) (index : Option Naming.ReferenceIndex) :
    (g.processDocument document index).1 =
      ((g.prepared document index).generate document).1.map fun text =>
        let diagnostics := documentDiagnostics (some (index.getD (indexOf [document]))) document ++
          reports (g.documentPlan document)
        { code := layout text, diagnostics, metadata := metadata document diagnostics } := by
  have hPrepared := hReach.prepared document index
  have hStart : ((g.reset (some (index.getD (indexOf [document])))).check document) =
      g.prepared document index := rfl
  rw [processDocument, hStart]
  split
  · rename_i hRun
    rw [hRun]
    rfl
  · rename_i text last hRun
    -- what was reported before the document is gone, and its plan is not prepared for
    have hReports := (generate_written hPrepared hRun).2
    have hPlan := hPrepared.sound.documentPlan_eq hReach.sound document
    rw [hRun, hReports, hPlan]
    rfl

/-- **Results are alike.** Generators of the same settings process a document alike, if the
check of the document comes to the same. -/
theorem processDocument_eq {s : Settings} {g h : Generator} (hg : Reachable s g)
    (hh : Reachable s h) (document : Document) {index other : Option Naming.ReferenceIndex}
    (hIndex : documentDiagnostics (some (index.getD (indexOf [document]))) document =
      documentDiagnostics (some (other.getD (indexOf [document]))) document) :
    (g.processDocument document index).1 = (h.processDocument document other).1 := by
  have hText := generate_eq (hg.prepared document index) (hh.prepared document other) document
  rw [processDocument_fst hg, processDocument_fst hh, hText, hIndex,
    hg.sound.documentPlan_eq hh.sound]

/-- The code of a result is the generated text in its final layout. -/
theorem process_code {s : Settings} {g : Generator} (hReach : Reachable s g) {payload : Payload}
    {index : Option Naming.ReferenceIndex} {result : Generated}
    (h : (g.process payload index).1 = .ok result) :
    ∃ document text, Document.decode payload = .ok document ∧
      (g.generate document).1 = .ok text ∧ result.code = layout text := by
  rw [Generator.process] at h
  split at h
  · cases h
  · rename_i document hDecode
    rw [processDocument_fst hReach, generate_eq (hReach.prepared document index) hReach] at h
    cases hText : (g.generate document).1 with
    | error fault =>
      rw [hText] at h
      cases h
    | ok text =>
      rw [hText] at h
      exact ⟨document, text, hDecode, hText, (congrArg Generated.code (Except.ok.inj h)).symm⟩

theorem process_eq {s : Settings} {g h : Generator} (hg : Reachable s g) (hh : Reachable s h)
    (payload : Payload) (index : Option Naming.ReferenceIndex) :
    (g.process payload index).1 = (h.process payload index).1 := by
  rw [Generator.process, Generator.process]
  split
  · rfl
  · exact processDocument_eq hg hh _ rfl

-- ---------------------------------------------------------------------------
-- Calls
-- ---------------------------------------------------------------------------

/-- What the callers of a generator can do to it. -/
inductive Call where
  | process (payload : Payload) (index : Option Naming.ReferenceIndex)
  | tryOne (payload : Payload) (index : Option Naming.ReferenceIndex)
  | runAll (payloads : List (String × Payload))
  | generate (document : Document)
  | definition (name : String) (node : Node)
  | check (document : Document)
  | reset (index : Option Naming.ReferenceIndex)
  | report (d : Diagnostic)

/-- The generator after a call, also if the call failed. -/
def called (g : Generator) : Call → Generator
  | .process payload index => (g.process payload index).2
  | .tryOne payload index => (g.tryOne payload index).2
  | .runAll payloads => (g.runAll payloads).2.1
  | .generate document => (g.generate document).2
  | .definition name node => (g.definition name node).2
  | .check document => g.check document
  | .reset index => g.reset index
  | .report d => g.report d

/-- The generator after several calls. -/
def callAll (g : Generator) (calls : List Call) : Generator := calls.foldl called g

theorem Reachable.tryOne {s : Settings} {g : Generator} (h : Reachable s g) (payload : Payload)
    (index : Option Naming.ReferenceIndex) : Reachable s (g.tryOne payload index).2 := by
  have hProcess := h.process payload index
  rw [Generator.tryOne]
  split
  · rename_i hRun
    rwa [hRun] at hProcess
  · rename_i hRun
    rwa [hRun] at hProcess
  · rename_i hRun
    rwa [hRun] at hProcess

theorem Reachable.processDocument {s : Settings} {g : Generator} (h : Reachable s g)
    (document : Document) (index : Option Naming.ReferenceIndex) :
    Reachable s (g.processDocument document index).2 :=
  h.process (.document document) index

theorem Reachable.runEntries {s : Settings} {g : Generator} (h : Reachable s g)
    (index : Naming.ReferenceIndex) (entries : List Entry) :
    Reachable s (g.runEntries index entries).2.1 := by
  induction entries generalizing g with
  | nil => exact h
  | cons entry rest ih =>
    obtain ⟨source, decoded⟩ := entry
    cases decoded with
    | error e =>
      have hRest := ih h
      rw [Generator.runEntries]
      split
      · rename_i hRun
        rwa [hRun] at hRest
      · rename_i hRun
        rwa [hRun] at hRest
    | ok document =>
      have hDocument := h.processDocument document (some index)
      rw [Generator.runEntries]
      dsimp only
      split
      · rename_i hRun
        rwa [hRun] at hDocument
      · rename_i result next hRun
        rw [hRun] at hDocument
        have hRest := ih hDocument
        split
        · rename_i hLater
          rwa [hLater] at hRest
        · rename_i hLater
          rwa [hLater] at hRest

/-- **Every call** leads from a reachable state to a reachable one. -/
theorem Reachable.called {s : Settings} {g : Generator} (h : Reachable s g) (call : Call) :
    Reachable s (g.called call) := by
  cases call with
  | process payload index => exact h.process payload index
  | tryOne payload index => exact h.tryOne payload index
  | runAll payloads => exact h.runEntries _ _
  | generate document => exact h.generate document
  | definition name node => exact h.perform _
  | check document => exact h.step (.check document)
  | reset index => exact h.step (.reset index)
  | report d => exact h.step (.report d)

theorem Reachable.callAll {s : Settings} {g : Generator} (h : Reachable s g)
    (calls : List Call) : Reachable s (g.callAll calls) := by
  induction calls generalizing g with
  | nil => exact h
  | cons call rest ih => exact ih (h.called call)

/-- **A past leaves no trace.** After any calls, failed ones among them, a generator processes a
document as the generator does that was just built: with the same text, findings and metadata,
or with the same failure. -/
theorem process_after_calls {s : Settings} {g : Generator} (hBuilt : build s = .ok g)
    (calls : List Call) (payload : Payload) (index : Option Naming.ReferenceIndex) :
    ((g.callAll calls).process payload index).1 = (g.process payload index).1 := by
  have hNew : Reachable s g := .built hBuilt
  have hUsed : Reachable s (g.callAll calls) := hNew.callAll calls
  exact process_eq hUsed hNew payload index

/-- A document with an object whose properties fall together when they are converted, and in which
a name is given twice. -/
def muddled : Document :=
  { lexicon := 1, id := "a.b", revision := none, description := none
    definitions :=
      [("P", .object (.mk none
        [("a-b", .object (.mk none [] [] [])), ("a.b", .leaf none .cidLink),
         ("type", .leaf none (.ref "#gone"))] ["type", "none"] [])),
       ("PA_b", .leaf none .token)] }

/-- A past of all sorts of calls: some that fail, some that leave a document unfinished, and one
that says something of its own. -/
def motley : List Call :=
  [.process (.text "\x7b") none, .generate muddled, .definition "P" (.leaf none (.union ["a"] none)),
   .runAll [("x", .document muddled), ("y", .value .null)],
   .report ⟨"P", .remark .inconsistency "seen before"⟩, .check muddled,
   .tryOne (.document muddled) (some .empty), .reset none]

theorem process_after_calls_motley : build {} = .ok plain ∧
    ((plain.callAll motley).process (.document muddled) none).1 =
      (plain.process (.document muddled) none).1 :=
  ⟨build_plain, process_after_calls build_plain motley (.document muddled) none⟩

end Lexicon.Generator
