import Lexicon.Proofs.Generator.Shape
import Lexicon.Proofs.Template.Comments

/-!
# Lexicon — code with comments and without

Descriptions are arbitrary texts, and they are written into the code as comments. Here it is shown
that nothing else comes of them: with comments switched off the code is the same, but for lines
that are comments. Such a line may stand before any declaration and any field, so that this has to
be followed through all templates and through the layout.

* `Generator.silenced`   — a generator that writes no comments.
* `declare_alike`        — it writes the same declarations without their comments.
* `generate_alike`       — and the same texts.
* `process_comments`     — codes with comments and without, and the findings of both.
-/

namespace Lexicon.Generator

open Schema Target Template

-- ---------------------------------------------------------------------------
-- Silence
-- ---------------------------------------------------------------------------

/-- The same generator with another setting for comments. -/
def silenced (g : Generator) (silence : Value) : Generator :=
  { g with settings := { g.settings with addComments := silence } }

theorem Sound.silenced {s : Settings} {g : Generator} (h : Sound s g) (silence : Value) :
    Sound { s with addComments := silence } (g.silenced silence) where
  settings := by rw [Generator.silenced, h.settings]
  style := h.style
  types := h.types
  policy := h.policy
  faithful := h.faithful
  store := h.store

/-- One level of indentation is blank and within a line. -/
theorem indent_blank {s : Settings} {indent : String} (h : s.indent = .ok indent) :
    ∀ c ∈ indent.toList, Text.isBlank c = true ∧ c ≠ '\n' := by
  rw [Settings.indent] at h
  split at h
  · cases h
    intro c hc
    have hTab : c = '\t' := by simpa using hc
    subst hTab
    decide
  · split at h
    · rename_i count _
      cases h
      rw [Settings.repeated]
      induction count.toNat with
      | zero => simp
      | succ n ih =>
        rw [List.replicate_succ, String.join_cons, String.toList_append]
        intro c hc
        rcases List.mem_append.mp hc with hFirst | hRest
        · have hSpace : c = ' ' := by simpa using hFirst
          subst hSpace
          decide
        · exact ih c hRest
    · cases h

/-- An attribute line begins with its mark. -/
theorem head?_serdeAttribute (key value : String) :
    (serdeAttribute key value).toList.head? = some '#' := by
  simp [serdeAttribute]

-- ---------------------------------------------------------------------------
-- Declarations
-- ---------------------------------------------------------------------------

/-- Templates that are filled alike are written alike. -/
theorem render_alike {g h : Generator} {name : String} {context other : Fields}
    {parts : List Template.Part} (hg : g.store.Original) (hh : h.store.Original)
    (hFile : g.store.file? name = some parts) (hOther : h.store.file? name = some parts)
    (hAlike : Alike Commented (renderAll context parts) (renderAll other parts)) :
    Alike Commented (g.render name context).1 (h.render name other).1 := by
  rw [render_fst_eq hg hFile, render_fst_eq hh hOther]
  exact hAlike.mapError _

section Declarations

variable {s : Settings} {g : Generator} {silence : Value} (hOff : silence.truthy = false)

include hOff

theorem comment_silenced (description : Option String) :
    (g.silenced silence).comment description = .null := by
  cases description with
  | none => rfl
  | some text =>
    rw [comment, if_neg]
    simp [silenced, hOff]

/-- **A field** says the same without its description. -/
theorem fieldValue_mutes (field : FieldOutline) (identifier : Naming.Identifier) :
    Mutes (g.fieldValue field identifier) ((g.silenced silence).fieldValue field identifier) := by
  have hMarks : ∀ a ∈ renameAttributes identifier ++ g.skipAttributes field,
      a.toList.head? = some '#' := by
    intro a ha
    rw [renameAttributes, skipAttributes, List.mem_append] at ha
    rcases ha with hRename | hSkip
    · split at hRename
      · rw [List.mem_singleton.mp hRename]
        exact head?_serdeAttribute ..
      · cases hRename
    · split at hSkip
      · rw [List.mem_singleton.mp hSkip]
        exact head?_serdeAttribute ..
      · cases hSkip
  have hNone : (g.silenced silence).comment field.description = .null :=
    comment_silenced hOff field.description
  refine .field rfl hMarks rfl (congrArg some hNone) ?_
  intro key hKey
  -- the entry of the description is passed over on both sides
  let before : Fields := [("name", .text identifier.declared), ("type", field.type.name),
    ("original_name", .text field.wireName), ("optional", .bool field.isOptional)]
  let after : Fields :=
    [("attributes", textList (renameAttributes identifier ++ g.skipAttributes field))]
  exact (lookup_append_cons_ne hKey before after _).trans
    (lookup_append_cons_ne hKey before after _).symm

theorem zipWith_mutes (fields : List FieldOutline) (identifiers : List Naming.Identifier) :
    List.Forall₂ Mutes (List.zipWith g.fieldValue fields identifiers)
      (List.zipWith (g.silenced silence).fieldValue fields identifiers) := by
  induction fields generalizing identifiers with
  | nil => exact .nil
  | cons field rest ih =>
    cases identifiers with
    | nil => exact .nil
    | cons identifier others => exact .cons (fieldValue_mutes hOff field identifier) (ih others)

/-- **One declaration**, with its comments and without. -/
theorem declare_alike (hSound : Sound s g) (outline : Outline) :
    Alike Commented (g.declare outline).1 ((g.silenced silence).declare outline).1 := by
  have hStore := hSound.store
  have hIndent : (g.silenced silence).settings.indent = g.settings.indent := rfl
  cases outline with
  | struct name description schema =>
    rw [declare_struct, declare_struct]
    dsimp only
    rw [hIndent]
    cases hRun : g.settings.indent with
    | error m => exact .error _
    | ok indent =>
      refine render_alike hStore hStore hStore.file?_struct hStore.file?_struct ?_
      refine structTemplate_alike rfl ?_ ?_ rfl rfl (indent_blank hRun) rfl rfl
        (zipWith_mutes hOff _ _)
      · exact congrArg some (comment_silenced hOff description)
      · intro key hKey
        simp only [List.mem_cons, List.not_mem_nil, or_false] at hKey
        rcases hKey with rfl | rfl
        · rfl
        · rfl
  | enum name description variants =>
    rw [declare_enum, declare_enum]
    dsimp only
    rw [hIndent]
    cases g.settings.indent with
    | error m => exact .error _
    | ok indent =>
      refine render_alike hStore hStore hStore.file?_enum hStore.file?_enum ?_
      refine enumTemplate_alike rfl ?_ ?_
      · exact congrArg some (comment_silenced hOff description)
      · intro key hKey
        simp only [List.mem_cons, List.not_mem_nil, or_false] at hKey
        rcases hKey with rfl | rfl | rfl | rfl | rfl
        all_goals rfl
  | placeholder name kind =>
    refine render_alike hStore hStore hStore.file?_placeholder hStore.file?_placeholder ?_
    refine .refl fun text hText => ?_
    exact (renderAll_wholeLines hText rfl ⟨" - not generated */", by decide⟩).commented

end Declarations

-- ---------------------------------------------------------------------------
-- Documents
-- ---------------------------------------------------------------------------

theorem prelude_wholeLines {s : Settings} {g : Generator} (hSound : Sound s g)
    {document : Document} {head : List String} (h : (g.prelude document).1 = .ok head) :
    ∀ text ∈ head, WholeLines text := by
  have hRun : g.prelude document = (.ok head, (g.prelude document).2) := by rw [← h]
  obtain ⟨hHeads, -⟩ := prelude_heads hSound hRun
  rw [Heads] at hHeads
  split at hHeads
  · obtain ⟨block, rfl, hBlock⟩ := hHeads
    have hText : block = headText document.id uses :=
      preludeTemplate_text rfl rfl (by decide) hBlock
    intro text hMem
    rw [List.mem_singleton.mp hMem, hText]
    exact headText_wholeLines ..
  · subst hHeads
    intro text hMem
    cases hMem

section Documents

variable {s : Settings} {g h : Generator} {silence : Value} (hOff : silence.truthy = false)

include hOff

/-- **A text with its comments** and the same text without. -/
theorem generate_alike (hg : Reachable s g) (hh : Reachable { s with addComments := silence } h)
    (document : Document) :
    Alike Commented (g.generate document).1 (h.generate document).1 := by
  have hSilenced := hg.sound.silenced silence
  have hHead : (((g.silenced silence).start document).prelude document).1 =
      ((g.start document).prelude document).1 := by
    rw [prelude_fst, prelude_fst, render_fst, render_fst]
    rfl
  have hPlan : (g.silenced silence).documentPlan document = g.documentPlan document := rfl
  rw [generate_blocks hg hg.sound, generate_blocks hh hSilenced, hHead, hPlan]
  cases hRun : ((g.start document).prelude document).1 with
  | error fault => exact .error fault
  | ok head =>
    have hStart : Reachable s (g.start document) := hg.step (.start document)
    have hLines : List.Forall₂ Commented head head :=
      List.forall₂_same.mpr fun text hText =>
        (prelude_wholeLines hStart.sound hRun text hText).commented
    have hBlocks : Alike (List.Forall₂ Commented)
        ((outlines (g.documentPlan document)).mapM fun outline => (g.declare outline).1)
        ((outlines (g.documentPlan document)).mapM fun outline =>
          ((g.silenced silence).declare outline).1) := by
      refine Alike.mapM (R := Eq) (List.forall₂_same.mpr fun _ _ => rfl) ?_
      rintro outline _ rfl
      exact declare_alike hOff hg.sound outline
    exact hBlocks.map fun _ _ hTexts => .intercalate (List.rel_append hLines hTexts)

end Documents

-- ---------------------------------------------------------------------------
-- Results
-- ---------------------------------------------------------------------------

/-- `Silences full plain`: the second result is the first one without comments. Some lines of the
code that are comments are left out, and nothing else differs. -/
structure Silences (full plain : Generated) : Prop where
  code : Text.Shorn (Text.split '\n' full.code.toList) (Text.split '\n' plain.code.toList)
  diagnostics : plain.diagnostics = full.diagnostics
  metadata : plain.metadata = full.metadata

/-- **Descriptions stay in comments.** Let one generator write comments and another one not, with
the same settings otherwise, and whatever they were used for before. What the second one makes of a
document is what the first one makes of it, but for whole lines of the code that begin with three
slashes after any blanks: so it is for every document, with any texts for descriptions. Where the
one fails, the other fails alike. -/
theorem process_comments {s : Settings} {silence : Value} (hOff : silence.truthy = false)
    {g h : Generator} (hg : Reachable s g) (hh : Reachable { s with addComments := silence } h)
    (payload : Payload) (index : Option Naming.ReferenceIndex) :
    Alike Silences (g.process payload index).1 (h.process payload index).1 := by
  rw [Generator.process, Generator.process]
  cases Document.decode payload with
  | error e => exact .error _
  | ok document =>
    have hPlan : h.documentPlan document = g.documentPlan document :=
      hh.sound.documentPlan_eq (hg.sound.silenced silence) document
    dsimp only
    rw [processDocument_fst hg, processDocument_fst hh, hPlan]
    refine (generate_alike hOff (hg.prepared document index) (hh.prepared document index)
      document).map fun full plain hText => ⟨?_, rfl, rfl⟩
    rw [layout, layout, String.toList_ofList, String.toList_ofList]
    exact hText.annotated.shorn_tidy

/-- A document whose descriptions have a line separator, an empty line, and marks that begin and end
comments of the target language. -/
def remarked : Document :=
  let remark := some "/// a\u2028\n*/"
  { lexicon := 1, id := "a.b", revision := none, description := remark
    definitions := [("P", .object (.mk remark [("a", .leaf remark .cidLink)] ["a"] []))] }

/-- Three lines are left out before the declaration and three before its field. -/
theorem process_comments_remarked : ∃ full bare,
    (Value.bool false).truthy = false ∧ build { addComments := .bool false } = .ok quiet ∧
    (plain.process (.document remarked) none).1 = .ok full ∧
    (quiet.process (.document remarked) none).1 = .ok bare ∧ Silences full bare ∧
    (Text.split '\n' full.code.toList).length = (Text.split '\n' bare.code.toList).length + 6 := by
  have hOff : (Value.bool false).truthy = false := rfl
  have hBoth : Alike Silences _ _ :=
    process_comments hOff (.built build_plain) (.built build_quiet) (.document remarked) none
  have hFull : ((plain.process (.document remarked) none).1.map fun full => decide (
      (Text.split '\n' full.code.toList).length = 11)).toOption = some true := by decide +kernel
  have hBare : ((quiet.process (.document remarked) none).1.map fun bare => decide (
      (Text.split '\n' bare.code.toList).length = 5)).toOption = some true := by decide +kernel
  obtain ⟨full, _, hRun, hLines⟩ := exists_of_passes hFull
  obtain ⟨bare, _, hOther, hKept⟩ := exists_of_passes hBare
  rw [hRun, hOther] at hBoth
  cases hBoth with
  | ok hSilences =>
    refine ⟨full, bare, hOff, build_quiet, by rw [hRun], by rw [hOther], hSilences, ?_⟩
    rw [of_decide_eq_true hLines, of_decide_eq_true hKept]

end Lexicon.Generator
