import Lexicon.Proofs.Generator.Independence
import Lexicon.Proofs.Target.Shape

/-!
# Lexicon — what a text is made from

A text does not depend on all that a document says. What is written for a declaration is the same
for its shape, and the plan of a document is carried out alike whatever it reports on its way. So
documents of one shape have one text, however their constraints and endpoints differ; and if
comments are switched off, their descriptions may differ as well.

* `declare_shape`      — a declaration is written as its shape is.
* `generate_blocks`    — a text is made of the blocks of its declarations, each by itself.
* `generate_shapes`    — documents of the same shape have the same text.
-/

namespace Lexicon.Generator

open Schema Target

-- ---------------------------------------------------------------------------
-- Declarations
-- ---------------------------------------------------------------------------

section Declarations

variable (g : Generator) {keeps : Bool}

/-- Where descriptions are not kept, none would be written. -/
theorem comment_noted (hKeeps : g.settings.addComments.truthy = keeps)
    (description : Option String) :
    g.comment (noted keeps description) = g.comment description := by
  subst hKeeps
  cases description with
  | none => rw [noted_none]
  | some text =>
    rw [noted]
    split
    · rfl
    · rename_i hOff
      rw [comment, comment, if_neg hOff]

theorem fieldValue_echoes (hKeeps : g.settings.addComments.truthy = keeps)
    {field other : FieldOutline} (h : field.Echoes keeps other) (identifier : Naming.Identifier) :
    g.fieldValue other identifier = g.fieldValue field identifier := by
  rw [fieldValue, fieldValue, skipAttributes, skipAttributes, h.wireName, h.type, h.isOptional,
    h.description, comment_noted g hKeeps]

theorem wireNames_echoes {fields others : List FieldOutline}
    (h : List.Forall₂ (FieldOutline.Echoes keeps) fields others) :
    others.map FieldOutline.wireName = fields.map FieldOutline.wireName := by
  induction h with
  | nil => rfl
  | cons hField _ ih => rw [List.map_cons, List.map_cons, hField.wireName, ih]

theorem zipWith_echoes (hKeeps : g.settings.addComments.truthy = keeps)
    {fields others : List FieldOutline} (h : List.Forall₂ (FieldOutline.Echoes keeps) fields others)
    (identifiers : List Naming.Identifier) :
    List.zipWith g.fieldValue others identifiers =
      List.zipWith g.fieldValue fields identifiers := by
  induction h generalizing identifiers with
  | nil => rfl
  | cons hField _ ih =>
    cases identifiers with
    | nil => rfl
    | cons identifier rest =>
      rw [List.zipWith_cons_cons, List.zipWith_cons_cons, ih, fieldValue_echoes g hKeeps hField]

/-- The fields of a struct are told to its template as those of its shape are. -/
theorem fieldList_shape (hKeeps : g.settings.addComments.truthy = keeps) (name : String)
    (schema : ObjectSchema) : g.fieldList name (schema.shape keeps) = g.fieldList name schema := by
  have hFields := fieldOutlines_shape keeps g.types name schema
  rw [fieldList, fieldList, wireNames_echoes hFields]
  exact zipWith_echoes g hKeeps hFields _

/-- **A declaration is written as its shape is.** -/
theorem declare_shape (hKeeps : g.settings.addComments.truthy = keeps) (outline : Outline) :
    (g.declare (outline.shape keeps)).1 = (g.declare outline).1 := by
  cases outline with
  | struct name description schema =>
    rw [Outline.shape, declare_struct, declare_struct]
    dsimp only
    split
    · rfl
    · rw [render_fst, render_fst, structContext, structContext, fieldList_shape g hKeeps,
        comment_noted g hKeeps]
      rfl
  | enum name description variants =>
    rw [Outline.shape, declare_enum, declare_enum]
    dsimp only
    split
    · rfl
    · rw [render_fst, render_fst, enumContext, enumContext, comment_noted g hKeeps]
      rfl
  | placeholder name kind => rfl

end Declarations

-- ---------------------------------------------------------------------------
-- Documents
-- ---------------------------------------------------------------------------

section Documents

variable {s : Settings} {g h : Generator}

/-- **A text is made of the blocks of its declarations**, each of them written by itself and by
any generator of the settings. -/
theorem generate_blocks (hg : Reachable s g) (hh : Sound s h) (document : Document) :
    (g.generate document).1 = ((h.start document).prelude document).1.bind fun head =>
      ((outlines (h.documentPlan document)).mapM fun outline => (h.declare outline).1).map
        fun blocks => "\n".intercalate (head ++ blocks) := by
  have hStart : Reachable s (g.start document) := hg.step (.start document)
  rw [generate_fst, hg.sound.head_eq hh rfl, hg.sound.documentPlan_eq hh,
    (hStart.prelude document).sound.perform_fst hh]

/-- Declarations of the same shapes have the same blocks. -/
theorem mapM_declare_shape (hKeeps : g.settings.addComments.truthy = s.addComments.truthy)
    (declarations : List Outline) :
    ((declarations.map (Outline.shape s.addComments.truthy)).mapM fun outline =>
        (g.declare outline).1) = declarations.mapM fun outline => (g.declare outline).1 := by
  rw [List.mapM_map]
  exact congrArg (List.mapM · declarations) (funext fun outline => declare_shape g hKeeps outline)

/-- The plan of a document declares the shapes that the plan of its shape does. -/
theorem documentPlan_shape (g : Generator) (keeps : Bool) (document : Document) :
    (outlines (g.documentPlan document)).map (Outline.shape keeps) =
      outlines (planDocument (g.start document).planSettings []
        (shapes keeps document.definitions)) :=
  (outlines_planDocument_shape keeps _ [] document.definitions).symm

/-- **Documents of one shape have one text.** Two documents of the same id may differ in what
constrains their values, in the parts of their endpoints, and in their descriptions if comments
are switched off: with the other definitions, properties and names the same and in the same order,
the same text is generated, by any generators of the settings. -/
theorem generate_shapes (hg : Reachable s g) (hh : Reachable s h) {document other : Document}
    (hId : document.id = other.id)
    (hShapes : shapes s.addComments.truthy document.definitions =
      shapes s.addComments.truthy other.definitions) :
    (g.generate document).1 = (h.generate other).1 := by
  have hKeeps : h.settings.addComments.truthy = s.addComments.truthy := by rw [hh.sound.settings]
  have hNames : document.names = other.names := by
    have hKeys := congrArg (List.map Prod.fst) hShapes
    rwa [shapes_eq_map, shapes_eq_map, List.map_map, List.map_map] at hKeys
  have hPlan : (h.start document).planSettings = (h.start other).planSettings := by
    rw [planSettings, planSettings, start, start, hNames]
  have hOutlines := documentPlan_shape h s.addComments.truthy document
  rw [hShapes, hPlan, ← documentPlan_shape] at hOutlines
  rw [generate_blocks hg hh.sound, generate_blocks hh hh.sound, hh.sound.head_eq hh.sound hId,
    ← mapM_declare_shape hKeeps, hOutlines, mapM_declare_shape hKeeps]

end Documents

/-- A document with an endpoint, and with two objects of one name below an object. They are the same
only if the texts in them are bounded alike. -/
def paired (first second : Option Int) (description : Option String)
    (errors : List ErrorVariant) : Document :=
  let bounded (bound : Option Int) : Node :=
    .leaf description (.string ⟨none, bound, none, none, none, none, none, none, none⟩)
  { lexicon := 1, id := "a.b", revision := none, description
    definitions :=
      [("P", .object (.mk description
        [("a", .object (.mk description [("x", bounded first)] [] [])),
         ("A", .object (.mk none [("x", bounded second)] [] []))] ["a"] [])),
       ("get", .query description none none errors)] }

/-- The first of these documents has a finding about its objects that the second one has not. -/
theorem generate_shapes_paired :
    let strict := paired (some 5) none (some "/// one") [⟨"Gone", none⟩]
    let loose := paired none none none []
    ∃ g, build { addComments := .bool false } = .ok g ∧
      shapes false strict.definitions = shapes false loose.definitions ∧
      (g.generate strict).1 = (g.generate loose).1 ∧
      (reports (g.documentPlan strict)).length = 2 ∧
      (reports (g.documentPlan loose)).length = 1 := by
  intro strict loose
  have hShapes : shapes false strict.definitions = shapes false loose.definitions := rfl
  exact ⟨quiet, build_quiet, hShapes,
    generate_shapes (.built build_quiet) (.built build_quiet) rfl hShapes,
    by decide +kernel, by decide +kernel⟩

end Lexicon.Generator
