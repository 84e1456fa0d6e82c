import Lexicon.Run
import Lexicon.Proofs.Naming.Identifier
import Lexicon.Proofs.Target.Forest
import Lexicon.Proofs.Template.Filled

/-!
# Lexicon — the states of a generator

A generator is used for many documents, one after the other, and keeps what it did. The
results about a single text therefore hold in every state that a generator can get into,
also if it failed before in the middle of a document.

* `Action`, `after`   — what can be done to a generator, and its state after that.
* `Reachable`         — the states of the generators built from some settings.
* `Reachable.sound`   — in all of them the settings are those it was built from, the
                        templates are the built-in ones, and what is remembered is right.
* `Reachable.perform`, `Reachable.generate`, `Reachable.process` — whatever documents are
                        generated, the state stays among the reachable ones.
-/

namespace Lexicon.Generator

open Schema Target

-- ---------------------------------------------------------------------------
-- Actions
-- ---------------------------------------------------------------------------

/-- The generator at the beginning of a document. -/
def start (g : Generator) (document : Document) : Generator :=
  { g with declared := [], definitions := document.names }

/-- What can be done to a generator. -/
inductive Action where
  | reset (index : Option Naming.ReferenceIndex)
  | check (document : Document)
  | start (document : Document)
  | report (d : Diagnostic)
  | declare (outline : Outline)
  | render (name : String) (context : Fields)

/-- The generator after an action, also if the action failed. -/
def after (g : Generator) : Action → Generator
  | .reset index => g.reset index
  | .check document => g.check document
  | .start document => g.start document
  | .report d => g.report d
  | .declare outline => (g.declare outline).2
  | .render name context => (g.render name context).2

/-- The states that a generator built from the settings can get into. -/
inductive Reachable (s : Settings) : Generator → Prop
  | built {g : Generator} (hBuilt : build s = .ok g) : Reachable s g
  | step {g : Generator} (hReach : Reachable s g) (action : Action) : Reachable s (g.after action)

/-- A generator in whose settings nothing was changed. -/
def plain : Generator := { settings := {}, style := .original, types := {} }

theorem build_plain : build {} = .ok plain := by
  have hStyle : Settings.style? {} = some .original := by decide +kernel
  rw [build, hStyle]
  rfl

/-- A generator in whose settings nothing was changed but that it writes no comments. -/
def quiet : Generator := { plain with settings := { addComments := .bool false } }

theorem build_quiet : build { addComments := .bool false } = .ok quiet := by
  have hStyle : Settings.style? { addComments := .bool false } = some .original := by
    decide +kernel
  rw [build, hStyle]
  rfl

-- ---------------------------------------------------------------------------
-- The invariant
-- ---------------------------------------------------------------------------

/-- What holds of a generator at all times. -/
structure Sound (s : Settings) (g : Generator) : Prop where
  settings : g.settings = s
  style : s.style? = some g.style
  types : typeSettings s = .ok g.types
  policy : g.scope.policy = Target.policy
  faithful : g.scope.Faithful
  store : g.store.Original

theorem build_sound {s : Settings} {g : Generator} (h : build s = .ok g) : Sound s g := by
  rw [build] at h
  split at h
  · cases h
  · rename_i style hStyle
    split at h
    · cases h
    · rename_i types hTypes
      cases h
      exact ⟨rfl, hStyle, hTypes, rfl, Naming.Scope.faithful_of_memory_nil rfl, ⟨rfl, rfl⟩⟩

/-- Filling a template keeps a generator sound. -/
theorem Sound.render {s : Settings} {g : Generator} (h : Sound s g) (name : String)
    (context : Fields) : Sound s (g.render name context).2 := by
  have hStore := (h.store.render name context).1
  rw [Generator.render]
  split
  · rename_i text store hRender
    rw [hRender] at hStore
    exact ⟨h.settings, h.style, h.types, h.policy, h.faithful, hStore⟩
  · rename_i fault store hRender
    rw [hRender] at hStore
    exact ⟨h.settings, h.style, h.types, h.policy, h.faithful, hStore⟩

/-- Handing out names keeps a generator sound. -/
theorem Sound.scope {s : Settings} {g : Generator} (h : Sound s g) (style : Naming.Style)
    (names : List String) :
    Sound s { g with scope := (g.scope.clear.identifyAll style names).2 } := by
  have hClear : g.scope.clear.Faithful := h.faithful
  obtain ⟨-, hFaithful, hPolicy⟩ := Naming.identifyAll_handsOut hClear style names
  exact ⟨h.settings, h.style, h.types, hPolicy.trans h.policy, hFaithful, h.store⟩

theorem Sound.declare {s : Settings} {g : Generator} (h : Sound s g) (outline : Outline) :
    Sound s (g.declare outline).2 := by
  have hNoted : Sound s { g with declared := outline.declared?.toList ++ g.declared } :=
    ⟨h.settings, h.style, h.types, h.policy, h.faithful, h.store⟩
  cases outline with
  | struct name description schema =>
    rw [Generator.declare]
    have hScope := hNoted.scope g.style
      ((fieldOutlines g.types name schema).map FieldOutline.wireName)
    dsimp only at hScope ⊢
    split
    · exact hScope
    · exact hScope.render ..
  | enum name description variants =>
    rw [Generator.declare]
    have hScope := hNoted.scope .original variants
    dsimp only at hScope ⊢
    split
    · exact hScope
    · exact hScope.render ..
  | placeholder name kind => exact hNoted.render ..

/-- **Every action keeps a generator sound.** -/
theorem Sound.after {s : Settings} {g : Generator} (h : Sound s g) (action : Action) :
    Sound s (g.after action) := by
  cases action with
  | declare outline => exact h.declare outline
  | render name context => exact h.render name context
  | reset index => exact ⟨h.settings, h.style, h.types, h.policy, h.faithful, h.store⟩
  | check document => exact ⟨h.settings, h.style, h.types, h.policy, h.faithful, h.store⟩
  | start document => exact ⟨h.settings, h.style, h.types, h.policy, h.faithful, h.store⟩
  | report d => exact ⟨h.settings, h.style, h.types, h.policy, h.faithful, h.store⟩

/-- **A generator is sound at all times.** -/
theorem Reachable.sound {s : Settings} {g : Generator} (h : Reachable s g) : Sound s g := by
  induction h with
  | built hBuilt => exact build_sound hBuilt
  | step _ action ih => exact ih.after action

-- ---------------------------------------------------------------------------
-- Runs
-- ---------------------------------------------------------------------------

/-- Carrying out a plan leads to a reachable state, whether it succeeds or not. -/
theorem Reachable.perform {s : Settings} {g : Generator} (h : Reachable s g) (steps : List Step) :
    Reachable s (g.perform steps).2 := by
  induction steps generalizing g with
  | nil => exact h
  | cons first rest ih =>
    cases first with
    | report d => exact ih (h.step (.report d))
    | declare outline =>
      -- also a declaration that fails leaves a reachable state behind
      have hDeclared : Reachable s (g.declare outline).2 := h.step (.declare outline)
      rw [Generator.perform]
      split
      · rename_i fault next hRun
        rwa [hRun] at hDeclared
      · rename_i block next hRun
        rw [hRun] at hDeclared
        have hRest := ih hDeclared
        split
        · rename_i hLater
          rwa [hLater] at hRest
        · rename_i hLater
          rwa [hLater] at hRest

theorem Reachable.prelude {s : Settings} {g : Generator} (h : Reachable s g)
    (document : Document) : Reachable s (g.prelude document).2 := by
  rw [Generator.prelude]
  split
  · have hRender := h.step (.render Template.preludeName
      [("lexicon_id", .text document.id), ("uses", textList uses)])
    rw [Generator.after] at hRender
    split
    · rename_i hRun
      rwa [hRun] at hRender
    · rename_i hRun
      rwa [hRun] at hRender
  · exact h

theorem Reachable.generate {s : Settings} {g : Generator} (h : Reachable s g)
    (document : Document) : Reachable s (g.generate document).2 := by
  have hPrelude := (h.step (.start document)).prelude document
  rw [Generator.generate]
  rw [Generator.after, Generator.start] at hPrelude
  split
  · rename_i hRun
    rwa [hRun] at hPrelude
  · rename_i head next hRun
    rw [hRun] at hPrelude
    have hPerform := hPrelude.perform
      (planDocument next.planSettings next.declared document.definitions)
    split
    · rename_i hSteps
      rwa [hSteps] at hPerform
    · rename_i hSteps
      rwa [hSteps] at hPerform

/-- Processing a document leads to a reachable state, also if it does not decode. -/
theorem Reachable.process {s : Settings} {g : Generator} (h : Reachable s g)
    (payload : Payload) (index : Option Naming.ReferenceIndex) :
    Reachable s (g.process payload index).2 := by
  rw [Generator.process]
  split
  · exact h
  · rename_i document hDocument
    have hGenerate := ((h.step (.reset (some (index.getD (indexOf [document]))))).step
      (.check document)).generate document
    rw [Generator.after, Generator.after] at hGenerate
    rw [Generator.processDocument]
    split
    · rename_i hRun
      rwa [hRun] at hGenerate
    · rename_i hRun
      rwa [hRun] at hGenerate

end Lexicon.Generator
