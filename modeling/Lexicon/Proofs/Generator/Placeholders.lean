import Lexicon.Proofs.Generator.Success
import Lexicon.Proofs.Text.BlockComment

/-!
# Lexicon — the comments that stand for definitions

A definition without a declaration of its own leaves a block comment with its name. Closing marks
in the name are broken up, opening marks are not, and each of these asks for a closing mark of its
own: with one of them in the name, the comment runs on into what follows.

* `planDefinition_left`       — the steps for a definition without a declaration of its own.
* `afterBlockComment_placeholder` — what is left of a text behind such a comment.
* `definition_placeholder`    — the block for such a definition, and when it is a comment by itself.
* `gaping_unclosed`           — a document whose code is all inside a comment that is not closed.
-/

namespace Lexicon.Generator

open Schema Target Template Text

-- ---------------------------------------------------------------------------
-- The steps
-- ---------------------------------------------------------------------------

/-- **A definition without a declaration of its own** is reported and leaves a placeholder. -/
theorem planDefinition_left {s : PlanSettings} {name : String} {node : Node}
    (hLeft : (ownOutline s name node).declared? = none) (taken : List String) :
    planDefinition s taken name node =
      [.report ⟨name, .notDeclared node.kind⟩, .declare (.placeholder name node.kind)] := by
  cases node with
  | object schema => cases hLeft
  | record description key schema =>
    rw [planDefinition]
    rw [ownOutline] at hLeft
    split at hLeft
    · cases hLeft
    · rename_i hFolded
      rw [if_neg hFolded]
  | leaf description leaf =>
    cases leaf with
    | union references closed => cases hLeft
    | _ => rfl
  | _ => rfl

-- ---------------------------------------------------------------------------
-- The comment
-- ---------------------------------------------------------------------------

/-- Behind its name, a placeholder has no marks but the last one. -/
theorem placeholder_plain (kind : Kind) :
    ∀ c ∈ ':' :: (" " ++ kind.name ++ " - not generated ").toList, c ≠ '*' ∧ c ≠ '/' := by
  have hAll : (':' :: (" " ++ kind.name ++ " - not generated ").toList).all
      (fun c => c != '*' && c != '/') = true := by
    cases kind <;> decide
  intro c hc
  simpa using List.all_eq_true.mp hAll c hc

/-- **Behind a placeholder**: its own closing mark is read inside as many comments as its name
opens. -/
theorem afterBlockComment_placeholder (name : String) (kind : Kind) (later : List Char) :
    afterBlockComment ((placeholderText name kind.name).toList ++ later) =
      afterComment ('*' :: '/' :: '\n' :: later) (openings name.toList) := by
  have hText : (placeholderText name kind.name).toList ++ later =
      '/' :: '*' :: ' ' :: (blockSafe name.toList ++ ':' ::
        ((" " ++ kind.name ++ " - not generated ").toList ++ '*' :: '/' :: '\n' :: later)) := by
    simp [placeholderText]
  have hOpened : ∀ rest, afterBlockComment ('/' :: '*' :: ' ' :: rest) = afterComment rest 0 :=
    fun _ => rfl
  rw [hText, hOpened, afterComment_append (blockSafe_closes _) (by decide) (by decide),
    openings_blockSafe, Nat.zero_add, ← List.cons_append,
    afterComment_plain (placeholder_plain kind)]

/-- A placeholder can always be written. -/
theorem declare_placeholder {s : Settings} {g : Generator} (hSound : Sound s g) (name : String)
    (kind : Kind) :
    (g.declare (.placeholder name kind)).1 = .ok (placeholderText name kind.name) := by
  obtain ⟨block, hBlock⟩ : ∃ block, (g.declare (.placeholder name kind)).1 = .ok block :=
    render_ok hSound.store hSound.store.file?_placeholder (placeholderTemplate_fills rfl rfl)
  rw [hBlock, show block = _ from declare_shows hSound hBlock]

/-- **The block for a definition that is not declared** is a comment with its name, in which the
closing marks are broken up. It is one complete comment, with a line feed behind it, exactly if the
name has no opening mark. Otherwise its last mark closes only the innermost of the comments that
are open, and those that the name opens run on into whatever follows. -/
theorem definition_placeholder {s : Settings} {g : Generator} (hReach : Reachable s g)
    {name : String} {node : Node} (hLeft : (ownOutline g.planSettings name node).declared? = none) :
    ∃ block, (g.definition name node).1 = .ok [block] ∧
      block = placeholderText name node.kind.name ∧
      (afterBlockComment block.toList = some ['\n'] ↔ ¬ ['/', '*'] <:+: name.toList) ∧
      ∀ later, afterBlockComment (block.toList ++ later) =
        match openings name.toList with
        | 0 => some ('\n' :: later)
        | depth + 1 => afterComment ('\n' :: later) depth := by
  have hBlock : (g.definition name node).1 = .ok [placeholderText name node.kind.name] := by
    have hReported : Sound s (g.report ⟨name, .notDeclared node.kind⟩) :=
      hReach.sound.after (.report _)
    rw [definition, planDefinition_left hLeft, perform, perform_declare,
      declare_placeholder hReported]
    rfl
  have hBehind := afterBlockComment_placeholder name node.kind
  refine ⟨_, hBlock, rfl, ?_, fun later => ?_⟩
  · have hAlone := hBehind []
    rw [List.append_nil] at hAlone
    rw [hAlone, ← openings_eq_zero_iff]
    cases openings name.toList with
    | zero => exact iff_of_true rfl rfl
    | succ depth => exact iff_of_false (fun h => by cases h) (Nat.succ_ne_zero depth)
  · rw [hBehind]
    cases openings name.toList <;> rfl

/-- A name that is all closing marks stays inside, with nothing left but the line feed. -/
theorem definition_placeholder_closing :
    (ownOutline plain.planSettings "*/ b**//" (.leaf none .token)).declared? = none ∧
    ∃ block, (plain.definition "*/ b**//" (.leaf none .token)).1 = .ok [block] ∧
      block = "/* * / b** //: token - not generated */\n" ∧
      afterBlockComment block.toList = some ['\n'] := by
  have hLeft : (ownOutline plain.planSettings "*/ b**//" (.leaf none .token)).declared? = none :=
    rfl
  obtain ⟨block, hBlock, rfl, hComplete, -⟩ := definition_placeholder (.built build_plain) hLeft
  have hNoMark : ¬ ['/', '*'] <:+: "*/ b**//".toList := by decide
  exact ⟨hLeft, _, hBlock, by decide, hComplete.mpr hNoMark⟩

/-- A document with a definition whose name has an opening mark, and a struct after it. -/
def gaping : Document :=
  { lexicon := 1, id := "a.b", revision := none, description := none
    definitions := [("a/*b", .leaf none .token), ("P", .object (.mk none [] [] []))] }

/-- The code that is generated for it. -/
def gapingCode : String :=
  "/* a/*b: token - not generated */\n\n" ++
    "#[derive(Debug, Clone, Serialize, Deserialize)]\npub struct P \x7b\n\x7d\n"

/-- The comment that stands for the first definition is not closed, so that the struct is in it as
well. -/
theorem gaping_unclosed : afterBlockComment gapingCode.toList = none ∧
    ∃ result g', plain.process (.document gaping) none = (.ok result, g') ∧
      result.code = gapingCode := by
  refine ⟨by decide, ?_⟩
  have hOk : ((plain.process (.document gaping) none).1.map fun result => decide (
      result.code = gapingCode)).toOption = some true := by
    decide +kernel
  obtain ⟨result, g', hRun, hCode⟩ := exists_of_passes hOk
  exact ⟨result, g', hRun, of_decide_eq_true hCode⟩

end Lexicon.Generator
