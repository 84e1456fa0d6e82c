import Lexicon.Proofs.Generator.Declarations
import Lexicon.Proofs.Target.TypeName

/-!
# Lexicon — the names of definitions

A definition that is declared gives its name to a type, as it is. The check looks at the form of
these names, by a pattern that does not know the keywords and that lets a line feed through at the
end. Here it is said which names are reported, and which are not that should be.

* `Overlooked`         — the names that are taken for names of types and are none.
* `overlooked_iff`     — they are those that have the form but cannot be used.
* `check_badNames`     — what the check of a document says about the names of its definitions.
* `keyworded_overlooked` — a keyword and a name with a line feed, declared without a word.
-/

namespace Lexicon.Generator

open Schema Target

/-- A keyword, or a word with a line feed behind it. -/
def Overlooked (name : String) : Prop :=
  name ∈ reservedWords ∨ name ∈ unescapableWords ∨ ∃ word, IsWord word ∧ name = word ++ "\n"

/-- Every keyword has the form of an identifier. -/
theorem isIdentifier_keyword :
    ∀ word ∈ reservedWords ++ unescapableWords, isIdentifier word.toList = true := by
  decide

theorem isIdentifier_of_isTypeName {name : String} (h : IsTypeName name) :
    isIdentifier name.toList = true :=
  (isIdentifier_iff name).mpr (.inl h.1)

/-- The names that are overlooked have the form of an identifier, and cannot be that of a type. -/
theorem overlooked_iff (name : String) :
    Overlooked name ↔ isIdentifier name.toList = true ∧ ¬ IsTypeName name := by
  constructor
  · rintro (hReserved | hUnescapable | ⟨word, hWord, rfl⟩)
    · exact ⟨isIdentifier_keyword name (List.mem_append_left _ hReserved), fun h => h.2.1 hReserved⟩
    · exact ⟨isIdentifier_keyword name (List.mem_append_right _ hUnescapable),
        fun h => h.2.2 hUnescapable⟩
    · refine ⟨(isIdentifier_iff _).mpr (.inr ⟨word, hWord, rfl⟩), fun h => ?_⟩
      -- a line feed is no part of a word
      have hAll := h.1.all_isNamePart
      rw [String.toList_append, List.all_append, Bool.and_eq_true] at hAll
      cases hAll.2
  · rintro ⟨hForm, hUnusable⟩
    rcases (isIdentifier_iff name).mp hForm with hWord | hEnded
    · by_contra hOther
      rw [Overlooked, not_or, not_or] at hOther
      exact hUnusable ⟨hWord, hOther.1, hOther.2.1⟩
    · exact .inr (.inr hEnded)

instance (name : String) : Decidable (Overlooked name) :=
  decidable_of_iff _ (overlooked_iff name).symm

/-- The names without the form of an identifier are those that cannot be used, unless they are
overlooked. -/
theorem not_isIdentifier_iff (name : String) :
    (!isIdentifier name.toList) = true ↔ ¬ IsTypeName name ∧ ¬ Overlooked name := by
  rw [overlooked_iff, Bool.not_eq_true', ← Bool.not_eq_true, not_and, not_not]
  refine ⟨fun h => ⟨fun hName => h (isIdentifier_of_isTypeName hName), fun hForm => absurd hForm h⟩,
    fun ⟨hUnusable, hForm⟩ h => hUnusable (hForm h)⟩

/-- **The names that are reported.** The check of a document ends with one finding for each name of
a definition that cannot be that of a type, in their order, those left out that are overlooked;
nothing else that it reports is about such a name. So it reports what it should exactly if no name
of a definition is overlooked. -/
theorem check_badNames (g : Generator) (document : Document) :
    ∃ others, (g.check document).diagnostics = g.diagnostics ++ others ++
        (document.names.filter fun name => ¬ IsTypeName name ∧ ¬ Overlooked name).map
          (fun name => ⟨name, .badName name⟩) ∧
      (∀ d ∈ others, ∀ name, d.finding ≠ .badName name) ∧
      ((document.names.filter fun name => ¬ IsTypeName name ∧ ¬ Overlooked name) =
          document.names.filter (fun name => ¬ IsTypeName name) ↔
        ∀ name ∈ document.names, ¬ Overlooked name) := by
  refine ⟨document.definitions.flatMap fun p =>
    definitionDiagnostics g.index document.id p.1 p.2, ?_, ?_, ?_⟩
  · have hSame : document.names.filter (fun name => !isIdentifier name.toList) =
        document.names.filter (fun name => ¬ IsTypeName name ∧ ¬ Overlooked name) := by
      refine List.filter_congr fun name _ => ?_
      rw [Bool.eq_iff_iff, not_isIdentifier_iff, decide_eq_true_eq]
    rw [check, documentDiagnostics, hSame, List.append_assoc]
  · rintro d hd name hSame
    obtain ⟨⟨other, node⟩, -, hDefinition⟩ := List.mem_flatMap.mp hd
    obtain ⟨place, -, hFound⟩ := List.mem_flatMap.mp hDefinition
    obtain ⟨finding, hFinding, rfl⟩ := List.mem_map.mp hFound
    rcases mem_nodeFindings hFinding with ⟨_, rfl⟩ | rfl | ⟨_, rfl⟩ | ⟨_, rfl⟩ <;> cases hSame
  · constructor
    · intro hSame name hName hOverlooked
      -- such a name belongs among those reported, and is not
      have hUnusable : ¬ IsTypeName name := ((overlooked_iff name).mp hOverlooked).2
      have hMem : name ∈ document.names.filter fun name => ¬ IsTypeName name :=
        List.mem_filter.mpr ⟨hName, decide_eq_true hUnusable⟩
      rw [← hSame] at hMem
      exact (of_decide_eq_true (List.mem_filter.mp hMem).2).2 hOverlooked
    · intro hNone
      refine List.filter_congr fun name hName => ?_
      rw [decide_eq_decide, and_iff_left (hNone name hName)]

/-- A document with a definition whose name is a keyword, and one whose name ends in a line feed. -/
def keyworded : Document :=
  { lexicon := 1, id := "a.b", revision := none, description := none
    definitions := [("type", .object (.mk none [] [] [])), ("Abc\n", .object (.mk none [] [] []))] }

/-- The code that is generated for it. -/
def keywordedCode : String :=
  "#[derive(Debug, Clone, Serialize, Deserialize)]\npub struct type \x7b\n\x7d\n\n" ++
    "#[derive(Debug, Clone, Serialize, Deserialize)]\npub struct Abc\n \x7b\n\x7d\n"

/-- Neither name can be that of a type, and both are declared as they are, with nothing reported. -/
theorem keyworded_overlooked : (∀ name ∈ keyworded.names, ¬ IsTypeName name) ∧
    (plain.check keyworded).diagnostics.map Diagnostic.message = [] ∧
    ∃ result g', plain.process (.document keyworded) none = (.ok result, g') ∧
      result.diagnostics.map Diagnostic.message = [] ∧ result.code = keywordedCode := by
  refine ⟨by decide, by decide +kernel, ?_⟩
  have hOk : ((plain.process (.document keyworded) none).1.map fun result => decide (
      result.diagnostics.map Diagnostic.message = [] ∧
        result.code = keywordedCode)).toOption = some true := by
    decide +kernel
  obtain ⟨result, g', hRun, hText⟩ := exists_of_passes hOk
  exact ⟨result, g', hRun, of_decide_eq_true hText⟩

end Lexicon.Generator
