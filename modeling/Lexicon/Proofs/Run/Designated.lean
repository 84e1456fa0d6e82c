import Lexicon.Run
import Lexicon.Proofs.Naming.Index
import Lexicon.Proofs.Naming.Reference
import Lexicon.Proofs.Target.FieldType
import Lexicon.Proofs.Target.TypeName

/-!
# Lexicon — where references lead, and what they are called

A reference is looked up in its full form, while the type that stands for it takes its name from the
tail of what was written. Both ways agree for references with a mark, as long as names have the form
of an identifier; a reference to a document as a whole leads to its main definition and still bears
the id of the document.

* `Designates`              — the definitions of a run that a reference leads to.
* `mem_indexOf_definitions` — the index has the full form of a reference if it leads somewhere.
* `typeName_of_designated`  — what the type of a reference is called, set against the definition.
-/

namespace Lexicon.Generator

open Naming Schema Target

-- ---------------------------------------------------------------------------
-- Definitions of a run
-- ---------------------------------------------------------------------------

/-- `Designates documents reference document target name`: the reference, made in the document of
the id `document`, leads to the definition `name` of `target`, one of the documents of a run. -/
structure Designates (documents : List Document) (reference document : String) (target : Document)
    (name : String) : Prop where
  loaded : target ∈ documents
  defined : name ∈ target.names
  full : canonical reference document = qualified target.id name

/-- The index of a run has the full form of a reference exactly if there is a definition that it
leads to. -/
theorem mem_indexOf_definitions (documents : List Document) (reference document : String) :
    canonical reference document ∈ (indexOf documents).definitions ↔
      ∃ target name, Designates documents reference document target name := by
  rw [indexOf, ReferenceIndex.mem_definitions_ofList]
  constructor
  · rintro ⟨entry, hEntry, name, hName, hFull⟩
    obtain ⟨target, hTarget, rfl⟩ := List.mem_map.mp hEntry
    exact ⟨target, name, hTarget, hName, hFull⟩
  · rintro ⟨target, name, hTarget, hName, hFull⟩
    exact ⟨_, List.mem_map_of_mem hTarget, name, hName, hFull⟩

-- ---------------------------------------------------------------------------
-- Names of types
-- ---------------------------------------------------------------------------

/-- The type of a reference has the name that the reference ends in, unless one is set for all
references. -/
theorem baseType_reference {types : TypeSettings} (hNotSet : types.override? .ref = none)
    (hint : String) (description : Option String) (reference : String) :
    (types.baseType hint (.leaf description (.ref reference))).name = .text (tail reference) := by
  rw [TypeSettings.baseType, TypeSettings.plainType]
  · rw [show Node.kind (.leaf description (.ref reference)) = .ref from rfl, hNotSet]
    rfl
  · simp

/-- A name with a mark does not have the form of an identifier. -/
theorem not_isIdentifier_of_mark {name : String} (hMark : mark ∈ name.toList) :
    isIdentifier name.toList = false := by
  have hNoWord : ∀ word, IsWord word → mark ∉ word.toList := by
    intro word hWord hMark
    cases List.all_eq_true.mp hWord.all_isNamePart mark hMark
  rw [Bool.eq_false_iff]
  intro hForm
  rcases (isIdentifier_iff name).mp hForm with hWord | ⟨word, hWord, rfl⟩
  · exact hNoWord name hWord hMark
  · rw [String.toList_append, List.mem_append] at hMark
    rcases hMark with hMark | hMark
    · exact hNoWord word hWord hMark
    · exact absurd hMark (by decide)

theorem badName_of_mark {target : Document} {name : String} (hDefined : name ∈ target.names)
    (hMark : mark ∈ name.toList) (index : Option ReferenceIndex) :
    ⟨name, .badName name⟩ ∈ documentDiagnostics index target := by
  refine List.mem_append_right _ (List.mem_map.mpr ⟨name, List.mem_filter.mpr ⟨hDefined, ?_⟩, rfl⟩)
  rw [not_isIdentifier_of_mark hMark]
  rfl

/-- **What the type of a reference is called.** A reference whose full form is in the index of a run
is not reported, and leads to a definition of one of the documents. The name of its type is its tail.
That is the name of any definition that it leads to exactly if the reference has a mark and the name
has none, or if the reference is the word for a main definition. A name with a mark is reported
itself. A reference without a mark is the id of a document: it leads to the main definition, and its
type bears the id. -/
theorem typeName_of_designated (documents : List Document) (reference document : String)
    (hFound : canonical reference document ∈ (indexOf documents).definitions) :
    (indexOf documents).isUnresolved reference document = false ∧
    (∃ target name, Designates documents reference document target name) ∧
    (∀ (types : TypeSettings) hint description, types.override? .ref = none →
      (types.baseType hint (.leaf description (.ref reference))).name = .text (tail reference)) ∧
    ∀ target name, Designates documents reference document target name →
      (tail reference = name ↔
        (mark ∈ reference.toList ∧ mark ∉ name.toList) ∨ reference = mainName) ∧
      (mark ∈ name.toList →
        ∀ index, ⟨name, .badName name⟩ ∈ documentDiagnostics index target) ∧
      (mark ∉ reference.toList →
        target.id = reference ∧ name = mainName ∧ tail reference = reference) := by
  refine ⟨?_, (mem_indexOf_definitions ..).mp hFound, ?_, ?_⟩
  · rw [ReferenceIndex.isUnresolved, List.contains_iff_mem.mpr hFound, Bool.not_true,
      Bool.and_false]
  · intro types hint description hNotSet
    exact baseType_reference hNotSet hint description reference
  · intro target name hDesignates
    refine ⟨tail_eq_iff hDesignates.full, badName_of_mark hDesignates.defined, ?_⟩
    intro hNoMark
    obtain ⟨hTarget, hName⟩ := eq_main_of_canonical hNoMark hDesignates.full
    exact ⟨hTarget, hName, (tail_eq_self_iff _).mpr hNoMark⟩

/-- A document whose second definition refers to its main one, by the id of the document. -/
def selfReferring : Document where
  lexicon := 1
  id := "a.b"
  revision := none
  description := none
  definitions :=
    [("main", .object (.mk none [] [] [])),
     ("P", .object (.mk none [("x", .leaf none (.ref "a.b"))] [] []))]

/-- The reference is found in the index, so its type bears the id of the document; a reference to
the other definition bears its name. -/
theorem typeName_of_selfReferring :
    canonical "a.b" "a.b" ∈ (indexOf [selfReferring]).definitions ∧
      (TypeSettings.baseType {} "PX" (.leaf none (.ref "a.b"))).name = .text "a.b" ∧
      canonical "#P" "a.b" ∈ (indexOf [selfReferring]).definitions ∧ tail "#P" = "P" := by
  have hMain : canonical "a.b" "a.b" ∈ (indexOf [selfReferring]).definitions := by decide
  have hOther : canonical "#P" "a.b" ∈ (indexOf [selfReferring]).definitions := by decide
  have hNamed := typeName_of_designated [selfReferring] "a.b" "a.b" hMain
  have hAgrees := typeName_of_designated [selfReferring] "#P" "a.b" hOther
  have hDesignates : Designates [selfReferring] "#P" "a.b" selfReferring "P" :=
    ⟨by simp, by decide, by decide⟩
  exact ⟨hMain, hNamed.2.2.1 {} "PX" none rfl, hOther,
    ((hAgrees.2.2.2 _ _ hDesignates).1).mpr (.inl (by decide))⟩

/-- A reference by the id of a document is found, and its type does not have the name of the
definition that it leads to. -/
theorem typeName_differs_for_id :
    canonical "a.b" "a.b" ∈ (indexOf [selfReferring]).definitions ∧
      Designates [selfReferring] "a.b" "a.b" selfReferring "main" ∧
      (TypeSettings.baseType {} "PX" (.leaf none (.ref "a.b"))).name ≠ .text "main" := by
  refine ⟨by decide, ⟨by simp, by decide, by decide⟩, ?_⟩
  rw [baseType_reference rfl]
  exact fun hSame => absurd (Value.text.inj hSame) (by decide)

end Lexicon.Generator
