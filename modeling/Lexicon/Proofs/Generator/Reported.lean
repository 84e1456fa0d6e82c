import Lexicon.Proofs.Generator.Declarations
import Lexicon.Proofs.Target.Reported

/-!
# Lexicon — no silent fallback

Where a text does not say what its document says, a diagnostic does. A definition without a
declaration of its own, and a field whose type has no mapping, are reported as not supported, each
exactly once and in the order of the text; nothing else is.

* `LiesBelow`           — the findings below a definition, of the check and of the plan.
* `check_supported`     — the check reports nothing as not supported.
* `process_unsupported` — the diagnostics of a processed document against the declarations of its
                          text.
-/

namespace Lexicon.Generator

open Schema Target

/-- The findings that lie below a definition: of the check, about the nodes of its tree, or of the
plan, about what is declared for it. -/
inductive LiesBelow (s : PlanSettings) (index : Option Naming.ReferenceIndex)
    (document name : String) (node : Node) : Finding → Prop
  | checked {finding : Finding} (hChecked : CheckedBelow index document name node finding) :
      LiesBelow s index document name node finding
  | planned {finding : Finding} (hFound : FoundBelow s name node finding) :
      LiesBelow s index document name node finding

/-- The check finds inconsistencies only. -/
theorem check_supported (index : Option Naming.ReferenceIndex) (document : Document) :
    (documentDiagnostics index document).filter (fun d => isUnsupported d.finding) = [] := by
  rw [List.filter_eq_nil_iff]
  rintro ⟨name, finding⟩ hd
  obtain ⟨node, -, hChecked⟩ := exists_checkedBelow hd
  change CheckedBelow index document.id name node finding at hChecked
  cases hChecked with
  | inside _ hFinding =>
    rcases mem_nodeFindings hFinding with ⟨_, rfl⟩ | rfl | ⟨_, rfl⟩ | ⟨_, rfl⟩ <;>
      exact Bool.false_ne_true
  | named => exact Bool.false_ne_true

/-- **No silent fallback.** The text for a document is made of declarations below its definitions.
What is reported as not supported is, in the order of the text, one diagnostic for each placeholder
and one for each field of a struct that has the fallback type, under the name of the definition
that it is below. And every diagnostic, of either sort, names a definition below which its finding
lies. -/
theorem process_unsupported {s : Settings} {g : Generator} (hReach : Reachable s g)
    {payload : Payload} {index : Option Naming.ReferenceIndex} {result : Generated}
    {g' : Generator} (h : g.process payload index = (.ok result, g')) :
    ∃ document text, ∃ declarations : Labelled, Document.decode payload = .ok document ∧
      Written s document (declarations.map Prod.snd) text ∧ result.code = layout text ∧
      (∀ p ∈ declarations, ∃ node, (p.1, node) ∈ document.definitions ∧
        Below (g.planFor document) p.1 node p.2) ∧
      result.diagnostics.filter (fun d => d.severity = .unsupported) =
        declarations.unsupported g.types ∧
      ∀ d ∈ result.diagnostics, ∃ node, (d.definition, node) ∈ document.definitions ∧
        LiesBelow (g.planFor document) (some (index.getD (indexOf [document]))) document.id
          d.definition node d.finding := by
  obtain ⟨document, text, hDecode, hWritten, hCode, hDiagnostics⟩ := process_written hReach h
  obtain ⟨declarations, hOutlines, hBelow, hReported, hUnsupported⟩ :=
    planDocument_tells (g.planFor document) [] document.definitions
  have hPlan : planDocument (g.planFor document) [] document.definitions =
      g.documentPlan document := rfl
  rw [hPlan] at hOutlines hReported hUnsupported
  rw [hOutlines] at hWritten
  refine ⟨document, text, declarations, hDecode, hWritten, hCode, hBelow, ?_, ?_⟩
  · -- what is not supported is reported by the plan alone
    rw [hDiagnostics, List.filter_append]
    show (documentDiagnostics _ document).filter (fun d => isUnsupported d.finding) ++ _ = _
    rw [check_supported, List.nil_append]
    exact hUnsupported
  · intro d hd
    rw [hDiagnostics, List.mem_append] at hd
    rcases hd with hCheck | hFound
    · obtain ⟨node, hMem, hChecked⟩ := exists_checkedBelow hCheck
      exact ⟨node, hMem, .checked hChecked⟩
    · obtain ⟨node, hMem, hPlanned⟩ := hReported d hFound
      exact ⟨node, hMem, .planned hPlanned⟩

/-- A document with fields of the fallback type, one of them in a list and one in an object in an
object, with an object that is left out, and with a definition that is not declared. -/
def patchy : Document :=
  { lexicon := 1, id := "a.b", revision := none, description := none
    definitions :=
      [("P", .object (.mk none
        [("tags", .array none (.leaf none .unknown) ⟨none, none⟩),
         ("side", .object (.mk none [("inner", .object (.mk none
           [("file", .leaf none (.blob [] none))] [] []))] [] [])),
         ("q", .object (.mk none [("lost", .leaf none .unknown)] [] []))] ["gone"] [])),
       ("PQ", .leaf none .token)] }

theorem process_unsupported_patchy : ∃ result g',
    plain.process (.document patchy) none = (.ok result, g') ∧
    result.diagnostics.map Diagnostic.message =
      ["'gone' is listed as required/nullable in P but is not a property",
       "P.tags: 'unknown' has no field mapping, using fallback String",
       "PSideInner.file: 'blob' has no field mapping, using fallback String",
       "nested type name 'PQ' is already declared, not generating it again",
       "top-level 'token' is not mapped to a declaration"] ∧
    ∃ document text, ∃ declarations : Labelled,
      Document.decode (.document patchy) = .ok document ∧
      Written {} document (declarations.map Prod.snd) text ∧ result.code = layout text ∧
      (∀ p ∈ declarations, ∃ node, (p.1, node) ∈ document.definitions ∧
        Below (plain.planFor document) p.1 node p.2) ∧
      result.diagnostics.filter (fun d => d.severity = .unsupported) =
        declarations.unsupported plain.types ∧
      ∀ d ∈ result.diagnostics, ∃ node, (d.definition, node) ∈ document.definitions ∧
        LiesBelow (plain.planFor document) (some ((none : Option Naming.ReferenceIndex).getD
          (indexOf [document]))) document.id d.definition node d.finding := by
  have hOk : ((plain.process (.document patchy) none).1.map fun result => decide (
      result.diagnostics.map Diagnostic.message =
        ["'gone' is listed as required/nullable in P but is not a property",
         "P.tags: 'unknown' has no field mapping, using fallback String",
         "PSideInner.file: 'blob' has no field mapping, using fallback String",
         "nested type name 'PQ' is already declared, not generating it again",
         "top-level 'token' is not mapped to a declaration"])).toOption = some true := by
    decide +kernel
  obtain ⟨result, g', hRun, hMessages⟩ := exists_of_passes hOk
  exact ⟨result, g', hRun, of_decide_eq_true hMessages,
    process_unsupported (.built build_plain) hRun⟩

end Lexicon.Generator
