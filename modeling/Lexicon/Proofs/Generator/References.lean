import Lexicon.Generator
import Lexicon.Proofs.Schema.Coverage

/-!
# Lexicon — references that lead nowhere

A check of a document reports the references that lead nowhere, among other things. Its reports are
told apart by their words, and set against the places of the document's nodes.

* `Mention`, `Node.mentions` — the references that a single node makes.
* `Occurrence`, `occurrences` — all references of a document: definition by definition, and in a
                           definition in the order of its places.
* `findings_unresolved`  — what is reported on the references of a single node.
* `filter_documentDiagnostics` — reports of one sort, from what is found at the places.
* `check_unresolved`     — what is reported on the references of a document.
-/

namespace Lexicon

open Schema

-- ---------------------------------------------------------------------------
-- Occurrences
-- ---------------------------------------------------------------------------

/-- A reference as a node makes it: as one of the members of a union, or on its own. -/
inductive Mention where
  | member (reference : String)
  | target (reference : String)
  deriving DecidableEq, Repr

/-- The reference that is made. -/
def Mention.reference : Mention → String
  | member reference => reference
  | target reference => reference

/-- What is found when the reference leads nowhere. -/
def Mention.finding (path : String) : Mention → Finding
  | member reference => .unresolvedMember reference path
  | target reference => .unresolvedReference reference path

/-- The references that a single node makes, those of a union as often as it lists them. -/
def Schema.Node.mentions : Node → List Mention
  | .leaf _ (.union refs _) => refs.map .member
  | .leaf _ (.ref target) => [.target target]
  | _ => []

/-- An occurrence of a reference: made by the node at a position in a definition. -/
structure Occurrence where
  definition : String
  position : Position
  mention : Mention
  deriving DecidableEq, Repr

/-- How the node that makes the reference is called in reports. -/
def Occurrence.place (o : Occurrence) : String :=
  let path := Path.toward "" o.position
  if path = "" then o.definition else o.definition ++ "." ++ path

/-- The report that an occurrence leads nowhere. -/
def Occurrence.diagnostic (o : Occurrence) : Diagnostic := ⟨o.definition, o.mention.finding o.place⟩

/-- The occurrences in a definition, in the order of its places. -/
def occurrencesIn (name : String) (node : Node) : List Occurrence :=
  (nodes.places node).flatMap fun place => place.2.mentions.map (⟨name, place.1, ·⟩)

/-- The occurrences in a document, in the order of its definitions. -/
def occurrences (document : Document) : List Occurrence :=
  document.definitions.flatMap fun (name, node) => occurrencesIn name node

-- ---------------------------------------------------------------------------
-- Reports
-- ---------------------------------------------------------------------------

/-- The words in which a report on a reference that leads nowhere ends. -/
def unresolvedWords : String := "does not resolve to a known definition"

/-- Is it a report on a reference that leads nowhere? -/
def Diagnostic.saysUnresolved (d : Diagnostic) : Bool :=
  unresolvedWords.toList.isSuffixOf d.message.toList

/-- A text that ends in a text with the words at its end. -/
theorem endsIn_words {words text before after : String} (hText : text = before ++ after)
    (hWords : words.toList <:+ after.toList) : words.toList.isSuffixOf text.toList = true := by
  rw [List.isSuffixOf_iff_suffix, hText, String.toList_append]
  exact hWords.trans (List.suffix_append _ _)

/-- A text that ends in another letter than the words. -/
theorem not_endsIn_words {words text before after : String} {last other : Char}
    (hText : text = before ++ after) (hAfter : after.toList.getLast? = some last)
    (hWords : words.toList.getLast? = some other) (hLast : last ≠ other) :
    words.toList.isSuffixOf text.toList = false := by
  rw [Bool.eq_false_iff, Ne, List.isSuffixOf_iff_suffix]
  rintro ⟨start, hStart⟩
  have hEnd := congrArg List.getLast? hStart
  rw [hText, String.toList_append, List.getLast?_append, List.getLast?_append, hWords, hAfter,
    Option.some_or, Option.some_or, Option.some.injEq] at hEnd
  exact hLast hEnd.symm

/-- A report that ends in these words is one. -/
theorem saysUnresolved_of_words {d : Diagnostic} {before : String}
    (hMessage : d.message = before ++ (" " ++ unresolvedWords)) : d.saysUnresolved = true :=
  endsIn_words hMessage (by decide)

theorem saysUnresolved_mention (name path : String) (mention : Mention) :
    Diagnostic.saysUnresolved ⟨name, mention.finding path⟩ = true := by
  cases mention with
  | member reference => exact saysUnresolved_of_words rfl
  | target reference => exact saysUnresolved_of_words rfl

/-- A report that ends in another letter says something else. -/
theorem not_saysUnresolved {d : Diagnostic} {before after : String} {last : Char}
    (hMessage : d.message = before ++ after) (hAfter : after.toList.getLast? = some last)
    (hLast : last ≠ 'n') : d.saysUnresolved = false :=
  not_endsIn_words hMessage hAfter (show _ = some 'n' by decide) hLast

/-- What is found at a node: what is said in other words, and then the references that lead
nowhere. Without an index there are none. -/
theorem nodeFindings_eq (index : Option Naming.ReferenceIndex) (document path : String)
    (node : Node) :
    ∃ others, nodeFindings index document path node = others ++
        (node.mentions.filter fun mention =>
          index.any (·.isUnresolved mention.reference document)).map (Mention.finding path) ∧
      ∀ finding ∈ others, ∀ name, Diagnostic.saysUnresolved ⟨name, finding⟩ = false := by
  have hProperties : ∀ names : List String, ∀ finding ∈ names.map (Finding.notAProperty · path),
      ∀ name, Diagnostic.saysUnresolved ⟨name, finding⟩ = false := by
    intro names finding hFinding name
    obtain ⟨property, -, rfl⟩ := List.mem_map.mp hFinding
    exact not_saysUnresolved rfl (show _ = some 'y' by decide) (by decide)
  have hEmpty : ∀ refs : List String,
      ∀ finding ∈ (if refs.isEmpty then [Finding.emptyUnion path] else []),
        ∀ name, Diagnostic.saysUnresolved ⟨name, finding⟩ = false := by
    intro refs finding hFinding name
    split at hFinding
    · cases List.mem_singleton.mp hFinding
      exact not_saysUnresolved rfl (show _ = some 's' by decide) (by decide)
    · cases hFinding
  cases node with
  | object schema => exact ⟨_, (List.append_nil _).symm, hProperties schema.undeclaredNames⟩
  | params d properties required => exact ⟨_, (List.append_nil _).symm, hProperties _⟩
  | leaf d leaf =>
    cases leaf with
    | union refs closed =>
      refine ⟨_, ?_, hEmpty refs⟩
      rw [Node.mentions, List.filter_map, List.map_map]
      cases index with
      | none => exact congrArg (_ ++ List.map _ ·) (List.filter_false refs).symm
      | some index => rfl
    | ref target =>
      refine ⟨[], ?_, by simp⟩
      cases index with
      | none => rfl
      | some index =>
        rw [nodeFindings, Node.mentions, List.filter_singleton, List.nil_append, Option.any_some,
          Mention.reference]
        cases index.isUnresolved target document <;> rfl
    | _ => exact ⟨[], rfl, by simp⟩
  | _ => exact ⟨[], rfl, by simp⟩

/-- What is reported on the references of a node. -/
theorem findings_unresolved (index : Option Naming.ReferenceIndex) (document name path : String)
    (node : Node) :
    ((nodeFindings index document path node).map (Diagnostic.mk name)).filter
        Diagnostic.saysUnresolved =
      (node.mentions.filter fun mention => index.any (·.isUnresolved mention.reference document)).map
        fun mention => ⟨name, mention.finding path⟩ := by
  obtain ⟨others, hFindings, hOthers⟩ := nodeFindings_eq index document path node
  have hNone : (others.map (Diagnostic.mk name)).filter Diagnostic.saysUnresolved = [] := by
    rw [List.filter_eq_nil_iff]
    intro d hd
    obtain ⟨finding, hFinding, rfl⟩ := List.mem_map.mp hd
    exact Bool.eq_false_iff.mp (hOthers finding hFinding name)
  rw [hFindings, List.map_append, List.filter_append, hNone, List.nil_append, List.map_map]
  refine List.filter_eq_self.mpr fun d hd => ?_
  obtain ⟨mention, -, rfl⟩ := List.mem_map.mp hd
  exact saysUnresolved_mention name path mention

/-- How the node at a position in a definition is called in reports. -/
def placeText (definition : String) (position : Position) : String :=
  let path := Path.toward "" position
  if path = "" then definition else definition ++ "." ++ path

/-- **What a check reports of a sort that names of definitions are not of**: what is found of that
sort at the places of the definitions. -/
theorem filter_documentDiagnostics {sort : Diagnostic → Bool}
    (hNames : ∀ name, sort ⟨name, .badName name⟩ = false) (index : Option Naming.ReferenceIndex)
    (document : Document) :
    (documentDiagnostics index document).filter sort =
      document.definitions.flatMap fun entry => (nodes.places entry.2).flatMap fun place =>
        ((nodeFindings index document.id (placeText entry.1 place.1) place.2).map
          (Diagnostic.mk entry.1)).filter sort := by
  have hNone : ((document.names.filter fun name => !Target.isIdentifier name.toList).map
      fun name => Diagnostic.mk name (.badName name)).filter sort = [] := by
    rw [List.filter_eq_nil_iff]
    intro d hd
    obtain ⟨name, -, rfl⟩ := List.mem_map.mp hd
    exact Bool.eq_false_iff.mp (hNames name)
  rw [documentDiagnostics, List.filter_append, hNone, List.append_nil, List.filter_flatMap]
  refine List.flatMap_congr fun entry _ => ?_
  show (definitionDiagnostics index document.id entry.1 entry.2).filter sort = _
  rw [definitionDiagnostics, walk_eq_places, List.flatMap_map, List.filter_flatMap]
  rfl

/-- **References that lead nowhere are reported**, each occurrence of each of them once, and nothing
else is reported in these words. The reports name the definition that the reference is made in. They
come in the order of the definitions, and in a definition in the order of its places. -/
theorem Generator.check_unresolved (g : Generator) (document : Document) :
    ∃ found, (g.check document).diagnostics = g.diagnostics ++ found ∧
      found.filter Diagnostic.saysUnresolved =
        ((occurrences document).filter fun o =>
          g.index.any (·.isUnresolved o.mention.reference document.id)).map Occurrence.diagnostic := by
  refine ⟨documentDiagnostics g.index document, rfl, ?_⟩
  rw [filter_documentDiagnostics fun name =>
      not_saysUnresolved rfl (show _ = some 'r' by decide) (by decide),
    occurrences, List.filter_flatMap, List.map_flatMap]
  refine List.flatMap_congr fun entry _ => ?_
  show _ = ((occurrencesIn entry.1 entry.2).filter _).map _
  rw [occurrencesIn, List.filter_flatMap, List.map_flatMap]
  refine List.flatMap_congr fun place _ => ?_
  rw [findings_unresolved, List.filter_map, List.map_map]
  rfl

end Lexicon
