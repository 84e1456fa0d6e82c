import Mathlib.Data.List.Count
import Lexicon.Proofs.Generator.Declarations
import Lexicon.Proofs.Generator.References

/-!
# Lexicon — listed names without a property

Objects and parameters list names that must be there, objects also names that may be null. A check of
a document reports those that are no properties. The two kinds of node collect them separately, and
only one of them leaves out what it has met before.

* `Node.listed`, `Node.Lacks`  — the names that a node lists, and those of them without a property.
* `Node.timesGiven`            — how often a node gives such a name.
* `Placed`, `placed`           — all nodes of a document, at the places of its definitions.
* `count_undeclaredNames`      — how often a node gives a name.
* `check_undeclared`           — what is reported on listed names, for all nodes of a document.
* `doubled_twice`              — parameters that list a name twice have it reported twice.
-/

namespace Lexicon

open Schema

-- ---------------------------------------------------------------------------
-- Listed names
-- ---------------------------------------------------------------------------

namespace Schema.Node

/-- The names that a node lists as required or, being an object, as nullable. -/
def listed : Node → List String
  | .object schema => schema.required ++ schema.nullable
  | .params _ _ required => required
  | _ => []

/-- The names of the properties of a node. -/
def propertyNames : Node → List String
  | .object schema => schema.properties.map Prod.fst
  | .params _ properties _ => properties.map Prod.fst
  | _ => []

/-- Does the node list a name that none of its properties has? -/
def Lacks (node : Node) (name : String) : Prop := name ∈ node.listed ∧ name ∉ node.propertyNames

instance (node : Node) (name : String) : Decidable (node.Lacks name) :=
  inferInstanceAs (Decidable (_ ∧ _))

/-- How often a node gives a name that it lacks: parameters as often as they list it, other nodes
once. -/
def timesGiven : Node → String → Nat
  | .params _ _ required, name => required.count name
  | _, _ => 1

end Schema.Node

theorem declares_eq_false_iff {properties : List (String × Node)} {name : String} :
    (!declares properties name) = true ↔ name ∉ properties.map Prod.fst := by
  rw [Bool.not_eq_true', declares, List.any_eq_false, List.mem_map, not_exists]
  refine forall_congr' fun p => ?_
  rw [beq_iff_eq, not_and]

theorem mem_undeclared {properties : List (String × Node)} {names : List String} {name : String} :
    name ∈ undeclared properties names ↔ name ∈ names ∧ name ∉ properties.map Prod.fst := by
  rw [undeclared, List.mem_filter, declares_eq_false_iff]

/-- A list without its repetitions has none, by recursion on what is left of it. -/
theorem nodup_eraseDups (names : List String) : names.eraseDups.Nodup := by
  match names with
  | [] => exact List.nodup_nil
  | first :: rest =>
    rw [List.eraseDups_cons, List.nodup_cons]
    refine ⟨fun hMem => ?_, nodup_eraseDups _⟩
    have hOther := (List.mem_filter.mp (List.mem_eraseDups.mp hMem)).2
    simp at hOther
termination_by names.length
decreasing_by
  have hLess := List.length_filter_le (fun other => !other == first) rest
  rw [List.length_cons]
  omega

/-- A node gives the names that it lacks. -/
theorem mem_undeclaredNames {node : Node} {name : String} :
    name ∈ node.undeclaredNames ↔ node.Lacks name := by
  cases node with
  | object schema =>
    rw [Node.undeclaredNames, ObjectSchema.undeclaredNames, List.mem_eraseDups, mem_undeclared]
    rfl
  | params d properties required =>
    rw [Node.undeclaredNames, mem_undeclared]
    rfl
  | _ => simp [Node.undeclaredNames, Node.Lacks, Node.listed]

/-- **How often a node gives a name.** An object gives each name that it lacks once, also one that it
lists as required and as nullable. -/
theorem count_undeclaredNames (node : Node) (name : String) :
    node.undeclaredNames.count name = if node.Lacks name then node.timesGiven name else 0 := by
  split
  · rename_i hLacks
    have hMem : name ∈ node.undeclaredNames := mem_undeclaredNames.mpr hLacks
    cases node with
    | object schema => exact List.count_eq_one_of_mem (nodup_eraseDups _) hMem
    | params d properties required =>
      exact List.count_filter (declares_eq_false_iff.mpr hLacks.2)
    | _ => cases hMem
  · rename_i hLacks
    exact List.count_eq_zero_of_not_mem fun hMem => hLacks (mem_undeclaredNames.mp hMem)

-- ---------------------------------------------------------------------------
-- Reports
-- ---------------------------------------------------------------------------

/-- A node at a position in a definition of a document. -/
structure Placed where
  definition : String
  position : Position
  node : Node

namespace Placed

/-- How the node is called in reports. -/
def place (p : Placed) : String := placeText p.definition p.position

/-- The report that a name is no property of the node. -/
def diagnostic (p : Placed) (name : String) : Diagnostic :=
  ⟨p.definition, .notAProperty name p.place⟩

/-- The reports on the names that the node gives. -/
def reports (p : Placed) : List Diagnostic := p.node.undeclaredNames.map p.diagnostic

/-- Is each name that the node lacks reported once for it, and no other name? -/
def ReportedOnce (p : Placed) : Prop :=
  ∀ name, (p.reports.map Diagnostic.message).count (p.diagnostic name).message =
    if p.node.Lacks name then 1 else 0

/-- The wording of a report tells its name. -/
theorem message_injective (p : Placed) :
    Function.Injective fun name => (p.diagnostic name).message := by
  intro name other hSame
  have hTexts : "'" ++ name ++ "' is listed as required/nullable in " ++ p.place ++
      " but is not a property" = "'" ++ other ++ "' is listed as required/nullable in " ++ p.place ++
      " but is not a property" := hSame
  simpa using hTexts

theorem reportedOnce_iff (p : Placed) :
    p.ReportedOnce ↔ ∀ name, p.node.Lacks name → p.node.timesGiven name = 1 := by
  refine forall_congr' fun name => ?_
  have hCount : (p.reports.map Diagnostic.message).count (p.diagnostic name).message =
      p.node.undeclaredNames.count name := by
    rw [reports, List.map_map]
    exact List.count_map_of_injective _ _ p.message_injective name
  rw [hCount, count_undeclaredNames]
  by_cases hLacks : p.node.Lacks name <;> simp [hLacks]

end Placed

/-- The nodes of a definition, in the order of its places. -/
def placedIn (name : String) (node : Node) : List Placed :=
  (nodes.places node).map fun place => ⟨name, place.1, place.2⟩

/-- The nodes of a document, in the order of its definitions. -/
def placed (document : Document) : List Placed :=
  document.definitions.flatMap fun (name, node) => placedIn name node

/-- The words in which a report on a listed name ends. -/
def undeclaredWords : String := "but is not a property"

/-- Is it a report on a listed name that is no property? -/
def Diagnostic.saysUndeclared (d : Diagnostic) : Bool :=
  undeclaredWords.toList.isSuffixOf d.message.toList

theorem saysUndeclared_notAProperty (definition name path : String) :
    Diagnostic.saysUndeclared ⟨definition, .notAProperty name path⟩ = true :=
  endsIn_words (show _ = _ ++ (" " ++ undeclaredWords) from rfl) (by decide)

/-- A report that ends in another letter says something else. -/
theorem not_saysUndeclared {d : Diagnostic} {before after : String} {last : Char}
    (hMessage : d.message = before ++ after) (hAfter : after.toList.getLast? = some last)
    (hLast : last ≠ 'y') : d.saysUndeclared = false :=
  not_endsIn_words hMessage hAfter (show _ = some 'y' by decide) hLast

/-- A node that is no object and no parameters is not found to lack a property. -/
theorem notAProperty_not_mem_leaf (index : Option Naming.ReferenceIndex)
    (document path name : String) (d : Option String) (leaf : Leaf) :
    .notAProperty name path ∉ nodeFindings index document path (.leaf d leaf) := by
  cases leaf with
  | union refs closed => cases index <;> simp [nodeFindings]
  | ref target => cases index <;> simp [nodeFindings]
  | _ => exact List.not_mem_nil

/-- What is reported on the listed names of a node. -/
theorem findings_undeclared (index : Option Naming.ReferenceIndex) (document name path : String)
    (node : Node) :
    ((nodeFindings index document path node).map (Diagnostic.mk name)).filter
        Diagnostic.saysUndeclared =
      node.undeclaredNames.map fun listed => ⟨name, .notAProperty listed path⟩ := by
  have hListed : ∀ names : List String,
      ((names.map (Finding.notAProperty · path)).map (Diagnostic.mk name)).filter
          Diagnostic.saysUndeclared =
        names.map fun listed => ⟨name, .notAProperty listed path⟩ := by
    intro names
    rw [List.map_map]
    refine List.filter_eq_self.mpr fun d hd => ?_
    obtain ⟨listed, -, rfl⟩ := List.mem_map.mp hd
    exact saysUndeclared_notAProperty name listed path
  cases node with
  | object schema => exact hListed _
  | params d properties required => exact hListed _
  | leaf d leaf =>
    refine List.filter_eq_nil_iff.mpr fun diagnostic hd => ?_
    obtain ⟨finding, hFinding, rfl⟩ := List.mem_map.mp hd
    rw [Bool.not_eq_true]
    rcases Generator.mem_nodeFindings hFinding with ⟨listed, rfl⟩ | rfl | ⟨_, rfl⟩ | ⟨_, rfl⟩
    · exact absurd hFinding (notAProperty_not_mem_leaf index document path listed d leaf)
    · exact not_saysUndeclared rfl (show _ = some 's' by decide) (by decide)
    · exact not_saysUndeclared rfl (show _ = some 'n' by decide) (by decide)
    · exact not_saysUndeclared rfl (show _ = some 'n' by decide) (by decide)
  | _ => rfl

/-- **Listed names without a property.** What a check of a document reports in these words are the
names that its nodes give, at all places of its definitions and in their order. A node gives exactly
the names that it lists and has no property of. So they are reported once each for every node of the
document exactly if none of its parameters list such a name more than once. -/
theorem Generator.check_undeclared (g : Generator) (document : Document) :
    ∃ found, (g.check document).diagnostics = g.diagnostics ++ found ∧
      found.filter Diagnostic.saysUndeclared = (placed document).flatMap Placed.reports ∧
      (∀ p ∈ placed document, ∀ name, name ∈ p.node.undeclaredNames ↔ p.node.Lacks name) ∧
      ∀ p ∈ placed document, p.ReportedOnce ↔
        ∀ name, p.node.Lacks name → p.node.timesGiven name = 1 := by
  refine ⟨documentDiagnostics g.index document, rfl, ?_, fun p _ name => mem_undeclaredNames,
    fun p _ => p.reportedOnce_iff⟩
  rw [filter_documentDiagnostics fun name =>
      not_saysUndeclared rfl (show _ = some 'r' by decide) (by decide),
    placed, List.flatMap_assoc]
  refine List.flatMap_congr fun entry _ => ?_
  show _ = (placedIn entry.1 entry.2).flatMap Placed.reports
  rw [placedIn, List.flatMap_map]
  refine List.flatMap_congr fun place _ => ?_
  rw [findings_undeclared]
  rfl

/-- Parameters that list a name twice. -/
def doubledParameters : Node := .params none [] ["q", "q"]

/-- A document whose only definition is a query with these parameters. -/
def doubled : Document :=
  { lexicon := 1, id := "a.b", revision := none, description := none
    definitions := [("Q", .query none (some doubledParameters) none [])] }

/-- The mapping that it is decoded from. -/
def doubledValue : Value :=
  .mapping [("lexicon", .int 1), ("id", .text "a.b"), ("defs", .mapping [("Q", .mapping
    [("type", .text "query"), ("parameters", .mapping
      [("type", .text "params"), ("required", .list [.text "q", .text "q"])])])])]

/-- The parameters lack a name, and are reported to lack it twice. -/
theorem doubled_twice : Document.decode (.value doubledValue) = .ok doubled ∧
    (∃ p ∈ placed doubled, p.node.Lacks "q" ∧ ¬ p.ReportedOnce) ∧
    (Generator.plain.check doubled).diagnostics.map Diagnostic.message =
      ["'q' is listed as required/nullable in Q.parameters but is not a property",
       "'q' is listed as required/nullable in Q.parameters but is not a property"] := by
  have hLacks : doubledParameters.Lacks "q" := by decide
  refine ⟨rfl, ⟨⟨"Q", [.parameters], doubledParameters⟩, ?_, hLacks, fun hOnce => ?_⟩,
    by decide +kernel⟩
  · refine List.mem_flatMap.mpr ⟨_, List.mem_singleton_self _,
      List.mem_map.mpr ⟨([.parameters], doubledParameters), ?_, rfl⟩⟩
    rw [Nesting.places_eq]
    refine List.mem_cons_of_mem _ (List.mem_flatMap.mpr ⟨_, List.mem_singleton_self _, ?_⟩)
    refine Nesting.mem_placesOn.mpr ⟨[], rfl, ?_⟩
    rw [Nesting.places_eq]
    exact List.mem_cons_self
  · have hTwice := ((Placed.reportedOnce_iff _).mp hOnce) "q" hLacks
    exact absurd hTwice (by decide)

end Lexicon
