import Lexicon.Proofs.Generator.Declarations
import Lexicon.Proofs.Target.NestedName

/-!
# Lexicon — the struct names of a text

The structs of objects described in place have names made from the names of properties. These are
not cleaned as those of fields are: hyphens and dots are replaced, and the first character is put
into upper case. Here it is said which of the names can be those of types, in every text.

* `process_nestedNames` — the declarations of a text with the ways that lead to them, and which of
                          their names can be those of types.
* `blanked_nested`      — a property with a blank in its name, and the struct that is called so.
-/

namespace Lexicon.Generator

open Schema Target Naming

/-- **The struct names of a text.** If the names of a document's definitions can be those of types,
then every declaration is that of a definition, or the struct of an object that is reached from one
through some properties; and its name can be that of a type exactly if these properties are all
plain. -/
theorem process_nestedNames {s : Settings} {g : Generator} (hReach : Reachable s g)
    {payload : Payload} {document : Document} (hDecode : Document.decode payload = .ok document)
    (hNames : ∀ name ∈ document.names, IsTypeName name) {index : Option Naming.ReferenceIndex}
    {result : Generated} {g' : Generator} (h : g.process payload index = (.ok result, g')) :
    ∃ text declarations, Written s document declarations text ∧ result.code = layout text ∧
      ∀ outline ∈ declarations, ∃ p ∈ document.definitions,
        outline = ownOutline (g.planFor document) p.1 p.2 ∨
        ∃ path name description schema, path ≠ [] ∧ outline = .struct name description schema ∧
          Along g.types (ownOutline (g.planFor document) p.1 p.2) path outline ∧
          (IsTypeName name ↔ ∀ property ∈ path, IsPlain property) := by
  obtain ⟨found, text, hFound, hWritten, hCode, -⟩ := process_written hReach h
  obtain rfl : document = found := Except.ok.inj (hDecode.symm.trans hFound)
  obtain ⟨forest, left, hGrows, hOutlines, -⟩ :=
    planDocument_grows (g.planFor document) [] document.definitions
  refine ⟨text, forest.preorder, hOutlines ▸ hWritten, hCode, fun outline hOutline => ?_⟩
  obtain ⟨p, hp, path, hAlong, hNested⟩ := hGrows.along outline hOutline
  refine ⟨p, hp, ?_⟩
  by_cases hPath : path = []
  · subst hPath
    cases hAlong with
    | here => exact .inl rfl
  · obtain ⟨o, rfl, hFree⟩ := hNested.resolve_left hPath
    obtain ⟨first, -, hFirst, -⟩ := along_ends hAlong rfl
    -- the name is put behind that of the definition, and is another one
    obtain rfl : first = p.1 := ownOutline_declared hFirst
    have hMem : p.1 ∈ document.names := List.mem_map_of_mem hp
    have hOther : o.name ≠ p.1 := fun hSame =>
      hFree (hSame ▸ (mem_planFor_definitions g document p.1).mpr hMem)
    exact .inr ⟨path, o.name, _, o.schema, hPath, rfl, hAlong,
      along_isTypeName hAlong rfl hFirst (hNames p.1 hMem).1 hOther⟩

/-- A document with objects in objects: below a property with a hyphen, one that begins with a sharp
s; and in a list, one whose name begins with a ligature and has a blank and an accent in it. -/
def lettered : Document :=
  let bare : Node := .object (.mk none [] [] [])
  { lexicon := 1, id := "a.b", revision := none, description := none
    definitions :=
      [("P", .object (.mk none
        [("a-b", .object (.mk none [("ßc", bare)] [] [])),
         ("ﬁ é", .array none bare ⟨none, none⟩)] [] []))] }

theorem process_nestedNames_lettered :
    Document.decode (.document lettered) = .ok lettered ∧
    (∀ name ∈ lettered.names, IsTypeName name) ∧
    ∃ result g', plain.process (.document lettered) none = (.ok result, g') ∧
      ∃ text declarations, Written {} lettered declarations text ∧ result.code = layout text ∧
        ∀ outline ∈ declarations, ∃ p ∈ lettered.definitions,
          outline = ownOutline (plain.planFor lettered) p.1 p.2 ∨
          ∃ path name description schema, path ≠ [] ∧ outline = .struct name description schema ∧
            Along plain.types (ownOutline (plain.planFor lettered) p.1 p.2) path outline ∧
            (IsTypeName name ↔ ∀ property ∈ path, IsPlain property) := by
  have hNames : ∀ name ∈ lettered.names, IsTypeName name := by decide
  have hOk : ((plain.process (.document lettered) none).1.map fun _ => true).toOption =
      some true := by
    decide +kernel
  obtain ⟨result, g', hRun, -⟩ := exists_of_passes hOk
  exact ⟨rfl, hNames, result, g', hRun, process_nestedNames (.built build_plain) rfl hNames hRun⟩

/-- The property names on the ways to its three nested structs; only the last is not plain. -/
example : IsPlain "a-b" ∧ IsPlain "ßc" ∧ ¬ IsPlain "ﬁ é" := by decide

/-- A document with a property that has a blank in its name. -/
def blanked : Document :=
  { lexicon := 1, id := "a.b", revision := none, description := none
    definitions := [("P", .object (.mk none [("a b", .object (.mk none [] [] []))] [] []))] }

/-- The code that is generated for it. -/
def blankedCode : String :=
  "#[derive(Debug, Clone, Serialize, Deserialize)]\npub struct P \x7b\n" ++
    "    #[serde(rename = \"a b\")]\n    pub a_b: Option<PA b>,\n\x7d\n\n" ++
    "#[derive(Debug, Clone, Serialize, Deserialize)]\npub struct PA b \x7b\n\x7d\n"

/-- The definition has a name that can be that of a type, and its nested struct has not. -/
theorem blanked_nested : (∀ name ∈ blanked.names, IsTypeName name) ∧ ¬ IsTypeName "PA b" ∧
    ∃ result g', plain.process (.document blanked) none = (.ok result, g') ∧
      result.code = blankedCode := by
  refine ⟨by decide, by decide, ?_⟩
  have hOk : ((plain.process (.document blanked) none).1.map fun result => decide (
      result.code = blankedCode)).toOption = some true := by
    decide +kernel
  obtain ⟨result, g', hRun, hCode⟩ := exists_of_passes hOk
  exact ⟨result, g', hRun, of_decide_eq_true hCode⟩

end Lexicon.Generator
