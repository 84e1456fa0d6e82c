import Lexicon.Proofs.Naming.Capital
import Lexicon.Proofs.Target.Growth
import Lexicon.Proofs.Target.TypeName

/-!
# Lexicon — the names of nested structs

The struct of an object described in place has the name of the struct around it, and behind that
what its property adds and one more piece for each list around the object. So its name begins with
that of a definition, and what is put behind is made from the names of the properties on the way.

* `Along`            — the way from a declaration to a struct nested in it.
* `Ends`             — what may be put behind a name, and whether that leaves it a word.
* `along_ends`       — the name of a struct that is reached on some way.
* `along_isTypeName` — which of these names can be those of types.
* `DocumentGrows.along` — every declaration is that of a definition or is reached from one.
-/

namespace Lexicon.Target

open Lexicon.Schema Naming

-- ---------------------------------------------------------------------------
-- Ways
-- ---------------------------------------------------------------------------

/-- `Along types outline path other`: the properties in `path`, the innermost first, lead from a
declaration to a struct nested in it. -/
inductive Along (types : TypeSettings) (outline : Outline) : List String → Outline → Prop
  | here : Along types outline [] outline
  | next {path : List String} {owner : String} {description : Option String}
      {schema : ObjectSchema} {property : String × Node} {o : NestedObject}
      (hOuter : Along types outline path (.struct owner description schema))
      (hProperty : property ∈ schema.properties)
      (hObject : types.propertyObject? owner property = some o) :
      Along types outline (property.1 :: path) o.outline

/-- Every object that a declaration introduces lies on a way through one of its properties. -/
theorem Along.exists_next {types : TypeSettings} {outline other : Outline} {path : List String}
    (h : Along types outline path other) {o : NestedObject} (ho : o ∈ other.introduces types) :
    ∃ property, Along types outline (property :: path) o.outline := by
  cases other with
  | struct owner description schema =>
    obtain ⟨property, hProperty, hObject⟩ := exists_property_of_mem_introduced ho
    exact ⟨property.1, h.next hProperty hObject⟩
  | enum _ _ _ => cases ho
  | placeholder _ _ => cases ho

/-- **Every declaration** is that of a definition, or the struct of an object that is reached from
one, under a name that no definition has. -/
theorem DocumentGrows.along {s : PlanSettings} {taken left : List String}
    {definitions : List (String × Node)} {forest : Forest}
    (h : DocumentGrows s taken definitions forest left) :
    ∀ outline ∈ forest.preorder, ∃ p ∈ definitions, ∃ path,
      Along s.types (ownOutline s p.1 p.2) path outline ∧
        (path = [] ∨ ∃ o : NestedObject, outline = o.outline ∧ o.name ∉ s.definitions) := by
  refine h.forall_outline ?_ fun p hp => ⟨p, hp, [], .here, .inl rfl⟩
  rintro outline ⟨p, hp, path, hAlong, -⟩ o ho hFree
  obtain ⟨property, hNext⟩ := hAlong.exists_next ho
  exact ⟨p, hp, _, hNext, .inr ⟨o, rfl, hFree⟩⟩

-- ---------------------------------------------------------------------------
-- Names
-- ---------------------------------------------------------------------------

/-- What may be put behind a name: it begins with no small letter, and it consists of what can
stand in an identifier exactly if the condition holds. -/
structure Ends (ending : String) (fits : Prop) : Prop where
  head : ∀ c ∈ ending.toList.head?, isSmall c = false
  namePart : ending.toList.all isNamePart = true ↔ fits

theorem Ends.append {ending more : String} {fits other : Prop} (h : Ends ending fits)
    (hMore : Ends more other) : Ends (ending ++ more) (fits ∧ other) where
  head c hc := by
    rw [String.toList_append, List.head?_append] at hc
    cases hEnding : ending.toList.head? with
    | none =>
      rw [hEnding] at hc
      exact hMore.head c hc
    | some d =>
      rw [hEnding] at hc
      exact h.head c (hEnding ▸ hc)
  namePart := by
    rw [String.toList_append, List.all_append, Bool.and_eq_true, h.namePart, hMore.namePart]

theorem ends_empty : Ends "" True where
  head c hc := by cases hc
  namePart := by decide

theorem itemSuffix_ends : Ends TypeSettings.itemSuffix True where
  head c hc := by
    have hHead : TypeSettings.itemSuffix.toList.head? = some 'I' := by decide
    rw [hHead] at hc
    cases hc
    rfl
  namePart := by decide

/-- What a property adds to the name of its owner. -/
theorem property_ends (owner property : String) :
    ∃ ending, nestedName owner property = owner ++ ending ∧ Ends ending (IsPlain property) := by
  refine ⟨String.ofList (capitalized property), rfl, ⟨?_, ?_⟩⟩
  · rw [String.toList_ofList]
    exact capitalized_head? property
  · rw [String.toList_ofList]
    exact capitalized_all_namePart property

/-- What the lists around an object add to its name. -/
theorem inPlace?_ends (types : TypeSettings) : ∀ (hint : String) (node : Node) {o : NestedObject},
    types.inPlace? hint node = some o → ∃ ending, o.name = hint ++ ending ∧ Ends ending True
  | hint, .array d items rules, o, h => by
    rw [TypeSettings.inPlace?] at h
    split at h
    · cases h
    · obtain ⟨ending, hName, hEnds⟩ := inPlace?_ends types _ items h
      refine ⟨TypeSettings.itemSuffix ++ ending, by rw [hName, String.append_assoc], ?_⟩
      simpa using itemSuffix_ends.append hEnds
  | hint, .object schema, o, h => by
    rw [TypeSettings.inPlace?] at h
    split at h
    · cases h
    · cases h
      exact ⟨"", String.append_empty.symm, ends_empty⟩
  | _, .leaf .., _, h | _, .params .., _, h | _, .record .., _, h | _, .query .., _, h
  | _, .procedure .., _, h | _, .subscription .., _, h => by simp [TypeSettings.inPlace?] at h

/-- **The name of a nested struct** begins with the name of the declaration that it is nested in;
what is put behind can stand in an identifier exactly if all properties on the way are plain. -/
theorem along_ends {types : TypeSettings} {outline other : Outline} {path : List String}
    (h : Along types outline path other) {name : String} (hName : other.declared? = some name) :
    ∃ first ending, outline.declared? = some first ∧ name = first ++ ending ∧
      Ends ending (∀ property ∈ path, IsPlain property) := by
  induction h generalizing name with
  | here =>
    refine ⟨name, "", hName, String.append_empty.symm, ?_⟩
    simpa using ends_empty
  | @next path owner description schema property o _ _ hObject ih =>
    obtain ⟨first, ending, hFirst, hOwner, hEnds⟩ := ih rfl
    obtain ⟨more, hNested, hMore⟩ := property_ends owner property.1
    obtain ⟨items, hItems, hList⟩ := inPlace?_ends types _ _ hObject
    obtain rfl : o.name = name := Option.some.inj hName
    refine ⟨first, ending ++ (more ++ items), hFirst, ?_, ?_⟩
    · rw [hItems, hNested, hOwner, String.append_assoc, String.append_assoc]
    · have hAll := hEnds.append (hMore.append hList)
      rw [and_true, and_comm, ← List.forall_mem_cons] at hAll
      exact hAll

/-- **Which names can be those of types**: a struct that is nested in a declaration with such a
name, and that has another name, has one itself exactly if all properties on the way to it are
plain. No keyword comes about. -/
theorem along_isTypeName {types : TypeSettings} {outline other : Outline} {path : List String}
    (h : Along types outline path other) {name first : String} (hName : other.declared? = some name)
    (hFirst : outline.declared? = some first) (hWord : IsWord first) (hOther : name ≠ first) :
    IsTypeName name ↔ ∀ property ∈ path, IsPlain property := by
  obtain ⟨found, ending, hFound, rfl, hEnds⟩ := along_ends h hName
  obtain rfl : first = found := Option.some.inj (hFirst.symm.trans hFound)
  have hSome : ending ≠ "" := by
    rintro rfl
    exact hOther String.append_empty
  rw [isTypeName_append hWord hSome hEnds.head, hEnds.namePart]

end Lexicon.Target
