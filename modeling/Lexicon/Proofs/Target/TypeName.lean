import Lexicon.Proofs.Target.Word

/-!
# Lexicon — the names of types

Fields and variants are renamed until they are words of the language; types are not. A definition
gives its name to its type as it is, after a look at the form of the name, and the name of a type
of an object described in place is made from the name of another type.

* `IsTypeName`        — a word that can be used without an escape.
* `isIdentifier_iff`  — the names that have the form: words, and words before a line feed.
* `isTypeName_append` — a longer name; the way it goes on keeps it from being a keyword.
-/

namespace Lexicon.Target

open Naming

/-- A name that can be that of a type, as it is: a word, and none of the keywords. -/
def IsTypeName (name : String) : Prop :=
  IsWord name ∧ name ∉ reservedWords ∧ name ∉ unescapableWords

instance (name : String) : Decidable (IsWord name) :=
  decidable_of_iff (name.toList.head?.any isNameStart = true ∧
      name.toList.tail.all isNamePart = true) <| by
    rw [IsWord]
    cases name.toList <;> simp

instance (name : String) : Decidable (IsTypeName name) :=
  inferInstanceAs (Decidable (_ ∧ _ ∧ _))

/-- **The names that have the form** of an identifier are the words, and the words with a line feed
behind them. -/
theorem isIdentifier_iff (name : String) : isIdentifier name.toList = true ↔
    IsWord name ∨ ∃ word, IsWord word ∧ name = word ++ "\n" := by
  constructor
  · intro h
    unfold isIdentifier at h
    split at h
    · cases h
    · rename_i c rest hChars
      obtain ⟨hStart, hTail⟩ := Bool.and_eq_true_iff.mp h
      split at hTail
      · rename_i hLast
        obtain ⟨front, rfl⟩ := List.getLast?_eq_some_iff.mp hLast
        rw [List.dropLast_concat] at hTail
        refine .inr ⟨String.ofList (c :: front),
          ⟨c, front, String.toList_ofList, hStart, hTail⟩, String.toList_inj.mp ?_⟩
        rw [hChars, String.toList_append, String.toList_ofList]
        rfl
      · exact .inl ⟨c, rest, hChars, hStart, hTail⟩
  · rintro (⟨c, rest, hChars, hStart, hRest⟩ | ⟨word, ⟨c, rest, hChars, hStart, hRest⟩, rfl⟩)
    · have hLast : rest.getLast? ≠ some '\n' := by
        intro hLast
        have hPart := List.all_eq_true.mp hRest '\n' (List.mem_of_getLast? hLast)
        cases hPart
      rw [hChars, isIdentifier, if_neg hLast, hStart, hRest]
      rfl
    · have hLast : (rest ++ "\n".toList).getLast? = some '\n' := List.getLast?_concat
      have hFront : (rest ++ "\n".toList).dropLast = rest := List.dropLast_concat
      rw [String.toList_append, hChars, List.cons_append, isIdentifier, if_pos hLast, hFront,
        hStart, hRest]
      rfl

-- ---------------------------------------------------------------------------
-- Longer names
-- ---------------------------------------------------------------------------

/-- Behind its first character, a keyword has small letters only. -/
theorem keyword_tail_small :
    ∀ word ∈ reservedWords ++ unescapableWords, word.toList.tail.all isSmall = true := by
  decide

/-- **A longer name**: what is put behind a word makes another name of a type of it, if it consists
of letters, digits and underscores and begins with no small letter. -/
theorem isTypeName_append {name ending : String} (hName : IsWord name) (hEnding : ending ≠ "")
    (hHead : ∀ c ∈ ending.toList.head?, isSmall c = false) :
    IsTypeName (name ++ ending) ↔ ending.toList.all isNamePart = true := by
  refine ⟨fun h => ?_, fun h => ⟨hName.append h, ?_⟩⟩
  · have hAll := h.1.all_isNamePart
    rw [String.toList_append, List.all_append, Bool.and_eq_true] at hAll
    exact hAll.2
  · -- a keyword would go on with a small letter
    obtain ⟨c, rest, hChars, -⟩ := hName
    obtain ⟨d, more, hMore⟩ := List.exists_cons_of_ne_nil (mt String.toList_eq_nil_iff.mp hEnding)
    have hOther : name ++ ending ∉ reservedWords ++ unescapableWords := by
      intro hKeyword
      have hSmall := keyword_tail_small _ hKeyword
      rw [String.toList_append, hChars, hMore, List.cons_append, List.tail_cons, List.all_append,
        List.all_cons, hHead d (by rw [hMore]; rfl)] at hSmall
      simp at hSmall
    rwa [List.mem_append, not_or] at hOther

end Lexicon.Target
