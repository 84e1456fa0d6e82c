import Lexicon.Target.Syntax
import Lexicon.Proofs.Naming.Identifier

/-!
# Lexicon — the words that are handed out

Whatever a wire name looks like, the name that is handed out for it is a word of the language:
letters, digits and underscores, no digit in front, and none of the words that cannot be used
at all.

* `IsWord`            — the form of a word.
* `convert_isWord`    — every conversion is a word.
* `written`, `withoutEscape` — how a word is written, and the word that is written so.
* `handsOut_usable`   — every name that is handed out is a word, and not a word that cannot be
                        used.
* `handsOut_declared_nodup` — identifiers handed out in one scope are written differently.
-/

namespace Lexicon.Target

open Naming

-- ---------------------------------------------------------------------------
-- Words
-- ---------------------------------------------------------------------------

/-- A letter or underscore, and after it letters, digits and underscores. -/
def IsWord (name : String) : Prop :=
  ∃ c rest, name.toList = c :: rest ∧ isNameStart c = true ∧ rest.all isNamePart = true

/-- A character that may stand in a name may open it, unless it is a digit. -/
theorem isNameStart_of_isNamePart {c : Char} (hPart : isNamePart c = true)
    (hDigit : isDecimal c = false) : isNameStart c = true := by
  rw [isNamePart, hDigit, Bool.or_false] at hPart
  exact hPart

theorem isNamePart_of_isNameStart {c : Char} (h : isNameStart c = true) : isNamePart c = true := by
  rw [isNameStart, Bool.or_eq_true, Bool.or_eq_true] at h
  rw [isNamePart, Bool.or_eq_true, Bool.or_eq_true, Bool.or_eq_true]
  tauto

theorem IsWord.all_isNamePart {name : String} (h : IsWord name) :
    name.toList.all isNamePart = true := by
  obtain ⟨c, rest, hChars, hStart, hRest⟩ := h
  rw [hChars, List.all_cons, isNamePart_of_isNameStart hStart, hRest]
  rfl

/-- What is put behind a word leaves it a word. -/
theorem IsWord.append {name ending : String} (h : IsWord name)
    (hEnding : ending.toList.all isNamePart = true) : IsWord (name ++ ending) := by
  obtain ⟨c, rest, hChars, hStart, hRest⟩ := h
  refine ⟨c, rest ++ ending.toList, ?_, hStart, ?_⟩
  · rw [String.toList_append, hChars, List.cons_append]
  · rw [List.all_append, hRest, hEnding]
    rfl

/-- Cleaning leaves a word, whatever was cleaned. -/
theorem cleaned_isWord (name : List Char) : IsWord (String.ofList (cleaned name)) := by
  have hParts : ∀ c ∈ name.map (fun c => if isNamePart c then c else '_'),
      isNamePart c = true := by
    intro c hc
    obtain ⟨d, -, rfl⟩ := List.mem_map.mp hc
    split
    · assumption
    · rfl
  rw [cleaned]
  cases hMapped : name.map (fun c => if isNamePart c then c else '_') with
  | nil => exact ⟨'f', "ield".toList, rfl, rfl, rfl⟩
  | cons c rest =>
    rw [hMapped] at hParts
    have hFirst := hParts c (List.mem_cons_self ..)
    have hRest : rest.all isNamePart = true :=
      List.all_eq_true.mpr fun d hd => hParts d (List.mem_cons_of_mem _ hd)
    dsimp only
    split
    · refine ⟨'_', c :: rest, String.toList_ofList, rfl, ?_⟩
      rw [List.all_cons, hFirst, hRest]
      rfl
    · rename_i hDigit
      exact ⟨c, rest, String.toList_ofList,
        isNameStart_of_isNamePart hFirst (eq_false_of_ne_true hDigit), hRest⟩

theorem convert_isWord (name : String) (style : Style) : IsWord (convert name style) :=
  cleaned_isWord _

-- ---------------------------------------------------------------------------
-- Numbered words
-- ---------------------------------------------------------------------------

theorem isDecimal_of_mem_toString {n : Nat} {c : Char} (h : c ∈ (toString n).toList) :
    isDecimal c = true := by
  rw [Nat.toString_eq_ofList_toDigits, String.toList_ofList] at h
  have hDigit := Nat.isDigit_of_mem_toDigits (by decide) (by decide) h
  simpa [isDecimal, Char.isDigit, Char.le_def] using hDigit

theorem isNamePart_of_isDecimal {c : Char} (h : isDecimal c = true) : isNamePart c = true := by
  rw [isNamePart, h, Bool.or_true, Bool.true_or]

theorem numbered_isWord {name : String} (h : IsWord name) (n : Nat) : IsWord (numbered name n) := by
  rw [numbered]
  refine (h.append rfl).append (List.all_eq_true.mpr fun c hc => ?_)
  exact isNamePart_of_isDecimal (isDecimal_of_mem_toString hc)

/-- A number is no part of a word that cannot be used. -/
theorem numbered_not_mem_unescapable (name : String) (n : Nat) :
    numbered name n ∉ unescapableWords := by
  intro hMem
  have hNoDigit : ∀ word ∈ unescapableWords, word.toList.any isDecimal = false := by decide
  have hDigits : (toString n).toList ≠ [] := by
    rw [Nat.toString_eq_ofList_toDigits, String.toList_ofList]
    exact Nat.toDigits_ne_nil
  obtain ⟨c, hc⟩ := List.exists_mem_of_ne_nil _ hDigits
  have hIn : c ∈ (numbered name n).toList := by
    rw [numbered, String.toList_append]
    exact List.mem_append_right _ hc
  have hAny : (numbered name n).toList.any isDecimal = true :=
    List.any_eq_true.mpr ⟨c, hIn, isDecimal_of_mem_toString hc⟩
  rw [hNoDigit _ hMem] at hAny
  cases hAny

-- ---------------------------------------------------------------------------
-- Permitted words
-- ---------------------------------------------------------------------------

/-- Only the words that cannot be escaped are forbidden. -/
theorem forbids_iff (name : String) : policy.forbids name = true ↔ name ∈ unescapableWords := by
  have hEscape : (policy.escape == "") = false := by decide
  rw [WordPolicy.forbids, hEscape, Bool.and_false, Bool.or_false]
  exact List.contains_iff_mem

theorem permitted_isWord {name : String} (h : IsWord name) : IsWord (policy.permitted name) := by
  rw [WordPolicy.permitted]
  split
  · exact h.append rfl
  · exact h

theorem permitted_not_mem_unescapable (name : String) :
    policy.permitted name ∉ unescapableWords := by
  rw [WordPolicy.permitted]
  split
  · rename_i hForbidden
    have hSuffixed : ∀ word ∈ unescapableWords, word ++ policy.suffix ∉ unescapableWords := by
      decide
    exact hSuffixed name ((forbids_iff name).mp hForbidden)
  · rename_i hAllowed
    exact fun hMem => hAllowed ((forbids_iff name).mpr hMem)

-- ---------------------------------------------------------------------------
-- Written words
-- ---------------------------------------------------------------------------

/-- A word as it is written: behind the escape exactly if it is reserved. -/
def written (name : String) : String := if name ∈ reservedWords then "r#" ++ name else name

/-- The word that is written so. -/
def withoutEscape (declared : String) : String :=
  match declared.toList with
  | 'r' :: '#' :: rest => String.ofList rest
  | _ => declared

theorem IsWord.mark_not_mem {name : String} (h : IsWord name) : '#' ∉ name.toList := by
  intro hMark
  have := List.all_eq_true.mp h.all_isNamePart '#' hMark
  revert this
  decide

/-- A word can be told from how it is written. -/
theorem withoutEscape_written {name : String} (h : IsWord name) :
    withoutEscape (written name) = name := by
  rw [written]
  split
  · rw [withoutEscape, String.toList_append]
    exact String.ofList_toList
  · rw [withoutEscape]
    split
    · rename_i rest hChars
      refine absurd ?_ h.mark_not_mem
      rw [hChars]
      exact List.mem_cons_of_mem _ (List.mem_cons_self ..)
    · rfl

/-- An identifier as it is written: a word that can be used, behind the escape exactly if it
is reserved. -/
def Usable (declared : String) : Prop :=
  ∃ name, IsWord name ∧ name ∉ unescapableWords ∧ declared = written name

-- ---------------------------------------------------------------------------
-- What is handed out
-- ---------------------------------------------------------------------------

theorem escapeFor_append (name : String) : policy.escapeFor name ++ name = written name := by
  have hContains : policy.reserved.contains name = true ↔ name ∈ reservedWords :=
    List.contains_iff_mem
  rw [WordPolicy.escapeFor, written]
  by_cases hReserved : name ∈ reservedWords
  · rw [if_pos hReserved, if_pos (hContains.mpr hReserved)]
    rfl
  · rw [if_neg hReserved, if_neg fun h => hReserved (hContains.mp h), String.empty_append]

/-- **Every name handed out is usable.** -/
theorem handsOut_usable {style : Style} {used wireNames : List String}
    {identifiers : List Identifier} (h : HandsOut policy style used wireNames identifiers) :
    ∀ i ∈ identifiers, IsWord i.name ∧ i.name ∉ unescapableWords ∧ i.declared = written i.name := by
  intro i hi
  obtain ⟨hEscape, hName⟩ := h.mem i hi
  have hWord := permitted_isWord (convert_isWord i.wireName style)
  have hDeclared : i.declared = written i.name := by
    rw [Identifier.declared, hEscape, escapeFor_append]
  rcases hName with hPlain | ⟨k, hNumbered⟩
  · rw [hPlain] at hDeclared ⊢
    exact ⟨hWord, permitted_not_mem_unescapable _, hDeclared⟩
  · rw [hNumbered] at hDeclared ⊢
    exact ⟨numbered_isWord hWord k, numbered_not_mem_unescapable _ k, hDeclared⟩

/-- Identifiers handed out in one scope are written differently. -/
theorem handsOut_declared_nodup {style : Style} {used wireNames : List String}
    {identifiers : List Identifier} (h : HandsOut policy style used wireNames identifiers) :
    (identifiers.map Identifier.declared).Nodup := by
  refine List.Nodup.of_map withoutEscape ?_
  have hNames : (identifiers.map Identifier.declared).map withoutEscape =
      identifiers.map Identifier.name := by
    rw [List.map_map]
    refine List.map_congr_left fun i hi => ?_
    obtain ⟨hWord, -, hDeclared⟩ := handsOut_usable h i hi
    show withoutEscape i.declared = i.name
    rw [hDeclared, withoutEscape_written hWord]
  rw [hNames]
  exact h.names_nodup.1

end Lexicon.Target
