import Mathlib.Data.List.TakeWhile
import Mathlib.Tactic.Common
import Lexicon.Naming.Reference

/-!
# Lexicon — references and their parts

A reference says at most two things: a document, before its first mark, and a name behind it. Where
the index looks at texts that were joined, and a tail is what follows the last mark, it is told here
by the two parts.

* `documentPart`, `namePart` — the parts of a reference, with what stands for a missing one.
* `head_qualified`, `tail_qualified` — a full name begins as its document and ends as its name.
* `qualified_inj`            — full names of documents without a mark are told apart.
* `canonical_eq_qualified`   — the full form of a reference joins its parts.
* `documentOf_eq_iff`        — when the document that is looked for is the document part.
* `tail_eq_iff`              — when a reference ends in the name that it leads to.
-/

namespace Lexicon.Naming

-- ---------------------------------------------------------------------------
-- Marks
-- ---------------------------------------------------------------------------

theorem qualified_toList (document name : String) :
    (qualified document name).toList = document.toList ++ mark :: name.toList := by
  rw [qualified, String.toList_append, String.toList_append, List.append_assoc]
  rfl

/-- A text without a mark is its own head. -/
theorem head_eq_self_iff (text : String) : head text = text ↔ mark ∉ text.toList := by
  rw [head, ← String.toList_inj, String.toList_ofList, List.takeWhile_eq_self_iff]
  constructor
  · intro hAll hMark
    simpa using hAll mark hMark
  · intro hMark c hc
    simpa using fun hSame : c = mark => hMark (hSame ▸ hc)

/-- No head has a mark. -/
theorem mark_not_mem_head (text : String) : mark ∉ (head text).toList := by
  rw [head, String.toList_ofList]
  intro hMark
  simpa using List.mem_takeWhile_imp hMark

/-- A text without a mark is its own tail. -/
theorem tail_eq_self_iff (text : String) : tail text = text ↔ mark ∉ text.toList := by
  rw [tail, ← String.toList_inj, String.toList_ofList, List.reverse_eq_iff,
    List.takeWhile_eq_self_iff]
  constructor
  · intro hAll hMark
    simpa using hAll mark (List.mem_reverse.mpr hMark)
  · intro hMark c hc
    simpa using fun hSame : c = mark => hMark (hSame ▸ List.mem_reverse.mp hc)

/-- Behind a mark nothing changes what stands before the first one. -/
theorem takeWhile_append_mark (before after : List Char) :
    (before ++ mark :: after).takeWhile (· != mark) = before.takeWhile (· != mark) := by
  induction before with
  | nil => simp
  | cons c rest ih =>
    rw [List.cons_append, List.takeWhile_cons, List.takeWhile_cons, ih]

/-- **A full name begins as its document does.** -/
theorem head_qualified (document name : String) : head (qualified document name) = head document := by
  rw [head, head, qualified_toList, takeWhile_append_mark]

/-- **A full name ends as its name does.** -/
theorem tail_qualified (document name : String) : tail (qualified document name) = tail name := by
  rw [tail, tail, qualified_toList, List.reverse_append, List.reverse_cons, List.append_assoc,
    List.singleton_append, takeWhile_append_mark]

/-- Marks of a full name. -/
theorem count_qualified (document name : String) :
    (qualified document name).toList.count mark =
      document.toList.count mark + name.toList.count mark + 1 := by
  rw [qualified_toList, List.count_append, List.count_cons_self, Nat.add_assoc]

/-- **Full names are told apart**, if the ids of their documents have no mark. -/
theorem qualified_inj {document other name name' : String} (hDocument : mark ∉ document.toList)
    (hOther : mark ∉ other.toList) (h : qualified document name = qualified other name') :
    document = other ∧ name = name' := by
  have hHead := congrArg head h
  rw [head_qualified, head_qualified, (head_eq_self_iff _).mpr hDocument,
    (head_eq_self_iff _).mpr hOther] at hHead
  subst hHead
  exact ⟨rfl, (String.append_right_inj _).mp h⟩

-- ---------------------------------------------------------------------------
-- Parts
-- ---------------------------------------------------------------------------

/-- What follows the first mark of a text. -/
def afterMark (text : String) : String :=
  String.ofList (text.toList.dropWhile (· != mark)).tail

/-- The document part of a reference: what goes before its first mark, or the document that it is
made in if the mark comes first. -/
def documentPart (reference document : String) : String :=
  if reference.toList.head? = some mark then document else head reference

/-- The name part of a reference: what follows its first mark, or the name that stands for a missing
one. -/
def namePart (reference : String) : String :=
  if mark ∈ reference.toList then afterMark reference else mainName

/-- A text with a mark is what goes before the first one, the mark, and what follows. -/
theorem qualified_head {text : String} (hMark : mark ∈ text.toList) :
    qualified (head text) (afterMark text) = text := by
  have hSome : text.toList.dropWhile (· != mark) ≠ [] := by
    intro hNone
    simpa using List.dropWhile_eq_nil_iff.mp hNone mark hMark
  have hBehind : mark :: (text.toList.dropWhile (· != mark)).tail =
      text.toList.dropWhile (· != mark) := by
    have hFirst := List.head_dropWhile_not (· != mark) hSome
    have hParts := List.cons_head_tail hSome
    rwa [bne_eq_false_iff_eq.mp hFirst] at hParts
  rw [← String.toList_inj, qualified_toList, head, afterMark, String.toList_ofList,
    String.toList_ofList, hBehind, List.takeWhile_append_dropWhile]

/-- **The full form of a reference** joins its parts. -/
theorem canonical_eq_qualified (reference document : String) :
    canonical reference document = qualified (documentPart reference document) (namePart reference) := by
  rw [canonical, documentPart, namePart]
  by_cases hFirst : reference.toList.head? = some mark
  · have hMark : mark ∈ reference.toList := List.mem_of_head? hFirst
    have hHead : head reference = "" := by
      obtain ⟨rest, hRest⟩ := List.head?_eq_some_iff.mp hFirst
      rw [head, hRest, List.takeWhile_cons_of_neg (by simp)]
    rw [if_pos hFirst, if_pos hFirst, if_pos hMark]
    conv_lhs => rw [← qualified_head hMark, hHead]
    rw [qualified, qualified, String.empty_append, String.append_assoc]
  · rw [if_neg hFirst, if_neg hFirst]
    by_cases hMark : mark ∈ reference.toList
    · rw [if_pos (List.contains_iff_mem.mpr hMark), if_pos hMark, qualified_head hMark]
    · rw [if_neg (mt List.contains_iff_mem.mp hMark), if_neg hMark,
        (head_eq_self_iff _).mpr hMark]

/-- **The document that a reference is found to point into** is its document part, unless that has a
mark. -/
theorem documentOf_eq_iff (reference document : String) :
    documentOf reference document = documentPart reference document ↔
      mark ∉ (documentPart reference document).toList := by
  rw [documentOf, canonical_eq_qualified, head_qualified, head_eq_self_iff]

/-- The parts of a reference to a definition of the document that it is made in. -/
theorem documentPart_local (name document : String) :
    documentPart (qualified "" name) document = document := by
  rw [documentPart, qualified_toList]
  exact if_pos rfl

theorem namePart_local (name : String) : namePart (qualified "" name) = name := by
  have hMark : mark ∈ (qualified "" name).toList := by
    rw [qualified_toList]
    exact List.mem_append_right _ List.mem_cons_self
  rw [namePart, if_pos hMark, afterMark, qualified_toList, String.toList_empty, List.nil_append,
    List.dropWhile_cons_of_neg (by simp), List.tail_cons, String.ofList_toList]

/-- The document part of a reference has no mark, unless it is that of the document that the
reference is made in. -/
theorem documentPart_cases (reference document : String) :
    documentPart reference document = document ∨
      mark ∉ (documentPart reference document).toList := by
  rw [documentPart]
  split
  · exact .inl rfl
  · exact .inr (mark_not_mem_head reference)

-- ---------------------------------------------------------------------------
-- Names that references end in
-- ---------------------------------------------------------------------------

theorem mark_not_mem_mainName : mark ∉ mainName.toList := by decide

/-- A reference with a mark ends as its name part does. -/
theorem tail_eq_tail_namePart {reference : String} (hMark : mark ∈ reference.toList) :
    tail reference = tail (namePart reference) := by
  conv_lhs => rw [← qualified_head hMark, tail_qualified]
  rw [namePart, if_pos hMark]

/-- A reference without a mark leads to the main definition of the document of that id, and can be
read as no other full name. -/
theorem eq_main_of_canonical {reference document target name : String}
    (hMark : mark ∉ reference.toList) (h : canonical reference document = qualified target name) :
    target = reference ∧ name = mainName := by
  have hFirst : ¬ reference.toList.head? = some mark := fun h => hMark (List.mem_of_head? h)
  rw [canonical_eq_qualified, documentPart, namePart, if_neg hFirst, if_neg hMark,
    (head_eq_self_iff _).mpr hMark] at h
  have hCount := congrArg (fun text : String => text.toList.count mark) h
  simp only [count_qualified, List.count_eq_zero.mpr hMark,
    List.count_eq_zero.mpr mark_not_mem_mainName] at hCount
  have hTarget : mark ∉ target.toList := List.count_eq_zero.mp (by omega)
  obtain ⟨hSame, hName⟩ := qualified_inj hMark hTarget h
  exact ⟨hSame.symm, hName.symm⟩

/-- **A reference ends in the name that it leads to** if it has a mark and the name has none. Without
a mark it leads to the main definition, and ends in that name only if it is that name. -/
theorem tail_eq_iff {reference document target name : String}
    (h : canonical reference document = qualified target name) :
    tail reference = name ↔
      (mark ∈ reference.toList ∧ mark ∉ name.toList) ∨ reference = mainName := by
  by_cases hMark : mark ∈ reference.toList
  · have hTail : tail reference = tail name := by
      have hSame := congrArg tail h
      rwa [canonical_eq_qualified, tail_qualified, tail_qualified,
        ← tail_eq_tail_namePart hMark] at hSame
    have hOther : reference ≠ mainName := fun hMain => mark_not_mem_mainName (hMain ▸ hMark)
    rw [hTail, tail_eq_self_iff, iff_true_intro hMark, true_and, or_iff_left hOther]
  · obtain ⟨-, rfl⟩ := eq_main_of_canonical hMark h
    rw [(tail_eq_self_iff _).mpr hMark, or_iff_right fun hBoth => hMark hBoth.1]

end Lexicon.Naming
