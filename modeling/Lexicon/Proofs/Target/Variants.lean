import Lexicon.Target.Outline

/-!
# Lexicon — the variants of a union

The members of a union are references, and several of them can end in the same name. The first
member of each name makes a variant, and every later one a finding. Both are collected on one walk
with the names seen so far; here they are told from the list of members alone.

* `variantNames_eq`     — the variants have the names of the members, each at its first place.
* `repetitions`         — the members whose name a member before them has.
* `variantFindings_eq`  — there is one finding for each of these, in their order.
* `length_variants_add` — every member is a variant or a repetition.
-/

namespace Lexicon.Target

/-- The variants beside some names seen before: the names of the members that are none of these,
each at its first place. -/
theorem variantNames_eq (seen references : List String) :
    variantNames seen references =
      ((references.map Naming.tail).filter fun name => !seen.contains name).eraseDups := by
  induction references generalizing seen with
  | nil => rfl
  | cons reference rest ih =>
    rw [variantNames, List.map_cons, List.filter_cons]
    cases hSeen : seen.contains (Naming.tail reference) with
    | true => exact ih seen
    | false =>
      -- the name joins those seen, and goes from what is left of the list
      have hLeft : ∀ name, (!(Naming.tail reference :: seen).contains name) =
          (!(name == Naming.tail reference) && !seen.contains name) := by
        intro name
        rw [List.contains_cons, Bool.not_or]
      rw [if_neg Bool.false_ne_true, Bool.not_false, if_pos rfl, ih, List.eraseDups_cons,
        List.filter_filter]
      simp only [hLeft]

/-- Has a member before the given place the name of the member that is there? -/
def repeats (references : List String) (place : String × Nat) : Bool :=
  ((references.take place.2).map Naming.tail).contains (Naming.tail place.1)

/-- The members of a union whose name a member before them has, in their order. -/
def repetitions (references : List String) : List String :=
  (references.zipIdx.filter (repeats references)).map Prod.fst

/-- The finding about a member whose name was met before. -/
def repetitionFinding (reference : String) : Finding :=
  .sameVariant (Naming.tail reference) reference

/-- The findings about the members behind some others, whose names have been seen. -/
theorem variantFindings_behind (before references : List String) {seen : List String}
    (hSeen : ∀ name, name ∈ seen ↔ name ∈ before.map Naming.tail) :
    variantFindings seen references =
      ((references.zipIdx before.length).filter (repeats (before ++ references))).map
        fun place => repetitionFinding place.1 := by
  induction references generalizing before seen with
  | nil => rfl
  | cons reference rest ih =>
    have hMet : repeats (before ++ reference :: rest) (reference, before.length) =
        seen.contains (Naming.tail reference) := by
      rw [repeats, List.take_left, Bool.eq_iff_iff, List.contains_iff_mem, List.contains_iff_mem]
      exact (hSeen _).symm
    rw [variantFindings, List.zipIdx_cons, List.filter_cons, hMet]
    cases hTest : seen.contains (Naming.tail reference) with
    | true =>
      -- the name is among those seen already
      have hSame : ∀ name, name ∈ seen ↔ name ∈ (before ++ [reference]).map Naming.tail := by
        intro name
        rw [List.map_append, List.mem_append, List.map_singleton, List.mem_singleton, ← hSeen,
          or_iff_left_of_imp]
        rintro rfl
        exact List.contains_iff_mem.mp hTest
      rw [if_pos rfl, if_pos rfl, ih (before ++ [reference]) hSame, List.append_assoc,
        List.singleton_append, List.length_append, List.length_singleton]
      rfl
    | false =>
      have hMore : ∀ name, name ∈ Naming.tail reference :: seen ↔
          name ∈ (before ++ [reference]).map Naming.tail := by
        intro name
        rw [List.map_append, List.mem_append, List.map_singleton, List.mem_singleton,
          List.mem_cons, hSeen, or_comm]
      rw [if_neg Bool.false_ne_true, if_neg Bool.false_ne_true, ih (before ++ [reference]) hMore,
        List.append_assoc, List.singleton_append, List.length_append, List.length_singleton]

/-- **One finding for each repetition**, in their order. -/
theorem variantFindings_eq (references : List String) :
    variantFindings [] references = (repetitions references).map repetitionFinding := by
  rw [variantFindings_behind [] references (by simp), repetitions, List.map_map]
  rfl

/-- Every member is a variant or a repetition. -/
theorem length_variants_add (seen references : List String) :
    (variantFindings seen references).length + (variantNames seen references).length =
      references.length := by
  induction references generalizing seen with
  | nil => rfl
  | cons reference rest ih =>
    rw [variantFindings, variantNames]
    split
    · rw [List.length_cons, List.length_cons, ← ih seen]
      omega
    · rw [List.length_cons, List.length_cons, ← ih (Naming.tail reference :: seen)]
      omega

end Lexicon.Target
