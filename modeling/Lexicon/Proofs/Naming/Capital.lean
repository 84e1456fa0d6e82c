import Lexicon.Naming.Style
import Lexicon.Proofs.Text.Case

/-!
# Lexicon — what the upper case of a character may be

The type name of an object described in place begins with the name of its owner, and ends with the
name of its property, whose first character is put into upper case. By the full Unicode mapping
this may make several characters of one, and letters of ASCII of a few characters that are none.

* `asciiCapitals`       — the characters beyond ASCII whose upper case is in ASCII.
* `upperChar_capitalOf` — the characters whose upper case can stand in an identifier; no upper case
                          has a small letter of ASCII.
* `IsPlain`             — the property names of which every character finds its way into the name.
* `capitalized_all_namePart`, `capitalized_head?` — what a property name adds to a name.
-/

namespace Lexicon.Naming

open Lexicon.Text

-- ---------------------------------------------------------------------------
-- One character
-- ---------------------------------------------------------------------------

/-- The characters beyond ASCII whose upper case is in ASCII: the small sharp s, the dotless i, the
long s, and the ligatures of f and of s. -/
def asciiCapitals : List Char := ['ß', 'ı', 'ſ', 'ﬀ', 'ﬁ', 'ﬂ', 'ﬃ', 'ﬄ', 'ﬅ', 'ﬆ']

/-- A run of the upper-case mapping that leads to ASCII from beyond moves a single character. -/
theorem upperRuns_table : ∀ run ∈ upperRuns.toList, run.isPlain = true ∧
    (128 ≤ run.image run.first ∨ run.last < 128 ∨
      run.first = run.last ∧ Char.ofNat run.first ∈ asciiCapitals) := by
  decide +kernel

/-- What the upper case of a character may be: its characters can stand in an identifier if it can
itself or is one of those that lead there, and not otherwise, and none of them is a small letter. -/
structure CapitalOf (c : Char) (image : List Char) : Prop where
  ne_nil : image ≠ []
  all_namePart : image.all isNamePart = true ↔ isNamePart c = true ∨ c ∈ asciiCapitals
  not_small : ∀ d ∈ image, isSmall d = false

instance (c : Char) (image : List Char) : Decidable (CapitalOf c image) :=
  decidable_of_iff (image ≠ [] ∧
      (image.all isNamePart = true ↔ isNamePart c = true ∨ c ∈ asciiCapitals) ∧
      image.any isSmall = false)
    ⟨fun ⟨hSome, hParts, hSmall⟩ => ⟨hSome, hParts, by simpa using hSmall⟩,
      fun h => ⟨h.ne_nil, h.all_namePart, by simpa using h.not_small⟩⟩

theorem capitalOf_ascii : ∀ n < 128, CapitalOf (Char.ofNat n) [(Char.ofNat n).toUpper] := by
  decide +kernel

theorem upperWide_capitalOf :
    ∀ e ∈ upperWide.toList, CapitalOf (Char.ofNat e.1) (e.2.map Char.ofNat) := by
  decide +kernel

theorem asciiCapitals_capitalOf : ∀ c ∈ asciiCapitals, CapitalOf c (upperChar c) := by
  have hAll : (asciiCapitals.all fun c => decide (CapitalOf c (upperChar c))) = true := by
    decide +kernel
  exact fun c hc => of_decide_eq_true (List.all_eq_true.mp hAll c hc)

/-- What can stand in an identifier is in ASCII. -/
theorem isNamePart_ascii {c : Char} (h : isNamePart c = true) : c.toNat < 128 := by
  simp only [isNamePart, isCapital, isSmall, isDecimal, Bool.or_eq_true, Bool.and_eq_true,
    decide_eq_true_eq, beq_iff_eq, Char.le_def, UInt32.le_iff_toNat_le] at h
  rcases h with ((⟨-, h⟩ | ⟨-, h⟩) | ⟨-, h⟩) | rfl
  · exact Nat.lt_of_le_of_lt h (by decide)
  · exact Nat.lt_of_le_of_lt h (by decide)
  · exact Nat.lt_of_le_of_lt h (by decide)
  · decide

/-- An image beyond ASCII is no part of an identifier, and no small letter of ASCII. -/
theorem capitalOf_beyond {c d : Char} (hc : 128 ≤ c.toNat) (hOther : c ∉ asciiCapitals)
    (hd : 128 ≤ d.toNat) : CapitalOf c [d] := by
  have hParts : ∀ e : Char, 128 ≤ e.toNat → isNamePart e = false := fun e he =>
    eq_false_of_ne_true fun hPart => Nat.not_lt.mpr he (isNamePart_ascii hPart)
  refine ⟨List.cons_ne_nil _ _, ?_, fun e he => ?_⟩
  · simp [hParts c hc, hParts d hd, hOther]
  · rw [List.mem_singleton.mp he]
    have hPart := hParts d hd
    simp only [isNamePart, Bool.or_eq_false_iff] at hPart
    exact hPart.1.1.2

/-- The runs of the upper-case mapping lead from beyond ASCII to beyond ASCII, but for the
characters that are listed. -/
theorem moved?_beyond {c d : Char} (hc : 128 ≤ c.toNat) (hOther : c ∉ asciiCapitals)
    (h : moved? upperRuns c = some d) : 128 ≤ d.toNat := by
  obtain ⟨run, hRun, hCovers, rfl⟩ := exists_of_moved? h
  obtain ⟨hPlain, hTable⟩ := upperRuns_table run hRun
  rw [toNat_image hPlain hCovers]
  obtain ⟨hFirst, hLast, -⟩ := hCovers
  rcases hTable with hImage | hInside | ⟨hSingle, hCapital⟩
  · rw [CaseRun.image] at hImage ⊢
    omega
  · omega
  · -- the single character of the run would be one of those listed
    rw [show run.first = c.toNat by omega, Char.ofNat_toNat] at hCapital
    exact absurd hCapital hOther

/-- **What the upper case of a character may be.** -/
theorem upperChar_capitalOf (c : Char) : CapitalOf c (upperChar c) := by
  by_cases hOther : c ∈ asciiCapitals
  · exact asciiCapitals_capitalOf c hOther
  rw [upperChar]
  split
  · rename_i hAscii
    have hCapital := capitalOf_ascii c.toNat (of_decide_eq_true hAscii)
    rwa [Char.ofNat_toNat] at hCapital
  · rename_i hAscii
    have hBeyond : 128 ≤ c.toNat := Nat.not_lt.mp (mt decide_eq_true hAscii)
    split
    · rename_i image hWide
      obtain ⟨e, hFind, rfl⟩ := Option.map_eq_some_iff.mp hWide
      have hSame := Array.find?_some hFind
      have hCapital := upperWide_capitalOf e
        (Array.mem_toList_iff.mpr (Array.mem_of_find?_eq_some hFind))
      rwa [beq_iff_eq.mp hSame, Char.ofNat_toNat] at hCapital
    · cases hMoved : moved? upperRuns c with
      | none => exact capitalOf_beyond hBeyond hOther hBeyond
      | some d => exact capitalOf_beyond hBeyond hOther (moved?_beyond hBeyond hOther hMoved)

-- ---------------------------------------------------------------------------
-- Property names
-- ---------------------------------------------------------------------------

/-- Can the character of a property name stand in the name of a type? Hyphens and dots are written
as underscores. -/
def isPlainChar (c : Char) : Bool := isNamePart c || c == '-' || c == '.'

/-- Does a property name make a part of an identifier, if its first character is put into upper
case? -/
def isPlain : List Char → Bool
  | [] => true
  | c :: rest => (isPlainChar c || asciiCapitals.contains c) && rest.all isPlainChar

/-- A property name all of whose characters are taken over into the name of a type, or have an
upper case that is. -/
def IsPlain (property : String) : Prop := isPlain property.toList = true

instance (property : String) : Decidable (IsPlain property) :=
  inferInstanceAs (Decidable (_ = true))

/-- What a property name adds to the name of a type. -/
def capitalized (property : String) : List Char := withCapital (underscored property.toList)

/-- Hyphens and dots are among the plain characters, and lead nowhere else. -/
theorem underscored_char (c : Char) : let d := if c = '-' || c = '.' then '_' else c
    isNamePart d = isPlainChar c ∧ (d ∈ asciiCapitals ↔ c ∈ asciiCapitals) := by
  by_cases hHyphen : c = '-'
  · rw [hHyphen]
    decide
  by_cases hDot : c = '.'
  · rw [hDot]
    decide
  simp [hHyphen, hDot, isPlainChar, beq_false_of_ne hHyphen, beq_false_of_ne hDot]

/-- **What a property name adds** can stand in an identifier exactly if the property name is
plain. -/
theorem capitalized_all_namePart (property : String) :
    (capitalized property).all isNamePart = true ↔ IsPlain property := by
  rw [capitalized, IsPlain, underscored]
  cases property.toList with
  | nil => simp [withCapital, isPlain]
  | cons c rest =>
    have hRest : (rest.map fun c => if c = '-' || c = '.' then '_' else c).all isNamePart =
        rest.all isPlainChar := by
      rw [List.all_map]
      exact congrArg rest.all (funext fun d => (underscored_char d).1)
    obtain ⟨hFirst, hCapital⟩ := underscored_char c
    rw [List.map_cons]
    generalize (if c = '-' || c = '.' then '_' else c) = d at hFirst hCapital ⊢
    rw [withCapital, List.all_append, hRest, isPlain, Bool.and_eq_true, Bool.and_eq_true,
      Bool.or_eq_true, List.contains_iff_mem, (upperChar_capitalOf d).all_namePart, hFirst,
      hCapital]

/-- It begins with no small letter. -/
theorem capitalized_head? (property : String) :
    ∀ c ∈ (capitalized property).head?, isSmall c = false := by
  intro c hc
  rw [capitalized] at hc
  cases hChars : underscored property.toList with
  | nil =>
    rw [hChars] at hc
    cases hc
  | cons d rest =>
    obtain ⟨hSome, -, hSmall⟩ := upperChar_capitalOf d
    obtain ⟨e, image, hImage⟩ := List.exists_cons_of_ne_nil hSome
    rw [hChars, withCapital, hImage] at hc
    refine hSmall c ?_
    rw [hImage, ← Option.some.inj hc]
    exact List.mem_cons_self ..

end Lexicon.Naming
