import Mathlib.Data.List.Destutter
import Lexicon.Proofs.Naming.Capital
import Lexicon.Proofs.Text.NormalForm

/-!
# Lexicon — words in small letters

The words of a name are found by putting underscores between them, and lower case, the squeezing
of underscores and their removal at the ends follow. Each of these steps is told here by what it
does to the characters that are no underscores, and by what it leaves alone.

* `letters`               — the characters of a text that are no underscores.
* `letters_split`         — finding the words of a name moves none of them.
* `squeeze_eq_destutter`  — squeezing leaves out what follows its like.
* `IsJoined`              — words without capitals, with single underscores between them.
* `bare`                  — a text without the underscores at its ends.
* `snakeBody_isJoined`    — what follows the leading underscores is of this form.
* `snake_eq_self`         — what is of this form and in lower case is left as it is.
* `letters_snake`         — of a name in ASCII the letters and digits are kept, in lower case.
* `snake_joined`          — all of it.
-/

namespace Lexicon.Naming

open Lexicon.Text

-- ---------------------------------------------------------------------------
-- Letters
-- ---------------------------------------------------------------------------

/-- The characters of a text that are no underscores. -/
def letters (text : List Char) : List Char := text.filter fun c => !isUnderscore c

@[simp] theorem letters_nil : letters [] = [] := rfl

@[simp] theorem letters_append (a b : List Char) : letters (a ++ b) = letters a ++ letters b :=
  List.filter_append ..

theorem letters_cons (c : Char) (text : List Char) :
    letters (c :: text) = if isUnderscore c then letters text else c :: letters text := by
  by_cases h : isUnderscore c = true
  · simp [letters, h]
  · simp [letters, h]

@[simp] theorem letters_mark (text : List Char) : letters ('_' :: text) = letters text := rfl

theorem letters_eq_nil {text : List Char} (h : ∀ c ∈ text, isUnderscore c = true) :
    letters text = [] := by
  simpa [letters] using h

theorem mem_letters {c : Char} {text : List Char} :
    c ∈ letters text ↔ c ∈ text ∧ c ≠ '_' := by
  simp [letters, isUnderscore]

/-- What stands in a text whose letters are known. -/
theorem mem_of_letters_eq {a b : List Char} (h : letters a = letters b) {c : Char} (hc : c ∈ a) :
    c = '_' ∨ c ∈ b := by
  by_cases hMark : c = '_'
  · exact Or.inl hMark
  · have hLetter : c ∈ letters a := mem_letters.mpr ⟨hc, hMark⟩
    rw [h] at hLetter
    exact Or.inr (mem_letters.mp hLetter).1

theorem letters_takeWhile (text : List Char) : letters (text.takeWhile isUnderscore) = [] :=
  letters_eq_nil (List.all_eq_true.mp List.all_takeWhile)

theorem letters_dropWhile (text : List Char) :
    letters (text.dropWhile isUnderscore) = letters text := by
  conv_rhs => rw [← List.takeWhile_append_dropWhile (p := isUnderscore) (l := text)]
  rw [letters_append, letters_takeWhile, List.nil_append]

theorem letters_dropEnd (text : List Char) :
    letters (dropEnd isUnderscore text) = letters text := by
  obtain ⟨dropped, hText, hDropped⟩ := exists_dropEnd_append isUnderscore text
  conv_rhs => rw [hText]
  rw [letters_append, letters_eq_nil hDropped, List.append_nil]

-- ---------------------------------------------------------------------------
-- Finding words
-- ---------------------------------------------------------------------------

theorem letters_splitHumps (name : List Char) : letters (splitHumps name) = letters name := by
  fun_induction splitHumps name with
  | case1 c d rest _ ih => rw [letters_cons, letters_mark, ih, ← letters_cons]
  | case2 c d rest _ ih => rw [letters_cons, ih, ← letters_cons]
  | case3 rest => rfl

theorem letters_splitAcronyms (name : List Char) : letters (splitAcronyms name) = letters name := by
  fun_induction splitAcronyms name with
  | case1 c d e rest _ ih => rw [letters_cons, letters_mark, ih, ← letters_cons]
  | case2 c d e rest _ ih => rw [letters_cons, ih, ← letters_cons]
  | case3 rest => rfl

/-- **Finding the words** of a name puts underscores into it, and nothing else. -/
theorem letters_split (name : List Char) :
    letters (splitAcronyms (splitHumps name)) = letters name := by
  rw [letters_splitAcronyms, letters_splitHumps]

/-- Without capitals there is no border of words to be found. -/
theorem splitHumps_eq_self {name : List Char} (h : ∀ c ∈ name, isCapital c = false) :
    splitHumps name = name := by
  fun_induction splitHumps name with
  | case1 c d rest hBorder ih => simp [h d (by simp)] at hBorder
  | case2 c d rest _ ih => rw [ih fun e he => h e (List.mem_cons_of_mem _ he)]
  | case3 rest => rfl

theorem splitAcronyms_eq_self {name : List Char} (h : ∀ c ∈ name, isCapital c = false) :
    splitAcronyms name = name := by
  fun_induction splitAcronyms name with
  | case1 c d e rest hBorder ih => simp [h d (by simp)] at hBorder
  | case2 c d e rest _ ih => rw [ih fun f hf => h f (List.mem_cons_of_mem _ hf)]
  | case3 rest => rfl

-- ---------------------------------------------------------------------------
-- Lower case
-- ---------------------------------------------------------------------------

/-- No capital of ASCII is its own lower case. -/
theorem capitals_table : ∀ n < 128,
    isCapital (Char.ofNat n) = true → (Char.ofNat n).toLower ≠ Char.ofNat n := by
  decide +kernel

/-- In ASCII the lower case of a letter or digit is one, and that of the underscore is itself. -/
theorem underscore_table : ∀ n < 128,
    isUnderscore (Char.ofNat n).toLower = isUnderscore (Char.ofNat n) := by
  decide +kernel

/-- What is in lower case is no capital. -/
theorem not_isCapital_of_lowerChar {c : Char} (h : lowerChar c = [c]) : isCapital c = false := by
  refine eq_false_of_ne_true fun hCapital => ?_
  have hAscii : c.toNat < 128 := isNamePart_ascii (by simp [isNamePart, hCapital])
  have hLower : lowerChar c = [c.toLower] := by simp [lowerChar, isAscii, hAscii]
  have hOther := capitals_table c.toNat hAscii
  rw [Char.ofNat_toNat] at hOther
  rw [hLower] at h
  exact hOther hCapital (List.singleton_inj.mp h)

/-- In ASCII lower case is a matter of single characters. -/
theorem lowerAfter_ascii {before text : List Char} (h : ∀ c ∈ text, isAscii c = true) :
    lowerAfter before text = text.map Char.toLower := by
  induction text generalizing before with
  | nil => rfl
  | cons c rest ih =>
    have hHead : isAscii c = true := h c (by simp)
    have hSigma : c ≠ capitalSigma := by
      rintro rfl
      exact absurd hHead (by decide)
    rw [lowerAfter, if_neg hSigma, lowerChar, if_pos hHead, ih fun d hd => h d (by simp [hd])]
    rfl

/-- In ASCII the letters of the lower case are the lower case of the letters. -/
theorem letters_lower {text : List Char} (h : ∀ c ∈ text, isAscii c = true) :
    letters (lower text) = (letters text).map Char.toLower := by
  rw [lower, lowerAfter_ascii h, letters, letters, List.filter_map]
  congr 1
  refine List.filter_congr fun c hc => ?_
  have hSame := underscore_table c.toNat (of_decide_eq_true (h c hc))
  rw [Char.ofNat_toNat] at hSame
  simp [hSame]

-- ---------------------------------------------------------------------------
-- Squeezing
-- ---------------------------------------------------------------------------

/-- Of two neighbours one is no underscore. -/
def Parted (c d : Char) : Prop := ¬ (c = '_' ∧ d = '_')

instance : DecidableRel Parted := fun c d => inferInstanceAs (Decidable (¬ (c = '_' ∧ d = '_')))

theorem squeeze_cons (c : Char) (rest : List Char) :
    squeeze (c :: rest) = rest.destutter' Parted c := by
  induction rest generalizing c with
  | nil => simp [squeeze]
  | cons d later ih =>
    rw [squeeze, ih]
    by_cases hParted : Parted c d
    · rw [List.destutter'_cons_pos later hParted, if_neg]
      simpa [Parted] using hParted
    · -- both are underscores, so it makes no difference which one is left out
      obtain ⟨rfl, rfl⟩ := not_not.mp hParted
      rw [List.destutter'_cons_neg later hParted, if_pos (by simp)]

/-- **Squeezing** leaves out what is no different from its neighbour. -/
theorem squeeze_eq_destutter (text : List Char) : squeeze text = text.destutter Parted := by
  cases text with
  | nil => rfl
  | cons c rest => rw [squeeze_cons, List.destutter_cons']

theorem squeeze_parted (text : List Char) : (squeeze text).IsChain Parted := by
  rw [squeeze_eq_destutter]
  exact List.isChain_destutter Parted text

theorem squeeze_eq_self {text : List Char} (h : text.IsChain Parted) : squeeze text = text := by
  rw [squeeze_eq_destutter]
  exact List.destutter_of_isChain Parted text h

theorem mem_of_mem_squeeze {text : List Char} : ∀ c ∈ squeeze text, c ∈ text := by
  rw [squeeze_eq_destutter]
  exact (List.destutter_sublist Parted text).subset

theorem letters_squeeze (text : List Char) : letters (squeeze text) = letters text := by
  fun_induction squeeze text with
  | case1 => rfl
  | case2 c rest hBoth ih =>
    obtain ⟨rfl, -⟩ : c = '_' ∧ rest.head? = some '_' := by simpa using hBoth
    rw [ih, letters_mark]
  | case3 c rest _ ih => rw [letters_cons, ih, ← letters_cons]

-- ---------------------------------------------------------------------------
-- The form
-- ---------------------------------------------------------------------------

/-- Words without capitals of ASCII, with single underscores between them and none at the ends. -/
structure IsJoined (body : List Char) : Prop where
  small : ∀ c ∈ body, isCapital c = false
  single : ¬ ['_', '_'] <:+: body
  opened : body.head? ≠ some '_'
  closed : body.getLast? ≠ some '_'

/-- Two underscores in a row are two neighbours that are not parted. -/
theorem parted_iff {text : List Char} : text.IsChain Parted ↔ ¬ ['_', '_'] <:+: text := by
  rw [List.isChain_iff_forall_rel_of_append_cons_cons]
  constructor
  · rintro hParted ⟨before, after, rfl⟩
    have hText : before ++ ['_', '_'] ++ after = before ++ '_' :: '_' :: after := by simp
    exact hParted hText ⟨rfl, rfl⟩
  · rintro hSingle c d before after rfl ⟨rfl, rfl⟩
    exact hSingle ⟨before, after, by simp⟩

-- ---------------------------------------------------------------------------
-- The ends
-- ---------------------------------------------------------------------------

/-- The text without the underscores at either end. -/
def bare (text : List Char) : List Char := dropEnd isUnderscore (text.dropWhile isUnderscore)

theorem isInfix_bare (text : List Char) : bare text <:+: text := by
  obtain ⟨dropped, hText, -⟩ := exists_dropEnd_append isUnderscore (text.dropWhile isUnderscore)
  have hStart : bare text <+: text.dropWhile isUnderscore := ⟨dropped, hText.symm⟩
  exact hStart.isInfix.trans (List.dropWhile_suffix isUnderscore).isInfix

theorem bare_head? (text : List Char) : (bare text).head? ≠ some '_' := by
  intro hMark
  obtain ⟨rest, hRest⟩ := List.head?_eq_some_iff.mp hMark
  obtain ⟨dropped, hText, -⟩ := exists_dropEnd_append isUnderscore (text.dropWhile isUnderscore)
  have hStays := List.head?_dropWhile_not isUnderscore text
  rw [hText, ← bare, hRest] at hStays
  cases hStays

theorem bare_getLast? (text : List Char) : (bare text).getLast? ≠ some '_' := by
  intro hMark
  exact absurd (getLast?_dropEnd hMark) (by decide)

theorem letters_bare (text : List Char) : letters (bare text) = letters text := by
  rw [bare, letters_dropEnd, letters_dropWhile]

/-- A text with no underscore at its ends is left as it is. -/
theorem bare_eq_self {text : List Char} (hFirst : text.head? ≠ some '_')
    (hLast : text.getLast? ≠ some '_') : bare text = text := by
  have hStart : text.dropWhile isUnderscore = text := by
    cases text with
    | nil => rfl
    | cons c rest =>
      refine List.dropWhile_cons_of_neg ?_
      simpa [isUnderscore] using hFirst
  rw [bare, hStart]
  refine dropEnd_eq_self fun c hEnd => ?_
  have hOther : c ≠ '_' := by
    rintro rfl
    exact hLast hEnd
  simp [isUnderscore, hOther]

/-- Of underscores in front of a text nothing is left, squeezed or not. -/
theorem bare_squeeze_marks {marks : List Char} (hMarks : ∀ c ∈ marks, isUnderscore c = true)
    (body : List Char) : bare (squeeze (marks ++ body)) = bare (squeeze body) := by
  induction marks with
  | nil => rfl
  | cons c rest ih =>
    have hRest := ih fun d hd => hMarks d (by simp [hd])
    rw [List.cons_append, squeeze]
    split
    · exact hRest
    · rw [bare, List.dropWhile_cons_of_pos (hMarks c (by simp)), ← bare, hRest]

/-- Underscores in front of a text are told apart from it. -/
theorem takeWhile_marks {marks body : List Char} (hMarks : ∀ c ∈ marks, isUnderscore c = true)
    (hBody : body.head? ≠ some '_') : (marks ++ body).takeWhile isUnderscore = marks := by
  rw [List.takeWhile_append_of_pos hMarks]
  cases body with
  | nil => simp
  | cons c rest =>
    have hOther : isUnderscore c = false := by simpa [isUnderscore] using hBody
    rw [List.takeWhile_cons_of_neg (by simp [hOther]), List.append_nil]

-- ---------------------------------------------------------------------------
-- Words in small letters
-- ---------------------------------------------------------------------------

/-- What `snake` puts behind the leading underscores. -/
def snakeBody (name : List Char) : List Char :=
  bare (squeeze (lower (splitAcronyms (splitHumps name))))

theorem snake_eq (name : List Char) :
    snake name = name.takeWhile isUnderscore ++ snakeBody name := rfl

/-- The words are in lower case, by the full mapping. -/
theorem lowerChar_of_mem_snakeBody {name : List Char} :
    ∀ c ∈ snakeBody name, lowerChar c = [c] := by
  intro c hc
  exact lowerChar_of_mem_lowerAfter c (mem_of_mem_squeeze c ((isInfix_bare _).subset hc))

/-- **What follows the leading underscores** is joined words. -/
theorem snakeBody_isJoined (name : List Char) : IsJoined (snakeBody name) where
  small c hc := not_isCapital_of_lowerChar (lowerChar_of_mem_snakeBody c hc)
  single hTwo := parted_iff.mp (squeeze_parted _) (hTwo.trans (isInfix_bare _))
  opened := bare_head? _
  closed := bare_getLast? _

/-- **Joined words** in lower case are left as they are, and so are underscores before them. -/
theorem snake_eq_self {marks body : List Char} (hMarks : ∀ c ∈ marks, isUnderscore c = true)
    (hBody : IsJoined body) (hLower : ∀ c ∈ body, lowerChar c = [c]) :
    snake (marks ++ body) = marks ++ body := by
  have hEach : ∀ c ∈ marks ++ body, lowerChar c = [c] := by
    intro c hc
    rcases List.mem_append.mp hc with hMark | hWord
    · rw [beq_iff_eq.mp (hMarks c hMark)]
      decide
    · exact hLower c hWord
  have hSmall : ∀ c ∈ marks ++ body, isCapital c = false :=
    fun c hc => not_isCapital_of_lowerChar (hEach c hc)
  have hWords : snakeBody (marks ++ body) = body := by
    rw [snakeBody, splitHumps_eq_self hSmall, splitAcronyms_eq_self hSmall, lower,
      lowerAfter_eq_self hEach, bare_squeeze_marks hMarks,
      squeeze_eq_self (parted_iff.mpr hBody.single), bare_eq_self hBody.opened hBody.closed]
  rw [snake_eq, takeWhile_marks hMarks hBody.opened, hWords]

/-- **Of a name in ASCII** every letter and digit is kept, in lower case and in order. -/
theorem letters_snake {name : List Char} (h : ∀ c ∈ name, isAscii c = true) :
    letters (snake name) = letters (lower name) := by
  have hAscii : ∀ c ∈ splitAcronyms (splitHumps name), isAscii c = true := by
    intro c hc
    rcases mem_of_letters_eq (letters_split name) hc with rfl | hOld
    · decide
    · exact h c hOld
  calc letters (snake name)
      = letters (snakeBody name) := by
        rw [snake_eq, letters_append, letters_takeWhile, List.nil_append]
    _ = letters (lower (splitAcronyms (splitHumps name))) := by
        rw [snakeBody, letters_bare, letters_squeeze]
    _ = (letters name).map Char.toLower := by rw [letters_lower hAscii, letters_split]
    _ = letters (lower name) := (letters_lower h).symm

/-- **Words in small letters.** A name in this style begins with the underscores that it began with
before, and what follows is without capitals of ASCII, without two underscores in a row and without
one at either end. Writing it in this style again changes nothing. Of a name in ASCII no letter or
digit is lost or added: but for underscores it is the name in lower case. -/
theorem snake_joined (name : List Char) :
    (∃ body, snake name = name.takeWhile isUnderscore ++ body ∧ IsJoined body) ∧
      snake (snake name) = snake name ∧
      ((∀ c ∈ name, isAscii c = true) → letters (snake name) = letters (lower name)) := by
  have hMarks : ∀ c ∈ name.takeWhile isUnderscore, isUnderscore c = true :=
    List.all_eq_true.mp List.all_takeWhile
  refine ⟨⟨snakeBody name, snake_eq name, snakeBody_isJoined name⟩, ?_, letters_snake⟩
  rw [snake_eq]
  exact snake_eq_self hMarks (snakeBody_isJoined name) lowerChar_of_mem_snakeBody

/-- Runs of capitals and digits, at the border of words and at the end, between underscores. -/
theorem snake_joined_acronyms :
    (∀ c ∈ "__HTTPServer2URI_3D__".toList, isAscii c = true) ∧
    letters (snake "__HTTPServer2URI_3D__".toList) =
      letters (lower "__HTTPServer2URI_3D__".toList) ∧
    String.ofList (snake "__HTTPServer2URI_3D__".toList) = "__http_server2_uri_3_d" := by
  have hAll : "__HTTPServer2URI_3D__".toList.all isAscii = true := by decide
  have hAscii : ∀ c ∈ "__HTTPServer2URI_3D__".toList, isAscii c = true :=
    List.all_eq_true.mp hAll
  obtain ⟨-, -, hLetters⟩ := snake_joined "__HTTPServer2URI_3D__".toList
  exact ⟨hAscii, hLetters hAscii, by decide +kernel⟩

end Lexicon.Naming
