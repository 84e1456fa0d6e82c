import Mathlib.Data.List.Chain
import Lexicon.Proofs.Text.Comments

/-!
# Lexicon — the layout as a normal form

The layout brings every text into a form of which it can be told, without mention of the layout,
whether a text has it. What has the form already is left as it is, so laying a text out twice is
the same as laying it out once; and apart from blanks at the ends of lines, only empty lines are
lost or found.

* `solidLines`      — the lines of a text that hold something.
* `closedLines`     — the lines of a text that ends in a line feed.
* `IsTidy`          — the form.
* `isTidy_tidy`     — a text in its layout has it.
* `tidy_eq_self`    — a text that has it is laid out already.
* `solidLines_tidy` — what the layout makes of the lines that hold something.
* `tidy_normalForm` — all of it.
-/

namespace Lexicon.Text

-- ---------------------------------------------------------------------------
-- The form
-- ---------------------------------------------------------------------------

theorem any_not_isBlank_iff (line : List Char) :
    (line.any fun c => !isBlank c) = true ↔ Solid line := by
  simp [Solid]

instance : DecidablePred Solid := fun line => decidable_of_iff _ (any_not_isBlank_iff line)

/-- The lines of a text that hold something. -/
def solidLines (text : List Char) : List (List Char) := (split '\n' text).filter (Solid ·)

/-- The lines of a text that ends in a line feed: behind the last one no line begins. -/
def closedLines (text : List Char) : List (List Char) := (split '\n' text).dropLast

/-- A text that ends in exactly one line feed. No line of it ends in a blank, no two blank lines
stand in a row, and none comes first, unless the text is that line feed. -/
structure IsTidy (text : List Char) : Prop where
  ended : ∃ body, text = body ++ ['\n'] ∧ body.getLast? ≠ some '\n'
  trimmed : ∀ line ∈ closedLines text, ∀ c, line.getLast? = some c → isBlank c = false
  spaced : (closedLines text).IsChain fun line next => Solid line ∨ Solid next
  opened : text = ['\n'] ∨ ∀ line, (closedLines text).head? = some line → Solid line

theorem closedLines_append (body : List Char) : closedLines (body ++ ['\n']) = split '\n' body := by
  rw [closedLines, split_append, split, List.dropLast_concat]

-- ---------------------------------------------------------------------------
-- Ends of texts and lines
-- ---------------------------------------------------------------------------

/-- What is left of a text does not end in what is dropped there. -/
theorem getLast?_dropEnd {p : Char → Bool} {text : List Char} {c : Char}
    (h : (dropEnd p text).getLast? = some c) : p c = false := by
  induction text with
  | nil => cases h
  | cons d rest ih =>
    rw [dropEnd] at h
    split at h
    · split at h
      · cases h
      · rename_i hStays
        obtain rfl : d = c := by simpa using h
        simpa using hStays
    · rename_i kept hKept
      obtain ⟨e, more, hMore⟩ := List.exists_cons_of_ne_nil hKept
      rw [hMore, List.getLast?_cons_cons, ← hMore] at h
      exact ih h

/-- A text that ends in something else is left as it is. -/
theorem dropEnd_eq_self {p : Char → Bool} {text : List Char}
    (h : ∀ c, text.getLast? = some c → p c = false) : dropEnd p text = text := by
  cases hLast : text.getLast? with
  | none =>
    rw [List.getLast?_eq_none_iff.mp hLast]
    rfl
  | some c =>
    obtain ⟨front, rfl⟩ := List.getLast?_eq_some_iff.mp hLast
    exact dropEnd_append_cons (h c hLast) front []

theorem joinWith_split (separator : Char) (text : List Char) :
    joinWith [separator] (split separator text) = text := by
  induction text with
  | nil => rfl
  | cons c rest ih =>
    obtain ⟨piece, pieces, hSplit⟩ := exists_split_eq_cons separator rest
    rw [hSplit] at ih
    rw [split, hSplit]
    split
    · rename_i hHere
      rw [joinWith_cons (List.cons_ne_nil _ _), ih, hHere]
      rfl
    · show joinWith [separator] (([c] ++ piece) :: pieces) = c :: rest
      rw [joinWith_append_head, ih]
      rfl

theorem joinWith_concat {separator : List Char} {lines : List (List Char)} (hSome : lines ≠ [])
    (last : List Char) :
    joinWith separator (lines ++ [last]) = joinWith separator lines ++ separator ++ last := by
  induction lines with
  | nil => exact absurd rfl hSome
  | cons line rest ih =>
    by_cases hRest : rest = []
    · subst hRest
      rfl
    · rw [List.cons_append, joinWith_cons (by simp), joinWith_cons hRest, ih hRest]
      simp

/-- The last line of a text is empty only if the text is, or ends in a line feed. -/
theorem getLast?_split_ne_nil {body : List Char} (hBody : body ≠ [])
    (hEnd : body.getLast? ≠ some '\n') : (split '\n' body).getLast? ≠ some [] := by
  intro hLast
  obtain ⟨front, hSplit⟩ := List.getLast?_eq_some_iff.mp hLast
  have hText := joinWith_split '\n' body
  rw [hSplit] at hText
  by_cases hFront : front = []
  · subst hFront
    exact hBody hText.symm
  · rw [joinWith_concat hFront, List.append_nil] at hText
    rw [← hText, List.getLast?_concat] at hEnd
    exact hEnd rfl

/-- A line that does not end in a blank holds something, unless it is empty. -/
theorem solid_iff_of_trimmed {line : List Char}
    (hTrimmed : ∀ c, line.getLast? = some c → isBlank c = false) : Solid line ↔ line ≠ [] := by
  refine ⟨Solid.ne_nil, fun hSome => ?_⟩
  have hLast := List.getLast?_eq_some_getLast hSome
  exact ⟨_, List.getLast_mem hSome, hTrimmed _ hLast⟩

theorem solid_trimEnd_iff (line : List Char) : Solid (trimEnd line) ↔ Solid line := by
  refine ⟨?_, Solid.trimEnd⟩
  rintro ⟨c, hMem, hSolid⟩
  obtain ⟨dropped, hLine, -⟩ := exists_dropEnd_append isBlank line
  exact ⟨c, hLine ▸ List.mem_append_left _ hMem, hSolid⟩

-- ---------------------------------------------------------------------------
-- Steps of the layout
-- ---------------------------------------------------------------------------

/-- Where empty lines are left out, no two of them stand in a row. -/
theorem squeezeLines_spaced (lines : List (List Char)) :
    (squeezeLines lines).IsChain fun line next => line ≠ [] ∨ next ≠ [] := by
  induction lines with
  | nil => exact .nil
  | cons line rest ih =>
    rw [squeezeLines]
    split
    · exact ih
    · rename_i hStays
      refine ih.cons fun next hNext => ?_
      rw [squeezeLines_head?] at hNext
      by_contra hBoth
      rw [not_or, not_ne_iff, not_ne_iff] at hBoth
      obtain ⟨rfl, rfl⟩ := hBoth
      exact hStays (by simp [Option.mem_def.mp hNext])

/-- Where no two stand in a row, none is left out. -/
theorem squeezeLines_eq_self {lines : List (List Char)}
    (h : lines.IsChain fun line next => line ≠ [] ∨ next ≠ []) : squeezeLines lines = lines := by
  induction lines with
  | nil => rfl
  | cons line rest ih =>
    obtain ⟨hFirst, hRest⟩ := List.isChain_cons.mp h
    rw [squeezeLines, if_neg, ih hRest]
    intro hTwo
    simp only [Bool.and_eq_true, List.isEmpty_iff, decide_eq_true_eq] at hTwo
    rcases hFirst [] hTwo.2 with hLine | hNext
    · exact hLine hTwo.1
    · exact hNext rfl

/-- The lines that are left out at the end are empty. -/
theorem exists_unended_append (lines : List (List Char)) :
    ∃ dropped, lines = unended lines ++ dropped ∧ ∀ line ∈ dropped, line = [] := by
  induction lines with
  | nil => exact ⟨[], rfl, by simp⟩
  | cons line rest ih =>
    obtain ⟨dropped, hRest, hEmpty⟩ := ih
    rw [unended]
    split
    · rename_i hNone
      simp only [Bool.and_eq_true, List.isEmpty_iff] at hNone
      rw [hNone.2, List.nil_append] at hRest
      refine ⟨line :: rest, rfl, ?_⟩
      rw [hRest]
      simpa using ⟨hNone.1, hEmpty⟩
    · exact ⟨dropped, by rw [List.cons_append, ← hRest], hEmpty⟩

theorem unended_append_nil {lines : List (List Char)} (h : lines.getLast? ≠ some []) :
    unended (lines ++ [[]]) = lines := by
  induction lines with
  | nil => rfl
  | cons line rest ih =>
    cases rest with
    | nil => exact unended_of_ne_nil (by simpa using h) [[]]
    | cons next others =>
      rw [List.getLast?_cons_cons] at h
      rw [List.cons_append, unended, ih h, if_neg (by simp)]

-- ---------------------------------------------------------------------------
-- The layout has the form
-- ---------------------------------------------------------------------------

theorem tidyLines_trimmed (text : List Char) :
    ∀ line ∈ tidyLines text, ∀ c, line.getLast? = some c → isBlank c = false := by
  intro line hLine c hLast
  have hKept := (List.dropWhile_sublist _).subset (mem_of_mem_unended line hLine)
  obtain ⟨whole, -, rfl⟩ := List.mem_map.mp (mem_of_mem_squeezeLines line hKept)
  exact getLast?_dropEnd hLast

theorem tidyLines_spaced (text : List Char) :
    (tidyLines text).IsChain fun line next => line ≠ [] ∨ next ≠ [] := by
  have hSqueezed := squeezeLines_spaced ((split '\n' text).map trimEnd)
  have hTail := hSqueezed.suffix (List.dropWhile_suffix List.isEmpty)
  obtain ⟨dropped, hLines, -⟩ := exists_unended_append
    ((squeezeLines ((split '\n' text).map trimEnd)).dropWhile List.isEmpty)
  rw [hLines] at hTail
  exact hTail.left_of_append

theorem tidyLines_head? (text : List Char) : (tidyLines text).head? ≠ some [] := by
  intro hHead
  obtain ⟨dropped, hLines, -⟩ := exists_unended_append
    ((squeezeLines ((split '\n' text).map trimEnd)).dropWhile List.isEmpty)
  obtain ⟨rest, hRest⟩ := List.head?_eq_some_iff.mp hHead
  rw [← tidyLines, hRest] at hLines
  have hStays := List.head?_dropWhile_not List.isEmpty
    (squeezeLines ((split '\n' text).map trimEnd))
  rw [hLines] at hStays
  cases hStays

/-- **A text in its layout has the form.** -/
theorem isTidy_tidy (text : List Char) : IsTidy (tidy text) := by
  have hLines : closedLines (tidy text) = if tidyLines text = [] then [[]] else tidyLines text := by
    rw [closedLines, split_tidy, List.dropLast_concat]
  have hSolid : ∀ line ∈ tidyLines text, Solid line ↔ line ≠ [] :=
    fun line hLine => solid_iff_of_trimmed (tidyLines_trimmed text line hLine)
  refine ⟨⟨_, rfl, ?_⟩, ?_, ?_, ?_⟩
  · intro hLast
    cases getLast?_dropEnd hLast
  · rw [hLines]
    split
    · simp
    · exact tidyLines_trimmed text
  · rw [hLines]
    split
    · exact .singleton _
    · refine (tidyLines_spaced text).imp_of_mem_imp fun line next hLine hNext hOne => ?_
      rwa [hSolid line hLine, hSolid next hNext]
  · rw [hLines]
    split
    · rename_i hNone
      exact .inl (by rw [tidy_eq_joinWith, hNone]; rfl)
    · refine .inr fun line hHead => ?_
      have hMem := List.mem_of_mem_head? hHead
      rw [hSolid line hMem]
      rintro rfl
      exact tidyLines_head? text hHead

-- ---------------------------------------------------------------------------
-- The form is kept
-- ---------------------------------------------------------------------------

/-- **A text that has the form is laid out already.** -/
theorem tidy_eq_self {text : List Char} (h : IsTidy text) : tidy text = text := by
  obtain ⟨⟨body, rfl, hEnd⟩, hTrimmed, hSpaced, hOpened⟩ := h
  rw [closedLines_append] at hTrimmed hSpaced hOpened
  by_cases hBody : body = []
  · subst hBody
    rfl
  have hSolid : ∀ line ∈ split '\n' body, Solid line ↔ line ≠ [] :=
    fun line hLine => solid_iff_of_trimmed (hTrimmed line hLine)
  have hLast := getLast?_split_ne_nil hBody hEnd
  -- each step of the layout leaves the lines as they are
  have hTrim : (split '\n' (body ++ ['\n'])).map trimEnd = split '\n' body ++ [[]] := by
    have hEach : (split '\n' body).map trimEnd = (split '\n' body).map id :=
      List.map_congr_left fun line hLine => dropEnd_eq_self (hTrimmed line hLine)
    rw [split_append, List.map_append, hEach, List.map_id]
    rfl
  have hSqueeze : squeezeLines (split '\n' body ++ [[]]) = split '\n' body ++ [[]] := by
    refine squeezeLines_eq_self (List.isChain_append.mpr ⟨?_, .singleton _, ?_⟩)
    · refine hSpaced.imp_of_mem_imp fun line next hLine hNext hOne => ?_
      rwa [hSolid line hLine, hSolid next hNext] at hOne
    · intro line hLine next hNext
      refine .inl ?_
      rintro rfl
      exact hLast hLine
  have hFirst : (split '\n' body ++ [[]]).dropWhile List.isEmpty = split '\n' body ++ [[]] := by
    obtain ⟨first, rest, hCut⟩ := exists_split_eq_cons '\n' body
    have hOpen := hOpened.resolve_left (by simpa using hBody) first (by rw [hCut]; rfl)
    rw [hSolid first (hCut ▸ List.mem_cons_self ..)] at hOpen
    rw [hCut, List.cons_append, List.dropWhile_cons_of_neg (by simpa using hOpen)]
  rw [tidy_eq_joinWith, tidyLines, hTrim, hSqueeze, hFirst, unended_append_nil hLast, joinWith_split]

-- ---------------------------------------------------------------------------
-- What is kept
-- ---------------------------------------------------------------------------

/-- Only empty lines are left out of a row. -/
theorem squeezeLines_solid (lines : List (List Char)) :
    (squeezeLines lines).filter (Solid ·) = lines.filter (Solid ·) := by
  induction lines with
  | nil => rfl
  | cons line rest ih =>
    rw [squeezeLines]
    split
    · rename_i hTwo
      simp only [Bool.and_eq_true, List.isEmpty_iff] at hTwo
      rw [ih, hTwo.1, List.filter_cons_of_neg (by decide)]
    · rw [List.filter_cons, List.filter_cons, ih]

/-- Lines that are empty do not hold anything. -/
theorem filter_solid_eq_nil {lines : List (List Char)} (h : ∀ line ∈ lines, line = []) :
    lines.filter (Solid ·) = [] := by
  rw [List.filter_eq_nil_iff]
  intro line hLine
  rw [h line hLine]
  decide

theorem tidyLines_solid (text : List Char) :
    (tidyLines text).filter (Solid ·) = ((split '\n' text).map trimEnd).filter (Solid ·) := by
  rw [tidyLines, ← squeezeLines_solid ((split '\n' text).map trimEnd)]
  generalize squeezeLines ((split '\n' text).map trimEnd) = lines
  obtain ⟨dropped, hEnd, hDropped⟩ := exists_unended_append (lines.dropWhile List.isEmpty)
  have hTaken : ∀ line ∈ lines.takeWhile List.isEmpty, line = [] :=
    fun line hLine => List.isEmpty_iff.mp (List.all_eq_true.mp List.all_takeWhile line hLine)
  calc (unended (lines.dropWhile List.isEmpty)).filter (Solid ·)
      = (lines.dropWhile List.isEmpty).filter (Solid ·) := by
        conv_rhs => rw [hEnd]
        rw [List.filter_append, filter_solid_eq_nil hDropped, List.append_nil]
    _ = lines.filter (Solid ·) := by
        conv_rhs => rw [← List.takeWhile_append_dropWhile (p := List.isEmpty) (l := lines)]
        rw [List.filter_append, filter_solid_eq_nil hTaken, List.nil_append]

/-- **The lines that hold something are kept**, each without the blanks at its end. -/
theorem solidLines_tidy (text : List Char) :
    solidLines (tidy text) = (solidLines text).map trimEnd := by
  have hNone : ((if tidyLines text = [] then [[]] else tidyLines text) ++ [[]]).filter (Solid ·) =
      (tidyLines text).filter (Solid ·) := by
    rw [List.filter_append, List.filter_singleton]
    split
    · rename_i hLines
      rw [hLines]
      rfl
    · exact List.append_nil _
  rw [solidLines, split_tidy, hNone, tidyLines_solid, solidLines, List.filter_map]
  simp only [Function.comp_def, solid_trimEnd_iff]

/-- **The layout is a normal form.** A text in its layout ends in exactly one line feed, no line of
it ends in a blank, no two blank lines stand in a row, and none comes first unless there is no other
line. Laying it out again changes nothing. Of the text that is laid out, it keeps the lines that hold
something, in order, without the blanks at their ends. -/
theorem tidy_normalForm (text : List Char) :
    IsTidy (tidy text) ∧ tidy (tidy text) = tidy text ∧
      solidLines (tidy text) = (solidLines text).map trimEnd :=
  ⟨isTidy_tidy text, tidy_eq_self (isTidy_tidy text), solidLines_tidy text⟩

end Lexicon.Text
