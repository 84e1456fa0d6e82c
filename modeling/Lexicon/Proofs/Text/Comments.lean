import Lexicon.Proofs.Text.Layout

/-!
# Lexicon — texts with and without comments

Comments are whole lines, and where one is put in, a line follows that is not blank. For this
reason the layout treats a text with comments as it treats the text without them: no comment is
blank, so that no empty line is left out or kept on account of a comment.

* `IsComment`, `Solid`  — lines that are comments, and lines that are not blank.
* `Shorn`               — some lines are what is left of others when comments are left out.
* `Annotated`           — the same, with the line that follows a comment taken into account.
* `split_append`, `split_joinWith` — texts are cut into lines.
* `tidyLines`           — the layout by lines, `split_tidy` says what becomes of the lines.
* `Annotated.tidyLines` — the layout keeps comments apart.
* `Annotated.shorn_tidy` — so that texts which differ in comments do so after the layout.
* `tidy_firstLine`      — what the layout does to the first line, and to the text behind it.
-/

namespace Lexicon.Text

-- ---------------------------------------------------------------------------
-- Lines with comments
-- ---------------------------------------------------------------------------

/-- A comment begins with three slashes, after any blanks. -/
def IsComment (line : List Char) : Prop :=
  ∃ blanks rest, (∀ c ∈ blanks, isBlank c = true) ∧ line = blanks ++ '/' :: '/' :: '/' :: rest

/-- A line that is not blank. -/
def Solid (line : List Char) : Prop := ∃ c ∈ line, isBlank c = false

/-- `Shorn full kept`: the lines that are kept are the full ones without some comments. -/
inductive Shorn : List (List Char) → List (List Char) → Prop
  | nil : Shorn [] []
  | keep (line : List Char) {full kept : List (List Char)} (h : Shorn full kept) :
      Shorn (line :: full) (line :: kept)
  | drop {comment : List Char} {full kept : List (List Char)} (hComment : IsComment comment)
      (h : Shorn full kept) : Shorn (comment :: full) kept

/-- `Annotated full kept`: the full lines are the kept ones with some comments, each of which has
been put before a line that is not blank. -/
inductive Annotated : List (List Char) → List (List Char) → Prop
  | nil : Annotated [] []
  | keep (line : List Char) {full kept : List (List Char)} (h : Annotated full kept) :
      Annotated (line :: full) (line :: kept)
  | note {comment first : List Char} {full rest : List (List Char)} (hComment : IsComment comment)
      (hSolid : Solid first) (h : Annotated full (first :: rest)) :
      Annotated (comment :: full) (first :: rest)

theorem Annotated.shorn {full kept : List (List Char)} (h : Annotated full kept) :
    Shorn full kept := by
  induction h with
  | nil => exact .nil
  | keep line _ ih => exact .keep line ih
  | note hComment _ _ ih => exact .drop hComment ih

theorem Annotated.refl (lines : List (List Char)) : Annotated lines lines := by
  induction lines with
  | nil => exact .nil
  | cons line rest ih => exact .keep line ih

theorem Annotated.append {full kept after later : List (List Char)} (h : Annotated full kept)
    (hLater : Annotated after later) : Annotated (full ++ after) (kept ++ later) := by
  induction h with
  | nil => exact hLater
  | keep line _ ih => exact .keep line ih
  | note hComment hSolid _ ih => exact .note hComment hSolid ih

theorem IsComment.solid {line : List Char} (h : IsComment line) : Solid line := by
  obtain ⟨blanks, rest, -, rfl⟩ := h
  exact ⟨'/', by simp, by decide⟩

theorem Solid.ne_nil {line : List Char} (h : Solid line) : line ≠ [] := by
  obtain ⟨c, hMem, -⟩ := h
  exact List.ne_nil_of_mem hMem

-- ---------------------------------------------------------------------------
-- Lines of texts
-- ---------------------------------------------------------------------------

/-- A line feed ends a line, whatever stands before and after it. -/
theorem split_append (separator : Char) (before after : List Char) :
    split separator (before ++ separator :: after) =
      split separator before ++ split separator after := by
  induction before with
  | nil => simp [split]
  | cons c rest ih =>
    rw [List.cons_append, split, split, ih]
    split
    · rfl
    · obtain ⟨piece, pieces, hSplit⟩ := exists_split_eq_cons separator rest
      rw [hSplit]
      rfl

theorem split_of_not_mem {separator : Char} {line : List Char} (hFree : separator ∉ line) :
    split separator line = [line] := by
  induction line with
  | nil => rfl
  | cons c rest ih =>
    obtain ⟨hFirst, hRest⟩ := not_or.mp (List.mem_cons.not.mp hFree)
    rw [split, if_neg (Ne.symm hFirst), ih hRest]

/-- Lines that were put together are told apart again. -/
theorem split_joinWith {separator : Char} {lines : List (List Char)} (hSome : lines ≠ [])
    (hFree : ∀ line ∈ lines, separator ∉ line) :
    split separator (joinWith [separator] lines) = lines := by
  induction lines with
  | nil => exact absurd rfl hSome
  | cons line rest ih =>
    have hLine := split_of_not_mem (hFree line (List.mem_cons_self ..))
    by_cases hLast : rest = []
    · subst hLast
      exact hLine
    · rw [joinWith_cons hLast, List.append_assoc, List.singleton_append, split_append, hLine,
        ih hLast fun later hLater => hFree later (List.mem_cons_of_mem _ hLater)]
      rfl

/-- The first line of a text is not blank if only blanks stand before a character that is not. -/
theorem exists_solid_split {blanks : List Char} (hBlanks : '\n' ∉ blanks) {c : Char}
    (hSolid : isBlank c = false) (after : List Char) :
    ∃ first rest, split '\n' (blanks ++ c :: after) = first :: rest ∧ Solid first := by
  induction blanks with
  | nil =>
    obtain ⟨piece, pieces, hSplit⟩ := exists_split_eq_cons '\n' after
    refine ⟨c :: piece, pieces, ?_, c, List.mem_cons_self .., hSolid⟩
    rw [List.nil_append, split, if_neg (ne_newline_of_solid hSolid), hSplit]
  | cons b rest ih =>
    obtain ⟨hFirst, hRest⟩ := not_or.mp (List.mem_cons.not.mp hBlanks)
    obtain ⟨first, others, hSplit, d, hMem, hSolid⟩ := ih hRest
    refine ⟨b :: first, others, ?_, d, List.mem_cons_of_mem _ hMem, hSolid⟩
    rw [List.cons_append, split, if_neg (Ne.symm hFirst), hSplit]

-- ---------------------------------------------------------------------------
-- Steps of the layout
-- ---------------------------------------------------------------------------

theorem IsComment.trimEnd {line : List Char} (h : IsComment line) : IsComment (trimEnd line) := by
  obtain ⟨blanks, rest, hBlanks, rfl⟩ := h
  refine ⟨blanks, Text.trimEnd rest, hBlanks, ?_⟩
  have hSlashes : blanks ++ '/' :: '/' :: '/' :: rest = (blanks ++ ['/', '/']) ++ '/' :: rest := by
    simp
  rw [hSlashes, Text.trimEnd, dropEnd_append_cons (by decide)]
  simp [Text.trimEnd]

theorem Solid.trimEnd {line : List Char} (h : Solid line) : Solid (trimEnd line) := by
  obtain ⟨c, hMem, hBlank⟩ := h
  obtain ⟨before, after, rfl⟩ := List.append_of_mem hMem
  rw [Text.trimEnd, dropEnd_append_cons hBlank]
  exact ⟨c, by simp, hBlank⟩

/-- Trimming lines leaves comments where they are. -/
theorem Annotated.map_trimEnd {full kept : List (List Char)} (h : Annotated full kept) :
    Annotated (full.map trimEnd) (kept.map trimEnd) := by
  induction h with
  | nil => exact .nil
  | keep line _ ih => exact .keep _ ih
  | note hComment hSolid _ ih => exact .note hComment.trimEnd hSolid.trimEnd ih

/-- With comments or without, a text begins with an empty line or not. -/
theorem Annotated.head?_eq_nil_iff {full kept : List (List Char)} (h : Annotated full kept) :
    full.head? = some [] ↔ kept.head? = some [] := by
  cases h with
  | nil => rfl
  | keep line _ => rfl
  | note hComment hSolid _ =>
    simp [hComment.solid.ne_nil, hSolid.ne_nil]

/-- **Leaving out empty lines** leaves comments where they are. -/
theorem Annotated.squeezeLines {full kept : List (List Char)} (h : Annotated full kept) :
    Annotated (squeezeLines full) (squeezeLines kept) := by
  induction h with
  | nil => exact .nil
  | @keep line full kept h ih =>
    rw [Text.squeezeLines, Text.squeezeLines]
    simp only [h.head?_eq_nil_iff]
    split
    · exact ih
    · exact .keep line ih
  | @note comment first full rest hComment hSolid _ ih =>
    have hHead := squeezeLines_head? (first :: rest)
    obtain ⟨others, hKept⟩ := List.head?_eq_some_iff.mp (hHead.trans List.head?_cons)
    rw [hKept] at ih ⊢
    rw [Text.squeezeLines, if_neg (by simp [hComment.solid.ne_nil])]
    exact .note hComment hSolid ih

/-- Leaving out the empty lines at the beginning leaves comments where they are. -/
theorem Annotated.dropWhile {full kept : List (List Char)} (h : Annotated full kept) :
    Annotated (full.dropWhile List.isEmpty) (kept.dropWhile List.isEmpty) := by
  induction h with
  | nil => exact .nil
  | keep line h ih =>
    rw [List.dropWhile_cons, List.dropWhile_cons]
    split
    · exact ih
    · exact .keep line h
  | note hComment hSolid h _ =>
    rw [List.dropWhile_cons_of_neg (by simp [hComment.solid.ne_nil]),
      List.dropWhile_cons_of_neg (by simp [hSolid.ne_nil])]
    exact .note hComment hSolid h

/-- The lines without the empty ones at the end. -/
def unended : List (List Char) → List (List Char)
  | [] => []
  | line :: rest =>
    if line.isEmpty && (unended rest).isEmpty then [] else line :: unended rest

theorem unended_of_ne_nil {line : List Char} (h : line ≠ []) (rest : List (List Char)) :
    unended (line :: rest) = line :: unended rest := by
  rw [unended, if_neg]
  simp [h]

/-- With comments or without, there are lines or there are none. -/
theorem Annotated.isEmpty_eq {full kept : List (List Char)} (h : Annotated full kept) :
    full.isEmpty = kept.isEmpty := by
  cases h <;> rfl

/-- Leaving out the empty lines at the end leaves comments where they are. -/
theorem Annotated.unended {full kept : List (List Char)} (h : Annotated full kept) :
    Annotated (unended full) (unended kept) := by
  induction h with
  | nil => exact .nil
  | keep line h ih =>
    rw [Text.unended, Text.unended, ih.isEmpty_eq]
    split
    · exact .nil
    · exact .keep line ih
  | note hComment hSolid _ ih =>
    rw [unended_of_ne_nil hSolid.ne_nil] at ih ⊢
    rw [unended_of_ne_nil hComment.solid.ne_nil]
    exact .note hComment hSolid ih

-- ---------------------------------------------------------------------------
-- The layout by lines
-- ---------------------------------------------------------------------------

/-- The lines of a text in its layout, but for the line feed at the very end. -/
def tidyLines (text : List Char) : List (List Char) :=
  unended ((squeezeLines ((split '\n' text).map trimEnd)).dropWhile List.isEmpty)

theorem mem_of_mem_unended {lines : List (List Char)} : ∀ line ∈ unended lines, line ∈ lines := by
  induction lines with
  | nil => exact fun _ h => h
  | cons first rest ih =>
    intro line hLine
    rw [unended] at hLine
    split at hLine
    · cases hLine
    · rcases List.mem_cons.mp hLine with rfl | hLater
      · exact List.mem_cons_self ..
      · exact List.mem_cons_of_mem _ (ih line hLater)

/-- Lines that do not end in an empty one make a text. -/
theorem joinWith_unended_ne_nil {lines : List (List Char)} (h : unended lines ≠ []) :
    joinWith ['\n'] (unended lines) ≠ [] := by
  induction lines with
  | nil => exact absurd rfl h
  | cons line rest ih =>
    rw [unended] at h ⊢
    split at h
    · exact absurd rfl h
    · rename_i hStays
      rw [if_neg hStays]
      by_cases hLast : unended rest = []
      · rw [hLast] at hStays ⊢
        simpa [joinWith] using hStays
      · rw [joinWith_cons hLast]
        simp

theorem dropEnd_of_not_mem {line : List Char} (hFree : '\n' ∉ line) :
    dropEnd isNewline line = line := by
  induction line with
  | nil => rfl
  | cons c rest ih =>
    obtain ⟨hFirst, hRest⟩ := not_or.mp (List.mem_cons.not.mp hFree)
    rw [dropEnd, ih hRest]
    cases rest with
    | nil => simp [isNewline, Ne.symm hFirst]
    | cons d more => rfl

theorem dropEnd_append_eq_nil {p : Char → Bool} {after : List Char} (h : dropEnd p after = [])
    (before : List Char) : dropEnd p (before ++ after) = dropEnd p before := by
  induction before with
  | nil => exact h
  | cons c rest ih => rw [List.cons_append, dropEnd, ih, dropEnd]

theorem dropEnd_append_ne_nil {p : Char → Bool} {after : List Char} (h : dropEnd p after ≠ [])
    (before : List Char) : dropEnd p (before ++ after) = before ++ dropEnd p after := by
  obtain ⟨d, more, hKept⟩ := List.exists_cons_of_ne_nil h
  induction before with
  | nil => rfl
  | cons c rest ih =>
    rw [List.cons_append, dropEnd, ih, hKept]
    cases rest <;> rfl

/-- The line feeds at the end of a text are those of its empty lines there. -/
theorem dropEnd_joinWith {lines : List (List Char)} (hFree : ∀ line ∈ lines, '\n' ∉ line) :
    dropEnd isNewline (joinWith ['\n'] lines) = joinWith ['\n'] (unended lines) := by
  induction lines with
  | nil => rfl
  | cons line rest ih =>
    have hRest := ih fun later hLater => hFree later (List.mem_cons_of_mem _ hLater)
    have hLine := dropEnd_of_not_mem (hFree line (List.mem_cons_self ..))
    by_cases hLast : rest = []
    · subst hLast
      rw [joinWith, hLine, unended, unended]
      cases line <;> rfl
    · have hMore : joinWith ['\n'] (line :: rest) = (line ++ ['\n']) ++ joinWith ['\n'] rest :=
        joinWith_cons hLast
      by_cases hNone : unended rest = []
      · -- the line feed behind the line belongs to the empty lines
        rw [hNone] at hRest
        rw [hMore, dropEnd_append_eq_nil hRest, dropEnd_append_eq_nil rfl, hLine, unended, hNone]
        cases line <;> rfl
      · have hKept := joinWith_unended_ne_nil hNone
        rw [← hRest] at hKept
        rw [hMore, dropEnd_append_ne_nil hKept, hRest, unended, if_neg (by simp [hNone]),
          joinWith_cons hNone]

theorem dropWhile_joinWith {lines : List (List Char)} (hFree : ∀ line ∈ lines, '\n' ∉ line) :
    (joinWith ['\n'] lines).dropWhile isNewline =
      joinWith ['\n'] (lines.dropWhile List.isEmpty) := by
  induction lines with
  | nil => rfl
  | cons line rest ih =>
    have hRest := ih fun later hLater => hFree later (List.mem_cons_of_mem _ hLater)
    cases line with
    | nil =>
      rw [List.dropWhile_cons_of_pos rfl, ← hRest]
      cases rest with
      | nil => rfl
      | cons next others => rfl
    | cons c more =>
      have hFirst : c ≠ '\n' := fun h => hFree _ (List.mem_cons_self ..) (h ▸ List.mem_cons_self ..)
      rw [List.dropWhile_cons_of_neg (by simp)]
      have hHead := joinWith_append_head ['\n'] [c] more rest
      rw [List.singleton_append] at hHead
      rw [hHead, List.singleton_append, List.dropWhile_cons_of_neg (by simp [isNewline, hFirst])]

theorem tidyLines_free (text : List Char) : ∀ line ∈ tidyLines text, '\n' ∉ line := by
  intro line hLine
  have hKept := (List.dropWhile_sublist _).subset (mem_of_mem_unended line hLine)
  exact not_mem_of_mem_trimmed line (mem_of_mem_squeezeLines line hKept)

/-- **The layout by lines.** -/
theorem tidy_eq_joinWith (text : List Char) :
    tidy text = joinWith ['\n'] (tidyLines text) ++ ['\n'] := by
  have hFree : ∀ line ∈ squeezeLines ((split '\n' text).map trimEnd), '\n' ∉ line :=
    fun line hLine => not_mem_of_mem_trimmed line (mem_of_mem_squeezeLines line hLine)
  have hTail := fun line hLine => hFree line ((List.dropWhile_sublist List.isEmpty).subset hLine)
  rw [tidy, dropWhile_joinWith hFree, dropEnd_joinWith hTail, tidyLines]

/-- What a text in its layout is cut into: its lines, or one empty line if there are none, and
nothing behind the line feed at the very end. -/
theorem split_tidy (text : List Char) :
    split '\n' (tidy text) = (if tidyLines text = [] then [[]] else tidyLines text) ++ [[]] := by
  have hLast : joinWith ['\n'] (tidyLines text) ++ ['\n'] =
      joinWith ['\n'] (tidyLines text) ++ '\n' :: [] := rfl
  rw [tidy_eq_joinWith, hLast, split_append]
  split
  · rename_i hNone
    rw [hNone]
    rfl
  · rename_i hSome
    rw [split_joinWith hSome (tidyLines_free text)]
    rfl

/-- **The layout keeps comments apart**: it does the same to the lines that are no comments, with
comments among them or without. -/
theorem Annotated.tidyLines {full kept : List Char}
    (h : Annotated (split '\n' full) (split '\n' kept)) :
    Annotated (tidyLines full) (tidyLines kept) :=
  h.map_trimEnd.squeezeLines.dropWhile.unended

/-- **Texts that differ in comments** do so in their layout. -/
theorem Annotated.shorn_tidy {full kept : List Char}
    (h : Annotated (split '\n' full) (split '\n' kept)) :
    Shorn (split '\n' (tidy full)) (split '\n' (tidy kept)) := by
  have hLines := h.tidyLines
  have hNone : Text.tidyLines full = [] ↔ Text.tidyLines kept = [] := by
    rw [← List.isEmpty_iff, ← List.isEmpty_iff, hLines.isEmpty_eq]
  rw [split_tidy, split_tidy]
  simp only [hNone]
  split
  · exact (Annotated.refl _).shorn
  · exact (hLines.append (.refl [[]])).shorn

-- ---------------------------------------------------------------------------
-- The first line
-- ---------------------------------------------------------------------------

/-- A line that does not end in a blank is kept before the lines after it. -/
theorem tidyLines_firstLine {front : List Char} (hFree : '\n' ∉ front) {c : Char}
    (hSolid : isBlank c = false) (later : List Char) :
    tidyLines (front ++ c :: '\n' :: later) =
      (front ++ [c]) :: unended (squeezeLines ((split '\n' later).map trimEnd)) := by
  have hLine : '\n' ∉ front ++ [c] := by
    simpa [hFree] using (ne_newline_of_solid hSolid).symm
  have hTrimmed : trimEnd (front ++ [c]) = front ++ [c] := dropEnd_append_cons hSolid front []
  have hSome : front ++ [c] ≠ [] := by simp
  have hText : front ++ c :: '\n' :: later = (front ++ [c]) ++ '\n' :: later := by simp
  rw [tidyLines, hText, split_append, split_of_not_mem hLine, List.singleton_append, List.map_cons,
    hTrimmed, squeezeLines, if_neg (by simp), List.dropWhile_cons_of_neg (by simp),
    unended_of_ne_nil hSome]

/-- **The first line stays first**, and what the layout makes of the text behind it is the same
whichever line that is. -/
theorem tidy_firstLine (later : List Char) : ∃ rest, ∀ front c, '\n' ∉ front → isBlank c = false →
    tidy (front ++ c :: '\n' :: later) = front ++ c :: '\n' :: rest := by
  cases hLines : unended (squeezeLines ((split '\n' later).map trimEnd)) with
  | nil =>
    refine ⟨[], fun front c hFree hSolid => ?_⟩
    rw [tidy_eq_joinWith, tidyLines_firstLine hFree hSolid, hLines, joinWith]
    simp
  | cons line others =>
    refine ⟨joinWith ['\n'] (line :: others) ++ ['\n'], fun front c hFree hSolid => ?_⟩
    rw [tidy_eq_joinWith, tidyLines_firstLine hFree hSolid, hLines, joinWith_cons (by simp)]
    simp

-- ---------------------------------------------------------------------------
-- Descriptions
-- ---------------------------------------------------------------------------

/-- The lines of a prose text have no line breaks in them. -/
theorem not_isLineBreak_of_mem_lines {text : List Char} :
    ∀ line ∈ lines text, ∀ c ∈ line, isLineBreak c = false := by
  fun_induction lines text with
  | case1 => simp
  | case2 rest ih => simpa using ih
  | case3 c rest hNoPair hBreak ih => simpa using ih
  | case4 c rest hNoPair hOther hNone ih => simpa using hOther
  | case5 c rest hNoPair hOther line others hLines ih =>
    rw [hLines] at ih
    simpa [hOther] using ih

/-- Every line of a doc comment is one line, whatever stands in the description. -/
theorem not_mem_of_mem_docLines {text : List Char} : ∀ line ∈ docLines text, '\n' ∉ line := by
  intro line hLine hMem
  obtain ⟨whole, hWhole, rfl⟩ := List.mem_map.mp hLine
  obtain ⟨dropped, hSame, -⟩ := exists_dropEnd_append isBlank whole
  have hInside : '\n' ∈ whole := hSame ▸ List.mem_append_left _ hMem
  have hBreak := not_isLineBreak_of_mem_lines whole hWhole '\n' hInside
  exact absurd hBreak (by decide)

end Lexicon.Text
