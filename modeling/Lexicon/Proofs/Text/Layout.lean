import Mathlib.Data.List.Infix
import Lexicon.Text.Layout

/-!
# Lexicon — what the layout keeps

A text is laid out line by line. Read character by character the same layout is two passes from
the end of the text to its beginning, each of which drops some characters and keeps the others,
and a trim of line feeds at either end. In this form it can be told what becomes of a piece of
the text.

* `keepUnless`           — a pass: what is dropped is decided by what is kept after it.
* `joinWith_map_trimEnd` — trimming all lines is one pass, `joinWith_squeezeLines` says that
                           leaving out empty lines is another one.
* `tidy_eq`              — the layout by characters.
* `Settled`              — a text in which no line ends in a blank, and in which no two empty
                           lines stand in a row.
* `settled_tidy`         — a text in its layout is settled.
* `infix_tidy_iff`       — a piece between two characters that are not blank, itself included, is
                           still there after the layout exactly if it is settled.
-/

namespace Lexicon.Text

-- ---------------------------------------------------------------------------
-- Lines
-- ---------------------------------------------------------------------------

/-- There is always a first piece. -/
theorem exists_split_eq_cons (separator : Char) (text : List Char) :
    ∃ piece pieces, split separator text = piece :: pieces := by
  cases text with
  | nil => exact ⟨[], [], rfl⟩
  | cons c rest =>
    rw [split]
    split
    · exact ⟨_, _, rfl⟩
    · split
      · exact ⟨_, _, rfl⟩
      · exact ⟨_, _, rfl⟩

/-- The separator is in none of the pieces. -/
theorem not_mem_of_mem_split {separator : Char} {text : List Char} :
    ∀ piece ∈ split separator text, separator ∉ piece := by
  induction text with
  | nil => simp [split]
  | cons c rest ih =>
    obtain ⟨first, others, hSplit⟩ := exists_split_eq_cons separator rest
    rw [hSplit] at ih
    intro piece hPiece
    rw [split] at hPiece
    split at hPiece
    · rw [hSplit] at hPiece
      rcases List.mem_cons.mp hPiece with rfl | hLater
      · simp
      · exact ih piece hLater
    · rename_i hOther
      rw [hSplit] at hPiece
      rcases List.mem_cons.mp hPiece with rfl | hLater
      · have hFirst := ih first (List.mem_cons_self ..)
        simp only [List.mem_cons, not_or]
        exact ⟨fun h => hOther h.symm, hFirst⟩
      · exact ih piece (List.mem_cons_of_mem _ hLater)

theorem joinWith_append_head (separator a piece : List Char) (pieces : List (List Char)) :
    joinWith separator ((a ++ piece) :: pieces) = a ++ joinWith separator (piece :: pieces) := by
  cases pieces with
  | nil => rfl
  | cons next rest => simp only [joinWith, List.append_assoc]

theorem joinWith_cons {separator piece : List Char} {pieces : List (List Char)}
    (hMore : pieces ≠ []) :
    joinWith separator (piece :: pieces) = piece ++ separator ++ joinWith separator pieces := by
  cases pieces with
  | nil => exact absurd rfl hMore
  | cons next rest => rfl

/-- What is dropped at the end of a text satisfies the test. -/
theorem exists_dropEnd_append (p : Char → Bool) (text : List Char) :
    ∃ dropped, text = dropEnd p text ++ dropped ∧ ∀ c ∈ dropped, p c = true := by
  induction text with
  | nil => exact ⟨[], rfl, by simp⟩
  | cons c rest ih =>
    obtain ⟨dropped, hRest, hAll⟩ := ih
    rw [dropEnd]
    split
    · rename_i hNone
      rw [hNone, List.nil_append] at hRest
      split
      · rename_i hDrop
        refine ⟨c :: dropped, by rw [hRest, List.nil_append], ?_⟩
        simpa using ⟨hDrop, hAll⟩
      · exact ⟨dropped, by rw [hRest, List.singleton_append], hAll⟩
    · exact ⟨dropped, by rw [List.cons_append, ← hRest], hAll⟩

/-- Nothing is dropped up to a character that fails the test. -/
theorem dropEnd_append_cons {p : Char → Bool} {c : Char} (hStay : p c = false)
    (before after : List Char) :
    dropEnd p (before ++ c :: after) = before ++ c :: dropEnd p after := by
  induction before with
  | nil =>
    rw [List.nil_append, List.nil_append, dropEnd]
    split
    · rename_i hNone
      simp [hStay, hNone]
    · rfl
  | cons d rest ih =>
    rw [List.cons_append, List.cons_append, dropEnd, ih]
    cases rest with
    | nil => rfl
    | cons e more => rfl

-- ---------------------------------------------------------------------------
-- Passes
-- ---------------------------------------------------------------------------

/-- One step of a pass: puts a character before what is kept of the text after it, unless it is
dropped there. -/
def keepUnless (drops : Char → List Char → Bool) (c : Char) (kept : List Char) : List Char :=
  if drops c kept then kept else c :: kept

/-- What is kept stays, whatever comes before it. -/
theorem suffix_foldr_keepUnless (drops : Char → List Char → Bool) (text kept : List Char) :
    kept <:+ text.foldr (keepUnless drops) kept := by
  induction text with
  | nil => exact List.suffix_refl kept
  | cons c rest ih =>
    rw [List.foldr_cons, keepUnless]
    split
    · exact ih
    · exact ih.trans (List.suffix_cons ..)

/-- A piece of which nothing is dropped is kept as it is. -/
theorem foldr_keepUnless_eq {drops : Char → List Char → Bool} {piece kept : List Char}
    (h : ∀ c rest, c :: rest <:+ piece → drops c (rest ++ kept) = false) :
    piece.foldr (keepUnless drops) kept = piece ++ kept := by
  induction piece with
  | nil => rfl
  | cons c rest ih =>
    have hRest := ih fun d later hLater => h d later (hLater.trans (List.suffix_cons ..))
    have hKept := h c rest (List.suffix_refl _)
    rw [List.foldr_cons, hRest, keepUnless, hKept]
    simp

/-- A piece of a text of which nothing is dropped, whatever comes after it, is a piece of what is
kept. -/
theorem infix_foldr_keepUnless {drops : Char → List Char → Bool} {piece text : List Char}
    (hPiece : piece <:+: text)
    (h : ∀ kept c rest, c :: rest <:+ piece → drops c (rest ++ kept) = false) :
    piece <:+: text.foldr (keepUnless drops) [] := by
  obtain ⟨before, after, rfl⟩ := hPiece
  rw [List.foldr_append, List.foldr_append, foldr_keepUnless_eq (h _)]
  exact (List.prefix_append piece _).isInfix.trans (suffix_foldr_keepUnless ..).isInfix

-- ---------------------------------------------------------------------------
-- The ends of lines
-- ---------------------------------------------------------------------------

/-- Is the character a blank at the end of a line? -/
def isTrailing (c : Char) (kept : List Char) : Bool :=
  isBlank c && c != '\n' && kept.head?.all isNewline

/-- **Trimming lines is a pass** in which the blanks at the ends of lines are dropped. -/
theorem joinWith_map_trimEnd (text : List Char) :
    joinWith ['\n'] ((split '\n' text).map trimEnd) = text.foldr (keepUnless isTrailing) [] := by
  induction text with
  | nil => rfl
  | cons c rest ih =>
    obtain ⟨piece, pieces, hSplit⟩ := exists_split_eq_cons '\n' rest
    rw [List.foldr_cons, ← ih, split]
    by_cases hBreak : c = '\n'
    · rw [if_pos hBreak, hBreak, List.map_cons, joinWith_cons (by simp [hSplit])]
      rfl
    · rw [if_neg hBreak, hSplit]
      simp only [List.map_cons]
      have hFree : '\n' ∉ piece := not_mem_of_mem_split piece (hSplit ▸ List.mem_cons_self ..)
      -- whether the character is kept depends on what is left of the line after it
      cases hKept : trimEnd piece with
      | nil =>
        have hEnd : (joinWith ['\n'] ([] :: pieces.map trimEnd)).head?.all isNewline = true := by
          cases pieces with
          | nil => rfl
          | cons next others => rw [List.map_cons, joinWith_cons (by simp)]; rfl
        have hLine : trimEnd (c :: piece) = if isBlank c then [] else [c] := by
          rw [trimEnd] at hKept ⊢
          rw [dropEnd, hKept]
        rw [hLine, keepUnless, isTrailing, hEnd]
        cases hBlank : isBlank c with
        | true => simp [hBreak]
        | false => simpa using joinWith_append_head ['\n'] [c] [] (pieces.map trimEnd)
      | cons d more =>
        have hLine : trimEnd (c :: piece) = c :: d :: more := by
          rw [trimEnd] at hKept ⊢
          rw [dropEnd, hKept]
        have hStays : isNewline d = false := by
          obtain ⟨dropped, hPiece, -⟩ := exists_dropEnd_append isBlank piece
          rw [← trimEnd, hKept] at hPiece
          have hMem : d ∈ piece := hPiece ▸ List.mem_cons_self ..
          simp only [isNewline, beq_eq_false_iff_ne]
          exact fun h => hFree (h ▸ hMem)
        have hHead : (joinWith ['\n'] ((d :: more) :: pieces.map trimEnd)).head? = some d := by
          cases pieces with
          | nil => rfl
          | cons next others => rw [List.map_cons, joinWith_cons (by simp)]; rfl
        rw [hLine, keepUnless, isTrailing, hHead]
        simpa [hStays] using joinWith_append_head ['\n'] [c] (d :: more) (pieces.map trimEnd)

-- ---------------------------------------------------------------------------
-- Empty lines
-- ---------------------------------------------------------------------------

/-- Is the character a line feed that makes a second empty line in a row, or one at the end of
the text? -/
def isSurplus (c : Char) (kept : List Char) : Bool :=
  isNewline c && (kept == ['\n'] || ['\n', '\n'].isPrefixOf kept)

theorem squeezeLines_head? (lines : List (List Char)) :
    (squeezeLines lines).head? = lines.head? := by
  induction lines with
  | nil => rfl
  | cons line rest ih =>
    rw [squeezeLines]
    split
    · rename_i hSecond
      simp only [Bool.and_eq_true, List.isEmpty_iff, decide_eq_true_eq] at hSecond
      rw [ih, hSecond.1, hSecond.2]
      rfl
    · rfl

theorem mem_of_mem_squeezeLines {lines : List (List Char)} :
    ∀ line ∈ squeezeLines lines, line ∈ lines := by
  induction lines with
  | nil => simp [squeezeLines]
  | cons first rest ih =>
    intro line hLine
    rw [squeezeLines] at hLine
    split at hLine
    · exact List.mem_cons_of_mem _ (ih line hLine)
    · rcases List.mem_cons.mp hLine with rfl | hLater
      · exact List.mem_cons_self ..
      · exact List.mem_cons_of_mem _ (ih line hLater)

/-- A line feed before some lines is surplus exactly if the first of them is empty. -/
theorem isSurplus_joinWith {lines : List (List Char)} (hSome : lines ≠ [])
    (hFree : ∀ line ∈ lines, '\n' ∉ line) :
    isSurplus '\n' ('\n' :: joinWith ['\n'] lines) = decide (lines.head? = some []) := by
  cases lines with
  | nil => exact absurd rfl hSome
  | cons line rest =>
    cases line with
    | nil =>
      cases rest with
      | nil => decide
      | cons next others =>
        rw [joinWith_cons (by simp)]
        simp [isSurplus, isNewline]
    | cons c more =>
      have hFirst : '\n' ≠ c := fun h => hFree _ (List.mem_cons_self ..) (h ▸ List.mem_cons_self ..)
      rw [show c :: more = [c] ++ more from rfl, joinWith_append_head]
      simp [isSurplus, isNewline, List.isPrefixOf, hFirst]

/-- A text without line feeds has none to drop. -/
theorem foldr_keepUnless_of_not_mem {line : List Char} (hFree : '\n' ∉ line) (kept : List Char) :
    line.foldr (keepUnless isSurplus) kept = line ++ kept := by
  refine foldr_keepUnless_eq fun c rest hSuffix => ?_
  have hMem : c ∈ line := hSuffix.subset (List.mem_cons_self ..)
  have hOther : c ≠ '\n' := fun h => hFree (h ▸ hMem)
  simp [isSurplus, isNewline, hOther]

/-- **Leaving out empty lines is a pass** in which the surplus line feeds are dropped. One line
feed before the text makes the first line a line like the others. -/
theorem joinWith_squeezeLines {lines : List (List Char)} (hSome : lines ≠ [])
    (hFree : ∀ line ∈ lines, '\n' ∉ line) :
    keepUnless isSurplus '\n' ((joinWith ['\n'] lines).foldr (keepUnless isSurplus) []) =
      '\n' :: joinWith ['\n'] (squeezeLines lines) := by
  induction lines with
  | nil => exact absurd rfl hSome
  | cons line rest ih =>
    have hLine : '\n' ∉ line := hFree line (List.mem_cons_self ..)
    -- a line that is not empty is not surplus, nor is the line feed before it
    have hOpens : line ≠ [] → ∀ kept, keepUnless isSurplus '\n' (line ++ kept) =
        '\n' :: (line ++ kept) := by
      intro hNonempty kept
      cases line with
      | nil => exact absurd rfl hNonempty
      | cons c more =>
        have hFirst : '\n' ≠ c := fun h => hLine (h ▸ List.mem_cons_self ..)
        simp [keepUnless, isSurplus, isNewline, List.isPrefixOf, hFirst, hFirst.symm]
    by_cases hLast : rest = []
    · subst hLast
      have hKept := foldr_keepUnless_of_not_mem hLine []
      cases line with
      | nil => decide
      | cons c more =>
        show keepUnless isSurplus '\n' ((c :: more).foldr (keepUnless isSurplus) []) = _
        rw [hKept, hOpens (by simp)]
        simp [squeezeLines, joinWith]
    · have hRest := ih hLast fun later hLater => hFree later (List.mem_cons_of_mem _ hLater)
      rw [joinWith_cons hLast, List.append_assoc, List.foldr_append,
        foldr_keepUnless_of_not_mem hLine, List.singleton_append, List.foldr_cons, hRest]
      have hSome' : squeezeLines rest ≠ [] := by
        intro h
        have hHead := squeezeLines_head? rest
        rw [h] at hHead
        exact hLast (List.head?_eq_none_iff.mp hHead.symm)
      cases line with
      | nil =>
        have hSurplus := isSurplus_joinWith hSome' fun later hLater =>
          hFree later (List.mem_cons_of_mem _ (mem_of_mem_squeezeLines later hLater))
        rw [squeezeLines_head?] at hSurplus
        rw [List.nil_append, keepUnless, hSurplus, squeezeLines]
        by_cases hSecond : rest.head? = some []
        · simp [hSecond]
        · simp only [hSecond, decide_false]
          simp [joinWith_cons hSome']
      | cons c more =>
        rw [hOpens (by simp), squeezeLines]
        simp [joinWith_cons hSome']

-- ---------------------------------------------------------------------------
-- The layout
-- ---------------------------------------------------------------------------

theorem dropWhile_keepUnless {p : Char → Bool} {drops : Char → List Char → Bool} {c : Char}
    (hDrop : p c = true) (kept : List Char) :
    (keepUnless drops c kept).dropWhile p = kept.dropWhile p := by
  rw [keepUnless]
  split
  · rfl
  · exact List.dropWhile_cons_of_pos hDrop

/-- A text without its trailing blanks and surplus line feeds. -/
def passed (text : List Char) : List Char :=
  (text.foldr (keepUnless isTrailing) []).foldr (keepUnless isSurplus) []

/-- A line stays one when it is trimmed. -/
theorem not_mem_of_mem_trimmed {text : List Char} :
    ∀ line ∈ (split '\n' text).map trimEnd, '\n' ∉ line := by
  intro line hLine
  obtain ⟨whole, hWhole, rfl⟩ := List.mem_map.mp hLine
  obtain ⟨dropped, hSame, -⟩ := exists_dropEnd_append isBlank whole
  have hFree := not_mem_of_mem_split whole hWhole
  rw [hSame] at hFree
  exact fun h => hFree (List.mem_append_left _ h)

/-- **The layout by characters**: two passes, then the line feeds at either end make way for a
single one. -/
theorem tidy_eq (text : List Char) :
    tidy text = dropEnd isNewline ((passed text).dropWhile isNewline) ++ ['\n'] := by
  have hSome : (split '\n' text).map trimEnd ≠ [] := by
    obtain ⟨piece, pieces, hSplit⟩ := exists_split_eq_cons '\n' text
    simp [hSplit]
  have hSqueezed := congrArg (List.dropWhile isNewline)
    (joinWith_squeezeLines hSome not_mem_of_mem_trimmed)
  rw [dropWhile_keepUnless rfl, joinWith_map_trimEnd, List.dropWhile_cons_of_pos rfl] at hSqueezed
  rw [tidy, passed, hSqueezed]

-- ---------------------------------------------------------------------------
-- Settled texts
-- ---------------------------------------------------------------------------

/-- A text in which no line ends in a blank, and no two empty lines stand in a row. -/
structure Settled (text : List Char) : Prop where
  trimmed : ∀ c, isBlank c = true → c ≠ '\n' → ¬ [c, '\n'] <:+: text
  squeezed : ¬ ['\n', '\n', '\n'] <:+: text

/-- So is any piece of it. -/
theorem Settled.piece {piece text : List Char} (h : Settled text) (hPiece : piece <:+: text) :
    Settled piece where
  trimmed c hBlank hOther hPair := h.trimmed c hBlank hOther (hPair.trans hPiece)
  squeezed hRow := h.squeezed (hRow.trans hPiece)

theorem singleton_prefix_iff_head? {c : Char} {text : List Char} :
    [c] <+: text ↔ text.head? = some c := by
  rw [List.head?_eq_some_iff]
  exact exists_congr fun _ => eq_comm

theorem settled_cons_iff (c : Char) (rest : List Char) :
    Settled (c :: rest) ↔ (isBlank c = true → c ≠ '\n' → ¬ ['\n'] <+: rest) ∧
      (c = '\n' → ¬ ['\n', '\n'] <+: rest) ∧ Settled rest := by
  constructor
  · intro h
    refine ⟨fun hBlank hOther hNext => ?_, fun hBreak hRow => ?_, h.piece ?_⟩
    · exact h.trimmed c hBlank hOther (List.cons_prefix_cons.mpr ⟨rfl, hNext⟩).isInfix
    · exact h.squeezed (List.cons_prefix_cons.mpr ⟨hBreak.symm, hRow⟩).isInfix
    · exact (List.suffix_cons ..).isInfix
  · rintro ⟨hEnd, hRow, hRest⟩
    constructor
    · intro d hBlank hOther hPair
      rcases List.infix_cons_iff.mp hPair with hHere | hLater
      · obtain ⟨rfl, hNext⟩ := List.cons_prefix_cons.mp hHere
        exact hEnd hBlank hOther hNext
      · exact hRest.trimmed d hBlank hOther hLater
    · intro hTriple
      rcases List.infix_cons_iff.mp hTriple with hHere | hLater
      · obtain ⟨hBreak, hNext⟩ := List.cons_prefix_cons.mp hHere
        exact hRow hBreak.symm hNext
      · exact hRest.squeezed hLater

theorem ne_newline_of_solid {c : Char} (hSolid : isBlank c = false) : c ≠ '\n' := by
  rintro rfl
  exact absurd hSolid (by decide)

/-- A text of one line is settled. -/
theorem settled_of_not_mem {text : List Char} (hFree : '\n' ∉ text) : Settled text where
  trimmed _ _ _ hPair := hFree (hPair.subset (by simp))
  squeezed hRow := hFree (hRow.subset (by simp))

/-- A character that is not blank separates a text into two that are settled apart. -/
theorem settled_append_cons {c : Char} (hSolid : isBlank c = false) (before after : List Char) :
    Settled (before ++ c :: after) ↔ Settled before ∧ Settled after := by
  have hBreak := ne_newline_of_solid hSolid
  induction before with
  | nil =>
    have hNil : Settled [] := settled_of_not_mem (by simp)
    simp [settled_cons_iff, hSolid, hBreak, hNil]
  | cons d rest ih =>
    -- no row of line feeds reaches over the character
    have hNext : ∀ row, (∀ x ∈ row, x = '\n') → (row <+: rest ++ c :: after ↔ row <+: rest) := by
      intro row hRow
      refine ⟨fun hPrefix => ?_, fun hPrefix => hPrefix.trans (List.prefix_append ..)⟩
      rcases List.prefix_or_prefix_of_prefix hPrefix (List.prefix_append rest _) with h | h
      · exact h
      · obtain ⟨more, rfl⟩ := h
        rw [List.prefix_append_right_inj] at hPrefix
        cases more with
        | nil => simp
        | cons x others =>
          have hSame : x = c := (List.cons_prefix_cons.mp hPrefix).1
          exact absurd (hSame.symm.trans (hRow x (by simp))) hBreak
    rw [List.cons_append, settled_cons_iff, settled_cons_iff, hNext _ (by simp),
      hNext _ (by simp)]
    simp only [ih, and_assoc]

/-- A text that is kept has no blank at the end of a line, its last one included. -/
theorem trimmed_foldr (text : List Char) : ∀ c, isBlank c = true → c ≠ '\n' →
    ¬ [c, '\n'] <:+: text.foldr (keepUnless isTrailing) [] ++ ['\n'] := by
  intro c hBlank hOther
  induction text with
  | nil =>
    intro hPair
    have hLength := hPair.length_le
    simp at hLength
  | cons d rest ih =>
    rw [List.foldr_cons, keepUnless]
    generalize rest.foldr (keepUnless isTrailing) [] = kept at ih ⊢
    by_cases hDrop : isTrailing d kept = true
    · rwa [if_pos hDrop]
    · rw [if_neg hDrop, List.cons_append]
      intro hPair
      rcases List.infix_cons_iff.mp hPair with hHere | hLater
      · rw [List.cons_prefix_cons] at hHere
        obtain ⟨rfl, hNext⟩ := hHere
        -- the blank would have been dropped
        refine hDrop ?_
        cases kept with
        | nil => simp [isTrailing, hBlank, hOther]
        | cons e more =>
          rw [List.cons_append, List.cons_prefix_cons] at hNext
          simp [isTrailing, hBlank, hOther, isNewline, ← hNext.1]
      · exact ih hLater

theorem head?_foldr_isSurplus (text : List Char) :
    (text.foldr (keepUnless isSurplus) []).head? = text.head? := by
  cases text with
  | nil => rfl
  | cons c rest =>
    rw [List.foldr_cons, keepUnless]
    split
    · rename_i hDrop
      generalize rest.foldr (keepUnless isSurplus) [] = kept at hDrop ⊢
      simp only [isSurplus, isNewline, Bool.and_eq_true, Bool.or_eq_true, beq_iff_eq,
        List.isPrefixOf_iff_prefix] at hDrop
      obtain ⟨rfl, rfl | ⟨later, rfl⟩⟩ := hDrop
      · rfl
      · rfl
    · rfl

/-- What the two passes keep is settled, and stays so with a line feed at its end. -/
theorem settled_passed (text : List Char) : Settled (passed text ++ ['\n']) := by
  have hTrimmed := trimmed_foldr text
  rw [passed]
  generalize text.foldr (keepUnless isTrailing) [] = lines at hTrimmed ⊢
  induction lines with
  | nil => exact ⟨hTrimmed, fun hRow => by simpa using hRow.length_le⟩
  | cons c rest ih =>
    have hRest := ih fun d hBlank hOther hPair =>
      hTrimmed d hBlank hOther (hPair.trans (List.suffix_cons c _).isInfix)
    have hHead := head?_foldr_isSurplus rest
    rw [List.foldr_cons, keepUnless]
    generalize rest.foldr (keepUnless isSurplus) [] = kept at hRest hHead ⊢
    by_cases hDrop : isSurplus c kept = true
    · rwa [if_pos hDrop]
    · rw [if_neg hDrop, List.cons_append, settled_cons_iff]
      refine ⟨fun hBlank hOther hNext => ?_, fun hBreak hRow => hDrop ?_, hRest⟩
      · -- the same character would end a line before the second pass
        refine hTrimmed c hBlank hOther ?_
        rw [List.cons_append]
        refine (List.cons_prefix_cons.mpr ⟨rfl, ?_⟩).isInfix
        rw [singleton_prefix_iff_head?, List.head?_append] at hNext ⊢
        rw [← hHead]
        exact hNext
      · subst hBreak
        cases kept with
        | nil => simpa using hRow.length_le
        | cons d more =>
          rw [List.cons_append, List.cons_prefix_cons] at hRow
          obtain ⟨rfl, hRow⟩ := hRow
          cases more with
          | nil => rfl
          | cons e others =>
            rw [List.cons_append, List.cons_prefix_cons] at hRow
            obtain ⟨rfl, -⟩ := hRow
            rfl

/-- **A text in its layout is settled.** -/
theorem settled_tidy (text : List Char) : Settled (tidy text) := by
  refine (settled_passed text).piece ?_
  rw [tidy_eq]
  have hTrimmed : (passed text).dropWhile isNewline <:+ passed text := List.dropWhile_suffix _
  obtain ⟨dropped, hSame, hAll⟩ :=
    exists_dropEnd_append isNewline ((passed text).dropWhile isNewline)
  cases dropped with
  | nil =>
    -- nothing is dropped, and a line feed is put behind
    rw [List.append_nil] at hSame
    obtain ⟨leading, hWhole⟩ := hTrimmed
    rw [← hSame]
    exact ⟨leading, [], by rw [List.append_nil, ← List.append_assoc, hWhole]⟩
  | cons c more =>
    -- the first of the line feeds that are dropped takes the place of the one put behind
    have hBreak : c = '\n' := by simpa [isNewline] using hAll c (List.mem_cons_self ..)
    subst hBreak
    have hPrefix : dropEnd isNewline ((passed text).dropWhile isNewline) ++ ['\n'] <+:
        (passed text).dropWhile isNewline :=
      ⟨more, by rw [List.append_assoc]; exact hSame.symm⟩
    exact (hPrefix.isInfix.trans hTrimmed.isInfix).trans (List.prefix_append ..).isInfix

-- ---------------------------------------------------------------------------
-- Pieces
-- ---------------------------------------------------------------------------

/-- In a settled text that does not end in a blank, the first character is not dropped, whatever
comes after the text. -/
theorem not_dropped {c last : Char} {rest : List Char} (hSettled : Settled (c :: rest))
    (hLast : (c :: rest).getLast? = some last) (hSolid : isBlank last = false) (kept : List Char) :
    isTrailing c (rest ++ kept) = false ∧ isSurplus c (rest ++ kept) = false := by
  have hBreak := ne_newline_of_solid hSolid
  obtain ⟨hEnd, hRow, -⟩ := (settled_cons_iff c rest).mp hSettled
  cases rest with
  | nil =>
    obtain rfl : c = last := by simpa using hLast
    simp [isTrailing, isSurplus, isNewline, hSolid, hBreak]
  | cons d more =>
    constructor
    · rw [← Bool.not_eq_true]
      intro hDrop
      simp only [isTrailing, isNewline, List.cons_append, List.head?_cons, Option.all_some,
        Bool.and_eq_true, bne_iff_ne, beq_iff_eq] at hDrop
      exact hEnd hDrop.1.1 hDrop.1.2 (singleton_prefix_iff_head?.mpr (congrArg some hDrop.2))
    · rw [← Bool.not_eq_true]
      intro hDrop
      simp only [isSurplus, isNewline, List.cons_append, Bool.and_eq_true, Bool.or_eq_true,
        beq_iff_eq, List.isPrefixOf_iff_prefix] at hDrop
      obtain ⟨hHere, hNext⟩ := hDrop
      cases more with
      | nil =>
        -- the line feed after it would be the last character
        obtain rfl : d = last := by simpa using hLast
        rcases hNext with hOnly | hTwo
        · exact hBreak (List.cons.inj hOnly).1
        · exact hBreak (List.cons_prefix_cons.mp hTwo).1.symm
      | cons e others =>
        rcases hNext with hOnly | hTwo
        · exact absurd (List.cons.inj hOnly).2 (by simp)
        · rw [List.cons_prefix_cons, List.cons_append, List.cons_prefix_cons] at hTwo
          obtain ⟨rfl, rfl, -⟩ := hTwo
          exact hRow hHere ⟨others, rfl⟩

/-- A settled piece that does not end in a blank passes unchanged. -/
theorem infix_passed {piece text : List Char} {last : Char} (hPiece : piece <:+: text)
    (hSettled : Settled piece) (hLast : piece.getLast? = some last)
    (hSolid : isBlank last = false) : piece <:+: passed text := by
  have hKept : ∀ kept c rest, c :: rest <:+ piece →
      isTrailing c (rest ++ kept) = false ∧ isSurplus c (rest ++ kept) = false := by
    intro kept c rest hSuffix
    have hSame : (c :: rest).getLast? = some last := by
      obtain ⟨before, rfl⟩ := hSuffix
      simpa [List.getLast?_append] using hLast
    exact not_dropped (hSettled.piece hSuffix.isInfix) hSame hSolid kept
  rw [passed]
  refine infix_foldr_keepUnless (infix_foldr_keepUnless hPiece ?_) ?_
  · exact fun kept c rest hSuffix => (hKept kept c rest hSuffix).1
  · exact fun kept c rest hSuffix => (hKept kept c rest hSuffix).2

/-- **What the layout does to a piece** that begins and ends with characters that are not blank:
it is still there exactly if it is settled. -/
theorem infix_tidy_iff {piece text : List Char} {first last : Char} (hPiece : piece <:+: text)
    (hFirst : piece.head? = some first) (hOpens : isBlank first = false)
    (hLast : piece.getLast? = some last) (hCloses : isBlank last = false) :
    piece <:+: tidy text ↔ Settled piece := by
  constructor
  · exact (settled_tidy text).piece
  · intro hSettled
    have hSolid : ∀ c, isBlank c = false → isNewline c = false := by
      intro c hBlank
      simpa [isNewline] using ne_newline_of_solid hBlank
    obtain ⟨before, after, hPassed⟩ := infix_passed hPiece hSettled hLast hCloses
    -- neither end of the piece is within the line feeds that are trimmed
    have hLeading : ∃ leading, (passed text).dropWhile isNewline = leading ++ piece ++ after := by
      rw [← hPassed, List.append_assoc, List.dropWhile_append]
      split
      · refine ⟨[], ?_⟩
        obtain ⟨more, rfl⟩ := List.head?_eq_some_iff.mp hFirst
        rw [List.cons_append, List.dropWhile_cons_of_neg (by simp [hSolid first hOpens])]
        rfl
      · exact ⟨_, (List.append_assoc ..).symm⟩
    obtain ⟨leading, hLeading⟩ := hLeading
    obtain ⟨front, rfl⟩ := List.getLast?_eq_some_iff.mp hLast
    have hKept := dropEnd_append_cons (hSolid last hCloses) (leading ++ front) after
    rw [tidy_eq, hLeading]
    simp only [List.append_assoc, List.singleton_append] at hKept ⊢
    rw [hKept]
    exact ⟨leading, dropEnd isNewline after ++ ['\n'], by simp⟩

end Lexicon.Text
