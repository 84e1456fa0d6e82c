import Mathlib.Data.List.Infix
import Lexicon.Text.Layout

/-!
# Lexicon — texts in block comments

In the target language block comments nest: every opening mark inside a comment asks for a closing
mark of its own. A text that is put into a comment gets a blank into each of its closing marks,
while its opening marks stay. So it cannot close the comment, but it can keep it from being closed.

* `afterComment`, `afterBlockComment` — what is left of a text behind the comment that it begins
                           with.
* `openings`             — how many comments are opened by a text in which none is closed.
* `afterComment_append`  — such a text is passed, and the comments that it opens remain open.
* `blockSafe_closes`, `openings_blockSafe` — what breaking up the closing marks does to a text: none
                           is left, and as many comments are opened as before.
* `blockSafe_eq_self_iff`, `mem_blockSafe_iff` — a text without closing marks stays as it is, and no
                           other characters than blanks are put in.
* `pair_infix_append`    — where two characters can stand in a row.
-/

namespace Lexicon.Text

-- ---------------------------------------------------------------------------
-- Reading comments
-- ---------------------------------------------------------------------------

/-- Reads on inside a comment, up to its closing mark and that of the `depth` comments around it:
what is left of the text after that, if the marks are all there. -/
def afterComment : List Char → (depth : Nat) → Option (List Char)
  | '/' :: '*' :: rest, depth => afterComment rest (depth + 1)
  | '*' :: '/' :: rest, 0 => some rest
  | '*' :: '/' :: rest, depth + 1 => afterComment rest depth
  | _ :: rest, depth => afterComment rest depth
  | [], _ => none

/-- What is left of a text behind the block comment that it begins with. -/
def afterBlockComment : List Char → Option (List Char)
  | '/' :: '*' :: rest => afterComment rest 0
  | _ => none

/-- How many comments a text opens, its opening marks read one after the other. -/
def openings : List Char → Nat
  | '/' :: '*' :: rest => openings rest + 1
  | _ :: rest => openings rest
  | [] => 0

/-- A mark that begins in a text ends in it, if the character behind the text is none of its own. -/
theorem pair_prefix_of_append {first second c d : Char} {rest later : List Char}
    (hOther : c ≠ second) (h : [first, second] <+: d :: (rest ++ c :: later)) :
    [first, second] <+: d :: rest := by
  obtain ⟨hFirst, hSecond⟩ := List.cons_prefix_cons.mp h
  refine List.cons_prefix_cons.mpr ⟨hFirst, ?_⟩
  cases rest with
  | nil => exact absurd (List.cons_prefix_cons.mp hSecond).1.symm hOther
  | cons e more =>
    exact List.cons_prefix_cons.mpr ⟨(List.cons_prefix_cons.mp hSecond).1, List.nil_prefix⟩

/-- No opening mark begins where a slash is not followed by a star. -/
theorem not_opens {c : Char} {rest : List Char}
    (hNoMark : ∀ more, c = '/' → rest = '*' :: more → False) : ¬ ['/', '*'] <+: c :: rest := by
  rintro ⟨more, hSame⟩
  obtain ⟨rfl, rfl⟩ := List.cons.inj hSame
  exact hNoMark more rfl rfl

/-- A character that is part of no mark is passed. -/
theorem afterComment_pass {c : Char} {rest : List Char} (hOpen : ¬ ['/', '*'] <+: c :: rest)
    (hClose : ¬ ['*', '/'] <+: c :: rest) (depth : Nat) :
    afterComment (c :: rest) depth = afterComment rest depth := by
  refine afterComment.eq_4 depth c rest ?_ ?_ ?_
  · rintro more rfl rfl
    exact hOpen (List.prefix_append ['/', '*'] more)
  · rintro more - rfl rfl
    exact hClose (List.prefix_append ['*', '/'] more)
  · rintro more _ - rfl rfl
    exact hClose (List.prefix_append ['*', '/'] more)

/-- So is a text that has none of the characters that marks are made of. -/
theorem afterComment_plain {text : List Char} (h : ∀ c ∈ text, c ≠ '*' ∧ c ≠ '/')
    (later : List Char) (depth : Nat) :
    afterComment (text ++ later) depth = afterComment later depth := by
  induction text with
  | nil => rfl
  | cons c rest ih =>
    obtain ⟨hStar, hSlash⟩ := h c (List.mem_cons_self ..)
    have hRest := ih fun d hd => h d (List.mem_cons_of_mem _ hd)
    rw [List.cons_append, afterComment_pass, hRest]
    · exact fun hOpen => hSlash (List.cons_prefix_cons.mp hOpen).1.symm
    · exact fun hClose => hStar (List.cons_prefix_cons.mp hClose).1.symm

theorem openings_pass {c : Char} {rest : List Char} (hOpen : ¬ ['/', '*'] <+: c :: rest) :
    openings (c :: rest) = openings rest := by
  refine openings.eq_2 c rest ?_
  rintro more rfl rfl
  exact hOpen (List.prefix_append ['/', '*'] more)

/-- No comment is opened by a text without an opening mark, and by no other text. -/
theorem openings_eq_zero_iff (text : List Char) : openings text = 0 ↔ ¬ ['/', '*'] <:+: text := by
  fun_induction openings text with
  | case1 rest ih => simpa using (List.prefix_append ['/', '*'] rest).isInfix
  | case2 c rest hNoMark ih =>
    rw [ih, List.infix_cons_iff, not_or, and_iff_right (not_opens hNoMark)]
  | case3 => simp

/-- **What a text without closing marks does** to the comment that it stands in: it is passed, and
the comments that it opens have to be closed as well. What follows must not complete a mark. -/
theorem afterComment_append {text : List Char} (hSafe : ¬ ['*', '/'] <:+: text) {c : Char}
    (hStar : c ≠ '*') (hSlash : c ≠ '/') (later : List Char) (depth : Nat) :
    afterComment (text ++ c :: later) depth =
      afterComment (c :: later) (depth + openings text) := by
  fun_induction openings text generalizing depth with
  | case1 rest ih =>
    have hRest : ¬ ['*', '/'] <:+: rest := fun h =>
      hSafe (h.trans (List.suffix_append ['/', '*'] rest).isInfix)
    have hStep : afterComment ('/' :: '*' :: rest ++ c :: later) depth =
        afterComment (rest ++ c :: later) (depth + 1) := rfl
    rw [hStep, ih hRest, Nat.add_assoc, Nat.add_comm 1]
  | case2 d rest hNoMark ih =>
    have hRest : ¬ ['*', '/'] <:+: rest := fun h =>
      hSafe (h.trans (List.suffix_cons d rest).isInfix)
    rw [List.cons_append, afterComment_pass, ih hRest]
    · exact fun hOpen => not_opens hNoMark (pair_prefix_of_append hStar hOpen)
    · exact fun hClose => hSafe (pair_prefix_of_append hSlash hClose).isInfix
  | case3 => rfl

-- ---------------------------------------------------------------------------
-- Broken marks
-- ---------------------------------------------------------------------------

theorem blockSafe_head? (text : List Char) : (blockSafe text).head? = text.head? := by
  fun_cases blockSafe text <;> rfl

/-- **No closing mark is left.** -/
theorem blockSafe_closes (text : List Char) : ¬ ['*', '/'] <:+: blockSafe text := by
  fun_induction blockSafe text with
  | case1 rest ih => simpa [List.infix_cons_iff] using ih
  | case2 c rest hNoMark ih =>
    rw [List.infix_cons_iff, not_or]
    refine ⟨fun hMark => ?_, ih⟩
    obtain ⟨hStar, hSlash⟩ := List.cons_prefix_cons.mp hMark
    obtain ⟨more, hMore⟩ := hSlash
    have hHead := blockSafe_head? rest
    rw [← hMore] at hHead
    obtain ⟨later, rfl⟩ := List.head?_eq_some_iff.mp hHead.symm
    exact hNoMark later hStar.symm rfl
  | case3 => simp

/-- **As many comments are opened as before**, also behind a slash that stands before the text. -/
theorem openings_blockSafe_both (text : List Char) :
    openings (blockSafe text) = openings text ∧
      openings ('/' :: blockSafe text) = openings ('/' :: text) := by
  fun_induction blockSafe text with
  | case1 rest ih =>
    obtain ⟨-, hSlash⟩ := ih
    exact ⟨hSlash, congrArg (· + 1) hSlash⟩
  | case2 c rest hNoMark ih =>
    obtain ⟨hPlain, hSlash⟩ := ih
    have hHere : openings (c :: blockSafe rest) = openings (c :: rest) := by
      by_cases hc : c = '/'
      · rw [hc, hSlash]
      · have hNone : ∀ more, ¬ ['/', '*'] <+: c :: more := fun more hMark =>
          hc (List.cons_prefix_cons.mp hMark).1.symm
        rw [openings_pass (hNone _), openings_pass (hNone _), hPlain]
    refine ⟨hHere, ?_⟩
    by_cases hc : c = '*'
    · rw [hc]
      exact congrArg (· + 1) hPlain
    · have hNone : ∀ more, ¬ ['/', '*'] <+: '/' :: c :: more := fun more hMark =>
        hc (List.cons_prefix_cons.mp (List.cons_prefix_cons.mp hMark).2).1.symm
      rw [openings_pass (hNone _), openings_pass (hNone _), hHere]
  | case3 => exact ⟨rfl, rfl⟩

theorem openings_blockSafe (text : List Char) : openings (blockSafe text) = openings text :=
  (openings_blockSafe_both text).1

/-- A text without closing marks is left as it is, and no other text. -/
theorem blockSafe_eq_self_iff (text : List Char) :
    blockSafe text = text ↔ ¬ ['*', '/'] <:+: text := by
  refine ⟨fun h => h ▸ blockSafe_closes text, fun h => ?_⟩
  fun_induction blockSafe text with
  | case1 rest ih => exact absurd (List.prefix_append ['*', '/'] rest).isInfix h
  | case2 c rest hNoMark ih =>
    rw [ih fun hMark => h (hMark.trans (List.suffix_cons c rest).isInfix)]
  | case3 => rfl

/-- Nothing but blanks is put in, and nothing is left out. -/
theorem mem_blockSafe_iff {c : Char} (hOther : c ≠ ' ') (text : List Char) :
    c ∈ blockSafe text ↔ c ∈ text := by
  fun_induction blockSafe text with
  | case1 rest ih => simp [ih, hOther]
  | case2 d rest hNoMark ih => simp [ih]
  | case3 => rfl

/-- Two characters that stand in a row do so in one of two texts, or at the border between them. -/
theorem pair_infix_append {c d : Char} {text later : List Char} (h : [c, d] <:+: text ++ later)
    (hBorder : text.getLast? = some c → later.head? ≠ some d) :
    [c, d] <:+: text ∨ [c, d] <:+: later := by
  induction text with
  | nil => exact .inr h
  | cons e rest ih =>
    rw [List.cons_append, List.infix_cons_iff] at h
    rcases h with hHere | hThere
    · obtain ⟨rfl, hNext⟩ := List.cons_prefix_cons.mp hHere
      cases rest with
      | nil =>
        obtain ⟨more, rfl⟩ := hNext
        exact absurd rfl (hBorder rfl)
      | cons f more =>
        obtain ⟨rfl, -⟩ := List.cons_prefix_cons.mp hNext
        exact .inl (List.prefix_append [c, d] more).isInfix
    · refine (ih hThere fun hLast => hBorder ?_).imp_left fun hRest =>
        hRest.trans (List.suffix_cons e rest).isInfix
      obtain ⟨front, rfl⟩ := List.getLast?_eq_some_iff.mp hLast
      rw [← List.cons_append, List.getLast?_concat]

end Lexicon.Text
