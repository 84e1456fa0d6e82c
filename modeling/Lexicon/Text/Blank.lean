/-!
# Lexicon — blanks and lines

A generated file is trimmed line by line, and a description becomes one comment
line per line of text. Both need to know which characters are *blank* and which
of them end a line.

* `isBlank`      — white space in the sense of Unicode, together with the four
                   information separators `U+001C` to `U+001F`.
* `isLineBreak`  — the blanks that end a line of prose.
* `trimEnd`, `trim` — a text without its trailing (and leading) blanks.
* `lines`        — a prose text cut at its line breaks.
* `split`        — a text cut at one separator character, `joinWith` its inverse.

Everything works on lists of characters, the view of a text on which statements
are made; callers convert at the border.
-/

namespace Lexicon.Text

-- ---------------------------------------------------------------------------
-- Blanks
-- ---------------------------------------------------------------------------

/-- A blank character: Unicode white space or an information separator. -/
def isBlank (c : Char) : Bool :=
  let n := c.toNat
  (9 ≤ n && n ≤ 13) || (28 ≤ n && n ≤ 32) || n == 0x85 || n == 0xA0 || n == 0x1680 ||
    (0x2000 ≤ n && n ≤ 0x200A) || n == 0x2028 || n == 0x2029 || n == 0x202F ||
    n == 0x205F || n == 0x3000

/-- A blank that ends a line of prose. A carriage return followed by a line
feed ends one line only, which `lines` takes care of. -/
def isLineBreak (c : Char) : Bool :=
  let n := c.toNat
  (10 ≤ n && n ≤ 13) || (28 ≤ n && n ≤ 30) || n == 0x85 || n == 0x2028 || n == 0x2029

/-- Whatever counts as white space in ASCII is blank. -/
theorem isBlank_of_isWhitespace {c : Char} (h : c.isWhitespace = true) : isBlank c = true := by
  simp only [Char.isWhitespace, Bool.or_eq_true, decide_eq_true_eq] at h
  rcases h with ((rfl | rfl) | rfl) | rfl <;> decide

/-- A line break is a blank. -/
theorem isBlank_of_isLineBreak {c : Char} (h : isLineBreak c = true) : isBlank c = true := by
  simp only [isLineBreak, isBlank, Bool.or_eq_true, Bool.and_eq_true, decide_eq_true_eq,
    beq_iff_eq] at h ⊢
  omega

-- ---------------------------------------------------------------------------
-- Trimming
-- ---------------------------------------------------------------------------

/-- The text without the longest run at its end that satisfies `p`. -/
def dropEnd (p : Char → Bool) : List Char → List Char
  | [] => []
  | c :: rest =>
    match dropEnd p rest with
    | [] => if p c then [] else [c]
    | kept => c :: kept

/-- The text without its trailing blanks. -/
def trimEnd (text : List Char) : List Char := dropEnd isBlank text

/-- The text without the blanks at either end. -/
def trim (text : List Char) : List Char := trimEnd (text.dropWhile isBlank)

-- ---------------------------------------------------------------------------
-- Cutting
-- ---------------------------------------------------------------------------

/-- The pieces of a text between the occurrences of `separator`; there is always
one piece more than there are separators. -/
def split (separator : Char) : List Char → List (List Char)
  | [] => [[]]
  | c :: rest =>
    if c = separator then [] :: split separator rest
    else
      match split separator rest with
      | [] => [[c]]
      | piece :: pieces => (c :: piece) :: pieces

/-- Puts `separator` between the pieces. -/
def joinWith (separator : List Char) : List (List Char) → List Char
  | [] => []
  | [piece] => piece
  | piece :: pieces => piece ++ separator ++ joinWith separator pieces

/-- The lines of a prose text. Every line break ends a line, a carriage return
with the line feed after it counts once, and a text that ends in a line break
has no further, empty line. -/
def lines : List Char → List (List Char)
  | [] => []
  | '\r' :: '\n' :: rest => [] :: lines rest
  | c :: rest =>
    if isLineBreak c then [] :: lines rest
    else
      match lines rest with
      | [] => [[c]]
      | line :: others => (c :: line) :: others

end Lexicon.Text
