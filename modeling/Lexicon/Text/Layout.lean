import Lexicon.Text.Blank

/-!
# Lexicon — the layout of generated text

* `tidy`      — no trailing blanks, no two empty lines in a row, none at either end,
                and a line feed at the very end.
* `docLines`  — the lines of a description, one for each line of a doc comment.
* `blockSafe` — a text that cannot close the block comment it is put into.
-/

namespace Lexicon.Text

/-- Is it the line feed? -/
def isNewline (c : Char) : Bool := c == '\n'

/-- Leaves one empty line of each run of them. -/
def squeezeLines : List (List Char) → List (List Char)
  | [] => []
  | line :: rest =>
    if line.isEmpty && rest.head? = some [] then squeezeLines rest
    else line :: squeezeLines rest

/-- Brings a text into its layout: lines end without blanks, an empty line stands
alone and between others, and the text ends in one line feed. -/
def tidy (text : List Char) : List Char :=
  let kept := squeezeLines ((split '\n' text).map trimEnd)
  dropEnd isNewline ((joinWith ['\n'] kept).dropWhile isNewline) ++ ['\n']

/-- The lines of a description, without the blanks around the whole and at the end
of each line. -/
def docLines (text : List Char) : List (List Char) := (lines (trim text)).map trimEnd

/-- The text with a blank put into every closing mark of a block comment. -/
def blockSafe : List Char → List Char
  | '*' :: '/' :: rest => '*' :: ' ' :: '/' :: blockSafe rest
  | c :: rest => c :: blockSafe rest
  | [] => []

end Lexicon.Text
