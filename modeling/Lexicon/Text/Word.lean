import Lexicon.Text.Case
import Lexicon.Text.WordTable

/-!
# Lexicon — words fit for an identifier

Whether a text is a word that a programming language in the Unicode tradition
takes for an identifier: it opens with a letter or an underscore, and letters,
marks, digits and underscores follow.

* `isWordStart`, `isWordPart` — the two classes of characters.
* `isWord`                    — the test of a whole text.
-/

namespace Lexicon.Text

/-- May the character open an identifier? -/
def isWordStart (c : Char) : Bool :=
  if isAscii c then c.isAlpha || c == '_' else inRanges wordStart c

/-- May the character stand inside an identifier? -/
def isWordPart (c : Char) : Bool :=
  if isAscii c then c.isAlphanum || c == '_'
  else inRanges wordStart c || inRanges wordContinue c

/-- Is the text one word fit for an identifier? The empty text is none. -/
def isWord : List Char → Bool
  | [] => false
  | c :: rest => isWordStart c && rest.all isWordPart

end Lexicon.Text
