import Lexicon.Text.Blank
import Lexicon.Text.Case

/-!
# Lexicon — from wire names to identifiers

A wire name is any text. The functions of this module bring it into the form of
an identifier, one concern at a time.

* `Style`           — the four ways to write a name of several words.
* `underscored`     — hyphens and dots become underscores.
* `snake`           — words in small letters, joined by single underscores; leading
                      underscores are kept.
* `camel`, `pascal` — words joined without a mark, initials in title case.
* `cleaned`         — whatever else an identifier may not hold becomes an underscore.
* `convert`         — all of this together.
* `nestedName`      — the type name of an object that is described in place.
-/

namespace Lexicon.Naming

open Lexicon.Text

-- ---------------------------------------------------------------------------
-- Characters
-- ---------------------------------------------------------------------------

/-- A capital letter of ASCII. -/
def isCapital (c : Char) : Bool := 'A' ≤ c && c ≤ 'Z'

/-- A small letter of ASCII. -/
def isSmall (c : Char) : Bool := 'a' ≤ c && c ≤ 'z'

/-- A digit of ASCII. -/
def isDecimal (c : Char) : Bool := '0' ≤ c && c ≤ '9'

/-- May the character stand inside an identifier? -/
def isNamePart (c : Char) : Bool := isCapital c || isSmall c || isDecimal c || c == '_'

-- ---------------------------------------------------------------------------
-- Type names
-- ---------------------------------------------------------------------------

/-- The text with its hyphens and dots turned into underscores. -/
def underscored (name : List Char) : List Char :=
  name.map fun c => if c = '-' || c = '.' then '_' else c

/-- The text with its first character in upper case and the rest as it is. -/
def withCapital : List Char → List Char
  | [] => []
  | c :: rest => upperChar c ++ rest

/-- The type name of an object described in place as a property of `owner`. -/
def nestedName (owner property : String) : String :=
  owner ++ String.ofList (withCapital (underscored property.toList))

-- ---------------------------------------------------------------------------
-- Words
-- ---------------------------------------------------------------------------

/-- Puts an underscore between a small letter or digit and the capital after it. -/
def splitHumps : List Char → List Char
  | c :: d :: rest =>
    if (isSmall c || isDecimal c) && isCapital d then c :: '_' :: splitHumps (d :: rest)
    else c :: splitHumps (d :: rest)
  | rest => rest

/-- Puts an underscore before the last of several capitals, where a small letter
follows it. -/
def splitAcronyms : List Char → List Char
  | c :: d :: e :: rest =>
    if isCapital c && isCapital d && isSmall e then c :: '_' :: splitAcronyms (d :: e :: rest)
    else c :: splitAcronyms (d :: e :: rest)
  | rest => rest

/-- Leaves one underscore of each run of them. -/
def squeeze : List Char → List Char
  | [] => []
  | c :: rest => if c = '_' && rest.head? = some '_' then squeeze rest else c :: squeeze rest

/-- Is it the underscore? -/
def isUnderscore (c : Char) : Bool := c == '_'

/-- Words in small letters with single underscores between them, after as many
underscores as the name began with. -/
def snake (name : List Char) : List Char :=
  let words := squeeze (lower (splitAcronyms (splitHumps name)))
  name.takeWhile isUnderscore ++ dropEnd isUnderscore (words.dropWhile isUnderscore)

/-- The words of a name, in small letters. -/
def words (name : List Char) : List (List Char) :=
  (split '_' (snake name)).filter fun word => !word.isEmpty

/-- The words run together, all but the first with an initial in title case. A
name without words is left as it is. -/
def camel (name : List Char) : List Char :=
  match words name with
  | [] => name
  | first :: others => first ++ others.flatMap capitalize

/-- The words run together, each with an initial in title case. -/
def pascal (name : List Char) : List Char := (words name).flatMap capitalize

-- ---------------------------------------------------------------------------
-- Styles
-- ---------------------------------------------------------------------------

/-- A way to write a name of several words. -/
inductive Style where
  | original | snake | camel | pascal
  deriving DecidableEq, Repr, Inhabited

namespace Style

/-- All styles. -/
def all : List Style := [original, snake, camel, pascal]

/-- The name of a style in settings. -/
def name : Style → String
  | original => "original"
  | snake => "snake"
  | camel => "camel"
  | pascal => "pascal"

/-- The style of a given name. -/
def ofName? (s : String) : Option Style := all.find? fun style => style.name == s

theorem ofName?_name (style : Style) : ofName? style.name = some style := by
  cases style <;> decide

/-- Writes a name in a style. -/
def apply : Style → List Char → List Char
  | original, name => name
  | snake, name => Naming.snake name
  | camel, name => Naming.camel name
  | pascal, name => Naming.pascal name

end Style

/-- Makes a text an identifier: other characters become underscores, a leading
digit gets an underscore before it, and the empty text becomes `field`. -/
def cleaned (name : List Char) : List Char :=
  match name.map fun c => if isNamePart c then c else '_' with
  | [] => "field".toList
  | c :: rest => if isDecimal c then '_' :: c :: rest else c :: rest

/-- The identifier that a wire name becomes in a style, if nothing is in its way. -/
def convert (name : String) (style : Style) : String :=
  String.ofList (cleaned (style.apply (underscored name.toList)))

end Lexicon.Naming
