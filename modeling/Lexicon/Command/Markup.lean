import Lexicon.Text.Blank
import Lexicon.Text.Case

/-!
# Lexicon — markup

Messages carry markup for the terminal: a tag in brackets switches a style on, and one with
a slash switches it off. Where no terminal is at hand, only the text is shown.

* `tagAt?`  — a tag at the start of a text.
* `pieces`  — a text as what is shown and tags. A backslash before a tag makes it text.
* `plain`   — what is shown of a text. A style that is not on cannot be switched off.
* `escape`  — a text written so that all of it is shown.
-/

namespace Lexicon.Command.Markup

open Lexicon.Text

-- ---------------------------------------------------------------------------
-- Tags
-- ---------------------------------------------------------------------------

/-- May a tag begin with the character? -/
def opensTag (c : Char) : Bool := ('a' ≤ c && c ≤ 'z') || c == '#' || c == '/' || c == '@'

/-- Is the character a bracket? -/
def isBracket (c : Char) : Bool := c == '[' || c == ']'

/-- The inside of a tag whose opening bracket has been passed, and what follows the tag. -/
def tagAt? : List Char → Option (List Char × List Char)
  | [] => none
  | c :: rest =>
    if opensTag c then
      match rest.dropWhile fun d => !isBracket d with
      | ']' :: after => some (c :: rest.takeWhile (fun d => !isBracket d), after)
      | _ => none
    else none

/-- A part of a text. -/
inductive Piece where
  | text (chars : List Char)
  | tag (inside : List Char)
  deriving DecidableEq, Repr, Inhabited

/-- Backslashes and a tag: each two backslashes stand for one, and one that is left over
makes the tag a text. -/
def escapedTag (slashes : Nat) (inside : List Char) : List Piece :=
  .text (List.replicate (slashes / 2) '\\') ::
    if slashes % 2 == 1 then [.text ('[' :: inside ++ [']'])] else [.tag inside]

/-- The pieces of a text; `before` has been passed, last character first. The number of
characters bounds the steps. -/
def piecesFrom (fuel : Nat) (before text : List Char) : List Piece :=
  match fuel with
  | 0 => [.text (before.reverse ++ text)]
  | fuel + 1 =>
    let slashes := text.takeWhile (· == '\\')
    match text.drop slashes.length with
    | [] => [.text (before.reverse ++ slashes)]
    | c :: rest =>
      match if c == '[' then tagAt? rest else none with
      | some (inside, after) =>
        .text before.reverse :: escapedTag slashes.length inside ++ piecesFrom fuel [] after
      | none => piecesFrom fuel (c :: slashes ++ before) rest

/-- The pieces of a text. -/
def pieces (text : List Char) : List Piece := piecesFrom (text.length + 1) [] text

-- ---------------------------------------------------------------------------
-- Showing
-- ---------------------------------------------------------------------------

/-- A style is switched off that is not on. -/
inductive Fault where
  | notOn (style : List Char)
  | nothingOn
  deriving DecidableEq, Repr, Inhabited

/-- A text without the backslashes that stand before brackets. -/
def unescape : List Char → List Char
  | '\\' :: '[' :: rest => '[' :: unescape rest
  | c :: rest => c :: unescape rest
  | [] => []

/-- The style that a tag names. -/
def styleOf (inside : List Char) : List Char := inside.takeWhile (· != '=')

/-- The form in which styles are compared. -/
def styleKey (style : List Char) : List Char := lower (trim style)

/-- The styles that are on after a tag, the last one first. -/
def switch (on : List (List Char)) (inside : List Char) : Except Fault (List (List Char)) :=
  match styleOf inside with
  | '/' :: style =>
    if (trim style).isEmpty then
      match on with
      | [] => .error .nothingOn
      | _ :: rest => .ok rest
    else if on.contains (styleKey style) then .ok (on.erase (styleKey style))
    else .error (.notOn style)
  | style => .ok (styleKey style :: on)

/-- What is shown of some pieces when some styles are on. -/
def shown (on : List (List Char)) : List Piece → Except Fault (List Char)
  | [] => .ok []
  | .text chars :: rest => do
    let more ← shown on rest
    return unescape chars ++ more
  | .tag inside :: rest => do
    let on ← switch on inside
    shown on rest

/-- Is the character one that moves the cursor or rings the bell? -/
def isControl (c : Char) : Bool := [7, 8, 11, 12, 13].contains c.toNat

/-- What is shown of a text. -/
def plain (text : String) : Except Fault String := do
  let chars ← shown [] (pieces text.toList)
  return String.ofList (chars.filter fun c => !isControl c)

-- ---------------------------------------------------------------------------
-- Escaping
-- ---------------------------------------------------------------------------

/-- Puts backslashes before tags, and doubles those that are there. -/
def escapeFrom (fuel : Nat) (text : List Char) : List Char :=
  match fuel with
  | 0 => text
  | fuel + 1 =>
    let slashes := text.takeWhile (· == '\\')
    match text.drop slashes.length with
    | [] => slashes
    | c :: rest =>
      match if c == '[' then tagAt? rest else none with
      | some (inside, after) =>
        slashes ++ slashes ++ ('\\' :: '[' :: inside) ++ ']' :: escapeFrom fuel after
      | none => slashes ++ c :: escapeFrom fuel rest

/-- Doubles a single backslash at the end. -/
def escapeEnd (text : List Char) : List Char :=
  match text.reverse with
  | '\\' :: '\\' :: _ => text
  | '\\' :: _ => text ++ ['\\']
  | _ => text

/-- A text written so that all of it is shown. -/
def escape (text : String) : String :=
  String.ofList (escapeEnd (escapeFrom (text.toList.length + 1) text.toList))

end Lexicon.Command.Markup
