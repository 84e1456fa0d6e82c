import Lexicon.Naming.Identifier

/-!
# Lexicon — the words and literals of Rust

* `policy`       — the reserved words, and how a name that is one of them is written.
* `isIdentifier` — may a definition's name stand as an identifier?
* `literal`      — a text as a string literal.
-/

namespace Lexicon.Target

/-- The strict and the reserved keywords, usable behind `r#`. -/
def reservedWords : List String :=
  ["abstract", "as", "async", "await", "become", "box", "break", "const", "continue", "do", "dyn",
   "else", "enum", "extern", "false", "final", "fn", "for", "gen", "if", "impl", "in", "let",
   "loop", "macro", "match", "mod", "move", "mut", "override", "priv", "pub", "ref", "return",
   "static", "struct", "trait", "true", "try", "type", "typeof", "unsafe", "unsized", "use",
   "virtual", "where", "while", "yield"]

/-- The words that not even `r#` makes usable. -/
def unescapableWords : List String := ["crate", "self", "Self", "super", "_"]

/-- How names keep clear of the reserved words. -/
def policy : Naming.WordPolicy :=
  { reserved := reservedWords, unescapable := unescapableWords, escape := "r#", suffix := "_" }

/-- May the character open an identifier? -/
def isNameStart (c : Char) : Bool := Naming.isCapital c || Naming.isSmall c || c == '_'

/-- Has the text the form of an ASCII identifier? One line feed at its end is let
through. -/
def isIdentifier (name : List Char) : Bool :=
  match name with
  | [] => false
  | c :: rest =>
    let tail := if rest.getLast? = some '\n' then rest.dropLast else rest
    isNameStart c && tail.all Naming.isNamePart

/-- The characters that stand for one character inside a literal. -/
def escaped (c : Char) : List Char :=
  if c = '\\' then ['\\', '\\'] else if c = '"' then ['\\', '"'] else [c]

/-- A text as a string literal. -/
def literal (text : String) : String :=
  String.ofList ('"' :: text.toList.flatMap escaped ++ ['"'])

end Lexicon.Target
