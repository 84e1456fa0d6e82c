import Lexicon.Template.Syntax
import Lexicon.Encoding.Unicode
import Lexicon.Text.Word

/-!
# Lexicon — reading templates

A template that is added at run time is a text with places in double braces: a name,
and after bars the filters it passes through.

* `readPlace` — what stands between the braces.
* `read`      — a whole template. Line ends are unified first.

The filter for string literals is not known everywhere, so the caller says whether
it is.
-/

namespace Lexicon.Template

open Lexicon.Text

/-- The text of a place without the blanks around it. -/
def bare (text : List Char) : String := String.ofList (trim text)

/-- Reads the name of a filter. -/
def readFilter (literals : Bool) (name : String) : Except Fault Filter :=
  if name == "doc_lines" then .ok .docLines
  else if name == "block_comment" then .ok .blockComment
  else if name == "join" then .ok (.join "")
  else if name == "rust_string" && literals then .ok .literal
  else .error (.noFilter name)

/-- Reads what stands between double braces. -/
def readPlace (literals : Bool) (text : List Char) : Except Fault Part := do
  match split '|' text with
  | [] => .error (.malformed "")
  | name :: filters =>
    match split '.' name with
    | root :: attributes =>
      if ((root :: attributes).map fun part => isWord (trim part)).all id then
        let filters ← filters.mapM fun filter => readFilter literals (bare filter)
        return .emit { name := bare root, attributes := attributes.map bare, filters }
      else .error (.malformed (String.ofList text))
    | [] => .error (.malformed "")

/-- What has been read of a template: outside of braces, the text before, or between
them, what stands there; both last character first. -/
inductive Reading where
  | outside (before : List Char)
  | inside (place : List Char)

/-- A text piece, unless it is empty. -/
def textPart (reversed : List Char) : List Part :=
  if reversed.isEmpty then [] else [.text (String.ofList reversed.reverse)]

/-- Reads the rest of a template. -/
def readFrom (literals : Bool) : Reading → List Char → Except Fault (List Part)
  | .outside before, [] => .ok (textPart before)
  | .inside _, [] => .error (.malformed "end of template")
  | .outside before, '\x7b' :: '\x7b' :: rest =>
    (textPart before ++ ·) <$> readFrom literals (.inside []) rest
  | .outside before, c :: rest => readFrom literals (.outside (c :: before)) rest
  | .inside place, '\x7d' :: '\x7d' :: rest => do
    let part ← readPlace literals place.reverse
    let others ← readFrom literals (.outside []) rest
    return part :: others
  | .inside place, c :: rest => readFrom literals (.inside (c :: place)) rest

/-- Reads a template. -/
def read (literals : Bool) (content : String) : Except Fault (List Part) :=
  readFrom literals (.outside []) (Encoding.unifyLineEnds content.toList)

end Lexicon.Template
