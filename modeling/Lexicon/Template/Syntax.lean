import Lexicon.Target.Syntax
import Lexicon.Text.Layout
import Lexicon.Value.Display

/-!
# Lexicon — templates

Declarations are written by templates: texts with places in them that are filled
from a context.

* `Filter`, `Expression`, `Part` — the pieces of a template.
* `TemplateFault`                — why a template cannot be filled, with `message`.
* `Expression.value`             — what an expression stands for in a context.
* `Part.render`, `renderAll`     — the text of a filled template.

A name that the context lacks is a fault, reported when its place is reached.
-/

namespace Lexicon.Template

open Lexicon.Text

-- ---------------------------------------------------------------------------
-- Pieces
-- ---------------------------------------------------------------------------

/-- A function that a value passes through on its way into the text. -/
inductive Filter where
  | docLines
  | blockComment
  | literal
  | join (separator : String)
  deriving DecidableEq, Repr, Inhabited

/-- A name looked up in the context, attributes looked up in what it stands for, and
filters. -/
structure Expression where
  name : String
  attributes : List String := []
  filters : List Filter := []
  deriving DecidableEq, Repr, Inhabited

/-- A piece of a template: a text, a place to fill, a part that is repeated for each
item, and a part that stands only if a value is switched on. -/
inductive Part where
  | text (s : String)
  | emit (e : Expression)
  | each (name : String) (items : Expression) (body : List Part)
  | given (condition : Expression) (body : List Part)
  deriving Inhabited

-- ---------------------------------------------------------------------------
-- Faults
-- ---------------------------------------------------------------------------

/-- Why a template cannot be filled. -/
inductive Fault where
  | noTemplate (name : String)
  | noFilter (name : String)
  | malformed (text : String)
  | undefined (name : String)
  | noAttribute (className : Option String) (name : String)
  | notIterable (className : String)
  deriving DecidableEq, Repr, Inhabited

/-- The wording of a fault. -/
def Fault.message : Fault → String
  | .noTemplate name => name
  | .noFilter name => "No filter named " ++ quote name ++ "."
  | .malformed text => "unexpected " ++ quote text
  | .undefined name => quote name ++ " is undefined"
  | .noAttribute none name => quote "None" ++ " has no attribute " ++ quote name
  | .noAttribute (some className) name =>
    quote (className ++ " object") ++ " has no attribute " ++ quote name
  | .notIterable className => quote className ++ " object is not iterable"

-- ---------------------------------------------------------------------------
-- Expressions
-- ---------------------------------------------------------------------------

/-- The items of a value: those of a list, the keys of a mapping, the characters of a
text. -/
def itemsOf : Value → Except Fault (List Value)
  | .list items => .ok items
  | .mapping entries => .ok (entries.map fun e => .text e.1)
  | .text s => .ok (s.toList.map fun c => .text c.toString)
  | value => .error (.notIterable value.className)

/-- What an attribute of a value stands for. -/
def attributeOf (value : Value) (name : String) : Except Fault Value :=
  let missing : Except Fault Value := .error (.noAttribute (some value.className) name)
  match value with
  | .mapping entries =>
    match entries.lookup name with
    | some found => .ok found
    | none => missing
  | .null => .error (.noAttribute none name)
  | _ => missing

namespace Filter

/-- Passes a value through a filter. -/
def apply : Filter → Value → Except Fault Value
  | docLines, value =>
    if value.truthy then
      .ok (.list ((Text.docLines value.display.toList).map fun l => .text (String.ofList l)))
    else .ok (.list [])
  | blockComment, value => .ok (.text (String.ofList (blockSafe value.display.toList)))
  | literal, value => .ok (.text (Target.literal value.display))
  | join separator, value =>
    (fun items => .text (separator.intercalate (items.map Value.display))) <$> itemsOf value

end Filter

/-- What an expression stands for in a context. -/
def Expression.value (e : Expression) (context : Fields) : Except Fault Value := do
  let found ← match context.lookup e.name with
    | some value => .ok value
    | none => .error (.undefined e.name)
  let inner ← e.attributes.foldlM attributeOf found
  e.filters.foldlM (fun value filter => filter.apply value) inner

-- ---------------------------------------------------------------------------
-- Rendering
-- ---------------------------------------------------------------------------

mutual

/-- The text of a piece in a context. -/
def Part.render (context : Fields) : Part → Except Fault String
  | .text s => .ok s
  | .emit e => Value.display <$> e.value context
  | .each name items body => do
    let values ← itemsOf (← items.value context)
    let texts ← values.mapM fun value => renderAll (Fields.put name value context) body
    return String.join texts
  | .given condition body => do
    if (← condition.value context).truthy then renderAll context body else return ""

/-- The text of several pieces in a context. -/
def renderAll (context : Fields) : List Part → Except Fault String
  | [] => .ok ""
  | part :: rest => do
    let text ← part.render context
    let others ← renderAll context rest
    return text ++ others

end

end Lexicon.Template
