import Lexicon.Template.BuiltIn
import Lexicon.Template.Reader

/-!
# Lexicon — a store of templates

A store finds a template by its name: among the texts that were added to it, then
among its files.

* `Store.add`    — adds a text; one of the same name is replaced.
* `Store.find`   — looks a template up. A file that was found once is found again even
                   if a text of its name has been added since.
* `Store.render` — fills a template.

The name of a file may be spelled with empty segments or single dots in it.
-/

namespace Lexicon.Template

open Lexicon.Text

/-- A store: whether it has the files, the added texts, and the names under which
files have been found. -/
structure Store where
  hasFiles : Bool := false
  literals : Bool := false
  added : List (String × String) := []
  found : List String := []
  deriving DecidableEq, Repr, Inhabited

namespace Store

/-- The segments of a path that say something; `none` if it leads upwards. -/
def segments? (name : String) : Option (List String) :=
  let parts := (split '/' name.toList).map String.ofList
  if parts.contains ".." then none
  else some (parts.filter fun part => part != "" && part != ".")

/-- The file of a given name. -/
def file? (store : Store) (name : String) : Option (List Part) :=
  if store.hasFiles then
    match segments? name with
    | some [segment] => files.lookup segment
    | _ => none
  else none

/-- Adds a text under a name. -/
def add (store : Store) (name content : String) : Store :=
  { store with added := (name, content) :: store.added.filter fun e => e.1 != name }

/-- Looks a template up. -/
def find (store : Store) (name : String) : Except Fault (List Part) × Store :=
  match (if store.found.contains name then store.file? name else none) with
  | some parts => (.ok parts, store)
  | none =>
    match store.added.lookup name with
    | some content => (read store.literals content, store)
    | none =>
      match store.file? name with
      | some parts => (.ok parts, { store with found := name :: store.found })
      | none => (.error (.noTemplate name), store)

/-- Is there a template of the name? A text that cannot be read is a fault. -/
def contains (store : Store) (name : String) : Except Fault Bool × Store :=
  match store.find name with
  | (.ok _, next) => (.ok true, next)
  | (.error (.noTemplate _), next) => (.ok false, next)
  | (.error e, next) => (.error e, next)

/-- Fills the template of a name. -/
def render (store : Store) (name : String) (context : Fields) :
    Except Fault String × Store :=
  match store.find name with
  | (.ok parts, next) => (renderAll context parts, next)
  | (.error e, next) => (.error e, next)

/-- Fills a template given as a text. -/
def renderText (store : Store) (content : String) (context : Fields) : Except Fault String :=
  match read store.literals content with
  | .ok parts => renderAll context parts
  | .error e => .error e

end Store

end Lexicon.Template
