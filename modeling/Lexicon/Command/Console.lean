import Lexicon.Command.Markup
import Lexicon.Encoding.Utf8
import Lexicon.Log
import Lexicon.Source.Tree

/-!
# Lexicon — the console

What a command leaves behind for its user: two streams of text, tables, the log, and the
files.

* `Console`       — all of it.
* `Console.print` — prints a message with markup.
* `Console.emit`  — writes text to the first stream as it is.
* `Console.table` — prints a table, whose title and cells have markup, too.
* `Console.save`  — writes a file.
-/

namespace Lexicon.Command

-- ---------------------------------------------------------------------------
-- Tabs
-- ---------------------------------------------------------------------------

/-- The columns between two tab stops. -/
def tabWidth : Nat := 8

/-- How many columns a character takes: none if it only chooses the look of the one before. -/
def columnsOf (c : Char) : Nat := if c.toNat == 0xFE0F then 0 else 1

/-- A text with blanks for its tabs, from a column on. -/
def expandTabs (column : Nat) : List Char → List Char
  | [] => []
  | '\t' :: rest =>
    let width := tabWidth - column % tabWidth
    List.replicate width ' ' ++ expandTabs (column + width) rest
  | '\n' :: rest => '\n' :: expandTabs 0 rest
  | c :: rest => c :: expandTabs (column + columnsOf c) rest

-- ---------------------------------------------------------------------------
-- Console
-- ---------------------------------------------------------------------------

/-- A table: what is shown of its title, of the heads of its columns and of its cells. -/
structure Table where
  title : String
  columns : List String
  rows : List (List String)
  deriving DecidableEq, Repr, Inhabited

/-- What has been printed and logged, and the files as they are now. -/
structure Console where
  files : Source.Tree := {}
  output : String := ""
  messages : String := ""
  tables : List Table := []
  records : List Log.Record := []
  deriving DecidableEq, Repr, Inhabited

namespace Console

/-- Prints a message with markup; the console stays as it is if the markup has a fault. -/
def print (console : Console) (markup : String) : Except Markup.Fault Console := do
  let text ← Markup.plain markup
  let line := String.ofList (expandTabs 0 text.toList)
  return { console with messages := console.messages ++ line ++ "\n" }

/-- Writes text to the first stream. -/
def emit (console : Console) (text : String) : Console :=
  { console with output := console.output ++ text }

/-- Prints a table. -/
def table (console : Console) (title : String) (columns : List String)
    (rows : List (List String)) : Except Markup.Fault Console := do
  let title ← Markup.plain title
  let rows ← rows.mapM fun row => row.mapM Markup.plain
  return { console with tables := console.tables ++ [{ title, columns, rows }] }

/-- Logs records. -/
def log (console : Console) (records : List Log.Record) : Console :=
  { console with records := console.records ++ records }

/-- Writes a text to a file. -/
def save (console : Console) (location : Source.Location) (text : String) :
    Except Source.FileFault Console := do
  let files ← console.files.write location (Encoding.Utf8.encode text)
  return { console with files }

end Console

end Lexicon.Command
