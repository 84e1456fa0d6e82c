import Lexicon.Command.Arguments
import Lexicon.Command.Console

/-!
# Lexicon — what the terminal shows

* `usage`, `helpText`  — how the program is called.
* `Table.text`         — a table as text.
* `logLine`            — a record of the log as text.
-/

namespace Lexicon.Command

-- ---------------------------------------------------------------------------
-- Help
-- ---------------------------------------------------------------------------

/-- How the program is called, in short. -/
def usage : String :=
  "usage: lexgen [-h] [--version] [--stdin] [--language LANGUAGE] [--output FILE]\n" ++
  "              [--config FILE] [--prelude] [--no-comments]\n" ++
  "              [--field-case \x7bcamel,original,pascal,snake\x7d] [--expand-records]\n" ++
  "              [--skip-none] [--list-languages] [--show-config] [--verbose]\n" ++
  "              [SOURCE ...]\n"

/-- How the program is called. -/
def helpText : String :=
  usage ++ "\n" ++
  "Generate Rust declarations from lexicon schema documents\n" ++
  "\n" ++
  "positional arguments:\n" ++
  "  SOURCE                Lexicon JSON files or URLs, processed in order\n" ++
  "\n" ++
  "options:\n" ++
  "  -h, --help            show this help message and exit\n" ++
  "  --version             show program's version number and exit\n" ++
  "  --stdin               Read one lexicon from standard input\n" ++
  "\n" ++
  "code generation:\n" ++
  "  --language LANGUAGE, -l LANGUAGE\n" ++
  "                        Target language (default: rust; see --list-languages)\n" ++
  "  --output FILE, -o FILE\n" ++
  "                        Output file for generated code (default: stdout)\n" ++
  "  --config FILE, --options-override FILE\n" ++
  "                        JSON or YAML file overriding generator options\n" ++
  "\n" ++
  "generation options:\n" ++
  "  --prelude             Start the output with a header comment and use\n" ++
  "                        declarations\n" ++
  "  --no-comments         Don't turn descriptions into doc comments\n" ++
  "  --field-case \x7bcamel,original,pascal,snake\x7d\n" ++
  "                        Case style for field names (default: original)\n" ++
  "  --expand-records      Generate structs for top-level record definitions\n" ++
  "  --skip-none           Skip serializing optional fields that are None\n" ++
  "\n" ++
  "information:\n" ++
  "  --list-languages      List supported target languages and exit\n" ++
  "  --show-config         Show the effective generator configuration and exit\n" ++
  "  --verbose, -v         Increase log output (-v info, -vv debug)\n" ++
  "\n" ++
  "Examples:\n" ++
  "  lexgen app.bsky.actor.profile.json\n" ++
  "  lexgen lexicons/*.json -o src/lexicons.rs --prelude\n" ++
  "  lexgen --options-override options.yaml --expand-records profile.json\n" ++
  "  curl -s https://example.com/profile.json | lexgen --stdin\n" ++
  "  lexgen --list-languages\n"

-- ---------------------------------------------------------------------------
-- Tables
-- ---------------------------------------------------------------------------

/-- A text filled with blanks to a width. -/
def padded (width : Nat) (text : String) : String :=
  text ++ String.ofList (List.replicate (width - text.length) ' ')

/-- The width of a column: that of its longest cell. -/
def columnWidth (rows : List (List String)) (column : Nat) : Nat :=
  (rows.map fun row => (row.getD column "").length).foldl max 0

/-- A row of a table, its cells filled to the widths of their columns. -/
def rowText (widths : List Nat) (row : List String) : String :=
  "  " ++ "  ".intercalate ((widths.zip row).map fun (width, cell) => padded width cell) ++ "\n"

/-- A table as text: its title, and its columns beside each other. -/
def Table.text (table : Table) : String :=
  let rows := table.columns :: table.rows
  let widths := (List.range table.columns.length).map (columnWidth rows)
  table.title ++ "\n" ++ String.join (rows.map (rowText widths))

/-- A record of the log as text. -/
def logLine (record : Log.Record) : String :=
  padded 8 record.level.name ++ " " ++ record.message ++ "\n"

end Lexicon.Command
