import Lexicon.Value
import Lexicon.Value.Display

/-!
# Lexicon — writing JSON

The indented form in which settings are saved: two blanks for each level, one
entry a line, and characters beyond ASCII written as they are.

* `Json.write`      — the text of a value.
* `Json.writeString` — a string with its quotes and escapes.
-/

namespace Lexicon.Json

-- ---------------------------------------------------------------------------
-- Scalars
-- ---------------------------------------------------------------------------

/-- One character inside a string. -/
def escapeChar (c : Char) : List Char :=
  if c = '"' then ['\\', '"']
  else if c = '\\' then ['\\', '\\']
  else if c = '\n' then ['\\', 'n']
  else if c = '\r' then ['\\', 'r']
  else if c = '\t' then ['\\', 't']
  else if c = '\x0c' then ['\\', 'f']
  else if c = '\x08' then ['\\', 'b']
  else if c.toNat < 0x20 then '\\' :: 'u' :: hexDigits 4 c.toNat
  else [c]

/-- A string in its quotes. -/
def writeString (s : String) : String :=
  String.ofList ('"' :: s.toList.flatMap escapeChar ++ ['"'])

/-- A number with a fraction or an exponent, or one of the three special words. -/
def writeDouble : Double → String
  | .nan => "NaN"
  | .infinite false => "Infinity"
  | .infinite true => "-Infinity"
  | x => String.ofList x.text

-- ---------------------------------------------------------------------------
-- Values
-- ---------------------------------------------------------------------------

/-- The start of a line at a given depth. -/
def newLine (depth : Nat) : String := String.ofList ('\n' :: List.replicate (2 * depth) ' ')

mutual

/-- The text of a value at a given depth. -/
def writeAt (depth : Nat) : Value → String
  | .null => "null"
  | .bool true => "true"
  | .bool false => "false"
  | .int n => toString n
  | .float x => writeDouble x
  | .text s => writeString s
  | .list [] => "[]"
  | .list items =>
    "[" ++ ",".intercalate (writeItems (depth + 1) items) ++ newLine depth ++ "]"
  | .mapping [] => "\x7b\x7d"
  | .mapping entries =>
    "\x7b" ++ ",".intercalate (writeEntries (depth + 1) entries) ++ newLine depth ++ "\x7d"

/-- The items, each on a line of its own. -/
def writeItems (depth : Nat) : List Value → List String
  | [] => []
  | v :: rest => (newLine depth ++ writeAt depth v) :: writeItems depth rest

/-- The entries, each on a line of its own. -/
def writeEntries (depth : Nat) : List (String × Value) → List String
  | [] => []
  | (k, v) :: rest =>
    (newLine depth ++ writeString k ++ ": " ++ writeAt depth v) :: writeEntries depth rest

end

/-- The text of a value. -/
def write (v : Value) : String := writeAt 0 v

end Lexicon.Json
