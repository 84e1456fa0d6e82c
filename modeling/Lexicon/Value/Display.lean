import Lexicon.Value
import Lexicon.Text.Case
import Lexicon.Text.PrintTable

/-!
# Lexicon — values as text

How a value looks inside a message or inside generated code. A text stands for
itself there; within a list or a mapping it is quoted.

* `Value.display`   — the text of a value.
* `Value.quoted`    — the same with texts in quotes, as they stand inside a list.
* `quote`           — a text in single quotes, or in double ones if it holds a single
                      quote and no double one; what has no glyph is escaped.
* `Value.className` — the name of a value's class, as messages give it.
-/

namespace Lexicon

-- ---------------------------------------------------------------------------
-- Quoting
-- ---------------------------------------------------------------------------

/-- A hexadecimal digit, in lower case. -/
def hexDigit (n : Nat) : Char := if n < 10 then Char.ofNat (48 + n) else Char.ofNat (87 + n)

/-- The last `width` hexadecimal digits of a number. -/
def hexDigits : (width : Nat) → Nat → List Char
  | 0, _ => []
  | width + 1, n => hexDigits width (n / 16) ++ [hexDigit (n % 16)]

/-- Is the character shown as it is inside quotes? -/
def isPrintable (c : Char) : Bool :=
  if Text.isAscii c then 32 ≤ c.toNat && c.toNat ≤ 126 else !Text.inRanges Text.unprintable c

/-- One character inside quotes of the given kind. -/
def quoteChar (mark c : Char) : List Char :=
  if c = mark ∨ c = '\\' then ['\\', c]
  else if c = '\n' then ['\\', 'n']
  else if c = '\r' then ['\\', 'r']
  else if c = '\t' then ['\\', 't']
  else if isPrintable c then [c]
  else if c.toNat < 0x100 then '\\' :: 'x' :: hexDigits 2 c.toNat
  else if c.toNat < 0x10000 then '\\' :: 'u' :: hexDigits 4 c.toNat
  else '\\' :: 'U' :: hexDigits 8 c.toNat

/-- The quotation mark that suits a text: the double one only where the text
holds a single one and no double one. -/
def quoteMark (s : List Char) : Char :=
  if s.contains '\'' && !s.contains '"' then '"' else '\''

/-- A text in quotes. -/
def quote (s : String) : String :=
  let mark := quoteMark s.toList
  String.ofList (mark :: s.toList.flatMap (quoteChar mark) ++ [mark])

-- ---------------------------------------------------------------------------
-- Values
-- ---------------------------------------------------------------------------

namespace Value

mutual

/-- The text of a value as it stands inside a list or a mapping. -/
def quoted : Value → String
  | null => "None"
  | bool true => "True"
  | bool false => "False"
  | int n => toString n
  | float x => String.ofList x.text
  | text s => quote s
  | list items => "[" ++ ", ".intercalate (quotedItems items) ++ "]"
  | mapping entries => "\x7b" ++ ", ".intercalate (quotedEntries entries) ++ "\x7d"

/-- The texts of the items. -/
def quotedItems : List Value → List String
  | [] => []
  | v :: rest => quoted v :: quotedItems rest

/-- The texts of the entries, each a quoted key and a value. -/
def quotedEntries : List (String × Value) → List String
  | [] => []
  | (k, v) :: rest => (quote k ++ ": " ++ quoted v) :: quotedEntries rest

end

/-- The text of a value. -/
def display : Value → String
  | text s => s
  | v => quoted v

/-- The name of the value's class. -/
def className : Value → String
  | null => "NoneType"
  | bool _ => "bool"
  | int _ => "int"
  | float _ => "float"
  | text _ => "str"
  | list _ => "list"
  | mapping _ => "dict"

end Value

end Lexicon
