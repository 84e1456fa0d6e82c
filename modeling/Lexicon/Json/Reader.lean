import Lexicon.Value

/-!
# Lexicon — reading JSON

A reader of JSON texts that names the first fault and the place of it. Beyond
the standard it accepts `NaN`, `Infinity` and `-Infinity`; of a key written
twice the first place and the last value count.

* `Json.Fault`       — what can be wrong, `Json.SyntaxError` with its place.
* `Json.read`        — the value of a text, or the fault.
* `SyntaxError.message` — fault, line, column and offset, counted in characters.

Inside, a place is given by the number of characters left at it, so that no
offset has to be carried along; `Json.read` turns it into an offset.
-/

namespace Lexicon.Json

-- ---------------------------------------------------------------------------
-- Faults
-- ---------------------------------------------------------------------------

/-- What can be wrong with a JSON text. -/
inductive Fault where
  | byteOrderMark
  | expectedValue
  | expectedName
  | expectedColon
  | expectedComma
  | extraData
  | unterminated
  | controlCharacter
  | badEscape
  | badCodePoint
  deriving DecidableEq, Repr, Inhabited

/-- The wording of a fault. -/
def Fault.message : Fault → String
  | .byteOrderMark => "Unexpected UTF-8 BOM (decode using utf-8-sig)"
  | .expectedValue => "Expecting value"
  | .expectedName => "Expecting property name enclosed in double quotes"
  | .expectedColon => "Expecting ':' delimiter"
  | .expectedComma => "Expecting ',' delimiter"
  | .extraData => "Extra data"
  | .unterminated => "Unterminated string starting at"
  | .controlCharacter => "Invalid control character at"
  | .badEscape => "Invalid \\escape"
  | .badCodePoint => "Invalid \\uXXXX escape"

/-- A fault and its place: an offset in characters, and the line and column, both
counted from one. -/
structure SyntaxError where
  fault : Fault
  line : Nat
  column : Nat
  offset : Nat
  deriving DecidableEq, Repr, Inhabited

/-- The message of a syntax error. -/
def SyntaxError.message (e : SyntaxError) : String :=
  e.fault.message ++ ": line " ++ toString e.line ++ " column " ++ toString e.column ++
    " (char " ++ toString e.offset ++ ")"

/-- A fault at a given offset of a text. -/
def SyntaxError.at (text : List Char) (fault : Fault) (offset : Nat) : SyntaxError :=
  let before := text.take offset
  { fault
    line := before.count '\n' + 1
    column := (before.reverse.takeWhile (· != '\n')).length + 1
    offset }

/-- Why a step of the reader stopped: a fault, and the number of characters left
at its place. A step that succeeds gives what it read and what is left. -/
abbrev Stop := Fault × Nat

/-- The fault at the place where `rest` is left. -/
def faultAt {α : Type} (fault : Fault) (rest : List Char) : Except Stop α :=
  .error (fault, rest.length)

-- ---------------------------------------------------------------------------
-- Blanks
-- ---------------------------------------------------------------------------

/-- Space, tab, line feed and carriage return separate the parts of a text. -/
def isSpace (c : Char) : Bool := c == ' ' || c == '\t' || c == '\n' || c == '\r'

/-- What is left after the blanks. -/
def skipSpace (text : List Char) : List Char := text.dropWhile isSpace

-- ---------------------------------------------------------------------------
-- Strings
-- ---------------------------------------------------------------------------

/-- The value of a hexadecimal digit. -/
def hexValue? (c : Char) : Option Nat :=
  if '0' ≤ c ∧ c ≤ '9' then some (c.toNat - 48)
  else if 'a' ≤ c ∧ c ≤ 'f' then some (c.toNat - 87)
  else if 'A' ≤ c ∧ c ≤ 'F' then some (c.toNat - 55)
  else none

/-- The number that four hexadecimal digits write. -/
def hex4? (a b c d : Char) : Option Nat := do
  let a ← hexValue? a
  let b ← hexValue? b
  let c ← hexValue? c
  let d ← hexValue? d
  return ((a * 16 + b) * 16 + c) * 16 + d

/-- Is the number the first half of a character beyond `U+FFFF`? -/
def isHighHalf (n : Nat) : Bool := 0xD800 ≤ n && n ≤ 0xDBFF

/-- Is the number the second half of a character beyond `U+FFFF`? -/
def isLowHalf (n : Nat) : Bool := 0xDC00 ≤ n && n ≤ 0xDFFF

/-- The character that two halves make. -/
def joinHalves (high low : Nat) : Char :=
  Char.ofNat (0x10000 + (high - 0xD800) * 0x400 + (low - 0xDC00))

/-- The character of a code point; a half that stands alone is no character and
gives the replacement character. -/
def codePoint (n : Nat) : Char :=
  if isHighHalf n || isLowHalf n then Char.ofNat 0xFFFD else Char.ofNat n

/-- The character that a one-letter escape stands for. -/
def escaped? : Char → Option Char
  | '"' => some '"'
  | '\\' => some '\\'
  | '/' => some '/'
  | 'b' => some '\x08'
  | 'f' => some '\x0c'
  | 'n' => some '\n'
  | 'r' => some '\r'
  | 't' => some '\t'
  | _ => none

/-- Puts a character in front of what was read. -/
def consChar (c : Char) : Except Stop (List Char × List Char) → Except Stop (List Char × List Char)
  | .ok (cs, rest) => .ok (c :: cs, rest)
  | .error e => .error e

/-- The rest of a string after its opening quote, before which `opening`
characters were left. -/
def readString (opening : Nat) : List Char → Except Stop (List Char × List Char)
  | [] => .error (.unterminated, opening)
  | '"' :: rest => .ok ([], rest)
  | '\\' :: 'u' :: a :: b :: c :: d :: '\\' :: 'u' :: e :: f :: g :: h :: next :: rest =>
    let here := rest.length + 12
    match hex4? a b c d with
    | none => .error (.badCodePoint, here)
    | some high =>
      if isHighHalf high then
        match hex4? e f g h with
        | none => .error (.badCodePoint, here - 6)
        | some low =>
          if isLowHalf low then consChar (joinHalves high low) (readString opening (next :: rest))
          else
            consChar (codePoint high)
              (readString opening ('\\' :: 'u' :: e :: f :: g :: h :: next :: rest))
      else
        consChar (codePoint high)
          (readString opening ('\\' :: 'u' :: e :: f :: g :: h :: next :: rest))
  | '\\' :: 'u' :: a :: b :: c :: d :: next :: rest =>
    match hex4? a b c d with
    | none => .error (.badCodePoint, rest.length + 6)
    | some n => consChar (codePoint n) (readString opening (next :: rest))
  | '\\' :: 'u' :: rest => .error (.badCodePoint, rest.length + 1)
  | ['\\'] => .error (.unterminated, opening)
  | '\\' :: c :: rest =>
    match escaped? c with
    | none => .error (.badEscape, rest.length + 2)
    | some d => consChar d (readString opening rest)
  | c :: rest =>
    if c.toNat < 0x20 then .error (.controlCharacter, rest.length + 1)
    else consChar c (readString opening rest)

-- ---------------------------------------------------------------------------
-- Numbers
-- ---------------------------------------------------------------------------

/-- The number that decimal digits write. -/
def digitsValue (digits : List Char) : Nat :=
  digits.foldl (fun n c => n * 10 + (c.toNat - 48)) 0

/-- The digits before the point: one zero, or digits that open with none. -/
def takeWhole : List Char → Option (List Char × List Char)
  | '0' :: rest => some (['0'], rest)
  | c :: rest =>
    if c.isDigit then some (c :: rest.takeWhile Char.isDigit, rest.dropWhile Char.isDigit)
    else none
  | [] => none

/-- The digits after a point, if a point and a digit follow. -/
def takeFraction : List Char → Option (List Char × List Char)
  | '.' :: rest =>
    match rest.takeWhile Char.isDigit with
    | [] => none
    | digits => some (digits, rest.dropWhile Char.isDigit)
  | _ => none

/-- An exponent, if its mark and a digit follow. -/
def takeExponent : List Char → Option (Int × List Char)
  | mark :: rest =>
    if mark = 'e' ∨ mark = 'E' then
      let (negative, rest) := match rest with
        | '-' :: r => (true, r)
        | '+' :: r => (false, r)
        | r => (false, r)
      match rest.takeWhile Char.isDigit with
      | [] => none
      | digits =>
        let n : Int := digitsValue digits
        some (if negative then -n else n, rest.dropWhile Char.isDigit)
    else none
  | [] => none

/-- A number: an integer unless a fraction or an exponent follows. -/
def readNumber (text : List Char) : Option (Value × List Char) :=
  let (negative, unsigned) := match text with
    | '-' :: r => (true, r)
    | r => (false, r)
  match takeWhole unsigned with
  | none => none
  | some (whole, rest) =>
    let (fraction, rest') := (takeFraction rest).getD ([], rest)
    let (exponent?, rest'') := match takeExponent rest' with
      | some (e, r) => (some e, r)
      | none => (none, rest')
    if fraction.isEmpty && exponent?.isNone then
      let n : Int := digitsValue whole
      some (.int (if negative then -n else n), rest'')
    else
      some (.float (Double.ofDecimal negative (digitsValue (whole ++ fraction))
        (exponent?.getD 0 - (fraction.length : Int))), rest'')

-- ---------------------------------------------------------------------------
-- Values
-- ---------------------------------------------------------------------------

/-- What is left after `word`, if the text opens with it. -/
def dropWord : (word text : List Char) → Option (List Char)
  | [], text => some text
  | w :: word, c :: text => if w = c then dropWord word text else none
  | _ :: _, [] => none

/-- The words that stand for a value. -/
def words : List (List Char × Value) :=
  [("null".toList, .null), ("true".toList, .bool true), ("false".toList, .bool false),
   ("NaN".toList, .float .nan), ("Infinity".toList, .float (.infinite false)),
   ("-Infinity".toList, .float (.infinite true))]

/-- A word or a number. -/
def readScalar (text : List Char) : Except Stop (Value × List Char) :=
  match words.findSome? fun (word, value) => (dropWord word text).map fun rest => (value, rest) with
  | some found => .ok found
  | none =>
    match readNumber text with
    | some found => .ok found
    | none => faultAt .expectedValue text

mutual

/-- One value, at the start of the text. The first argument bounds the number of
nested steps; `read` gives twice the length of the text, which is never used up. -/
def readValue : Nat → List Char → Except Stop (Value × List Char)
  | 0, text => faultAt .expectedValue text
  | fuel + 1, text =>
    match text with
    | '"' :: rest => do
      let (s, rest) ← readString text.length rest
      return (.text (String.ofList s), rest)
    | '{' :: rest =>
      match skipSpace rest with
      | '}' :: rest => .ok (.mapping [], rest)
      | rest => do
        let (entries, rest) ← readEntries fuel rest
        return (.mapping (Fields.ofList entries), rest)
    | '[' :: rest =>
      match skipSpace rest with
      | ']' :: rest => .ok (.list [], rest)
      | rest => do
        let (items, rest) ← readItems fuel rest
        return (.list items, rest)
    | text => readScalar text

/-- The items of a list, from the first up to the closing bracket. -/
def readItems : Nat → List Char → Except Stop (List Value × List Char)
  | 0, text => faultAt .expectedValue text
  | fuel + 1, text => do
    let (item, rest) ← readValue fuel text
    match skipSpace rest with
    | ']' :: rest => return ([item], rest)
    | ',' :: rest =>
      let (items, rest) ← readItems fuel (skipSpace rest)
      return (item :: items, rest)
    | rest => faultAt .expectedComma rest

/-- The entries of a mapping, from the first up to the closing brace. -/
def readEntries : Nat → List Char → Except Stop (List (String × Value) × List Char)
  | 0, text => faultAt .expectedName text
  | fuel + 1, text =>
    match text with
    | '"' :: rest => do
      let (key, rest) ← readString text.length rest
      match skipSpace rest with
      | ':' :: rest =>
        let (value, rest) ← readValue fuel (skipSpace rest)
        match skipSpace rest with
        | '}' :: rest => return ([(String.ofList key, value)], rest)
        | ',' :: rest =>
          let (entries, rest) ← readEntries fuel (skipSpace rest)
          return ((String.ofList key, value) :: entries, rest)
        | rest => faultAt .expectedComma rest
      | rest => faultAt .expectedColon rest
    | text => faultAt .expectedName text

end

/-- The one value of a text, blanks around it allowed. -/
def readWhole (text : List Char) : Except Stop Value := do
  let (value, rest) ← readValue (2 * text.length + 2) (skipSpace text)
  match skipSpace rest with
  | [] => return value
  | rest => faultAt .extraData rest

/-- Reads a text whose byte order mark, if there was one, has been removed. -/
def readText (text : String) : Except SyntaxError Value :=
  let chars := text.toList
  match readWhole chars with
  | .ok value => .ok value
  | .error (fault, left) => .error (.at chars fault (chars.length - left))

/-- The character that marks the byte order at the start of a file. -/
def byteOrderMark : Char := Char.ofNat 0xFEFF

/-- Reads a text; a byte order mark at its start is a fault. -/
def read (text : String) : Except SyntaxError Value :=
  if text.toList.head? = some byteOrderMark then .error (.at text.toList .byteOrderMark 0)
  else readText text

end Lexicon.Json
