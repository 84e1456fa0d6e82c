import Lexicon.Yaml.Scalar

/-!
# Lexicon — writing YAML

Settings are written as YAML in block style, one entry a line, in ASCII.

* `Sheet`      — the text written so far, with what decides how it goes on.
* `ScalarForm` — plain, in single or in double quotes; `ScalarForm.of` chooses it.
* `write`      — the text of a mapping.

A long text is broken at single blanks once it has passed column 80. A list below a key
is not indented. A key that is empty or long, or holds a line break, is marked.
-/

namespace Lexicon.Yaml

-- ---------------------------------------------------------------------------
-- Sheets
-- ---------------------------------------------------------------------------

/-- A text being written, last character first. `afterBlank` tells whether a blank
separates what comes next from what was before, and `onlyMarks` whether the line holds
nothing but indentation and marks so far. -/
structure Sheet where
  reversed : List Char := []
  column : Nat := 0
  afterBlank : Bool := true
  onlyMarks : Bool := true
  deriving Repr, Inhabited

namespace Sheet

/-- The column after which texts are broken. -/
def width : Nat := 80

/-- Writes characters on the line. -/
def put (sheet : Sheet) (text : List Char) : Sheet :=
  { sheet with reversed := text.reverse ++ sheet.reversed, column := sheet.column + text.length }

/-- Begins a new line. -/
def breakLine (sheet : Sheet) : Sheet :=
  { reversed := '\n' :: sheet.reversed }

/-- Moves to a column, on a new line unless only marks stand before it. -/
def indentTo (sheet : Sheet) (indent : Nat) : Sheet :=
  let sheet :=
    if !sheet.onlyMarks || indent < sheet.column ||
        (sheet.column == indent && !sheet.afterBlank) then
      sheet.breakLine
    else sheet
  if sheet.column < indent then
    { sheet.put (List.replicate (indent - sheet.column) ' ') with afterBlank := true }
  else sheet

/-- Writes a mark, after a blank if it needs one. A mark that `opens` leaves the line to
further marks. -/
def mark (sheet : Sheet) (text : List Char) (spaced opens : Bool) : Sheet :=
  let sheet := sheet.put (if sheet.afterBlank || !spaced then text else ' ' :: text)
  { sheet with afterBlank := false, onlyMarks := sheet.onlyMarks && opens }

/-- The text of a finished sheet. -/
def text (sheet : Sheet) : String := String.ofList sheet.reversed.reverse

end Sheet

-- ---------------------------------------------------------------------------
-- Forms of scalars
-- ---------------------------------------------------------------------------

/-- How a scalar is written. -/
inductive ScalarForm where
  | plain
  | singleQuoted
  | doubleQuoted
  deriving DecidableEq, Repr, Inhabited

/-- A character that separates words in YAML. -/
def isSeparator (c : Char) : Bool :=
  c == ' ' || c == '\t' || c == '\r' || c == '\n' || c == Char.ofNat 0 || c == Char.ofNat 0x85 ||
    c == Char.ofNat 0x2028 || c == Char.ofNat 0x2029

/-- A character that a quote-free or singly quoted scalar may hold. -/
def isOrdinary (c : Char) : Bool := c == '\n' || (0x20 ≤ c.toNat && c.toNat ≤ 0x7E)

/-- Does the next character separate words, or is there none? -/
def beforeSeparator : List Char → Bool
  | [] => true
  | c :: _ => isSeparator c

/-- The characters that mean something at the start of a scalar. -/
def openingMarks : List Char := "#,[]\x7b\x7d&*!|>'\"%@`".toList

/-- Does the scalar begin in a way that means something? -/
def opensSpecially (text : List Char) : Bool :=
  "---".toList.isPrefixOf text || "...".toList.isPrefixOf text ||
    match text with
    | [] => false
    | c :: rest =>
      openingMarks.contains c || ((c == '?' || c == ':' || c == '-') && beforeSeparator rest)

/-- Is there a colon before a separator, or a number sign after one? -/
def holdsMarks : List Char → Bool
  | c :: d :: rest =>
    (d == ':' && beforeSeparator rest) || (d == '#' && isSeparator c) || holdsMarks (d :: rest)
  | _ => false

/-- Do the two characters follow each other anywhere? -/
def holdsPair (a b : Char) : List Char → Bool
  | c :: d :: rest => (c == a && d == b) || holdsPair a b (d :: rest)
  | _ => false

/-- Does the text begin or end with a blank or a line break? -/
def hasLooseEnd (text : List Char) : Bool :=
  let loose : Option Char → Bool := fun c => c == some ' ' || c == some '\n'
  loose text.head? || loose text.getLast?

/-- May the text be written without quotes, its meaning left out of account? -/
def admitsPlain (text : List Char) : Bool :=
  text.all isOrdinary && !text.contains '\n' && !hasLooseEnd text && !opensSpecially text &&
    !holdsMarks text

/-- May the text be written in single quotes? -/
def admitsSingle (text : List Char) : Bool :=
  text.all isOrdinary && !holdsPair '\n' ' ' text && !holdsPair ' ' '\n' text

/-- The form of a text, as a key on the line of its value or not. -/
def ScalarForm.of (isKey : Bool) (text : List Char) : ScalarForm :=
  if Meaning.isText text && admitsPlain text && !(isKey && text.isEmpty) then plain
  else if admitsSingle text && !(isKey && text.contains '\n') then singleQuoted
  else doubleQuoted

-- ---------------------------------------------------------------------------
-- Writing scalars
-- ---------------------------------------------------------------------------

/-- Writes a plain text. A single blank past the width becomes a new line, if lines may
be broken. -/
def writePlain (sheet : Sheet) (indent : Nat) (breaks : Bool) (text : List Char) : Sheet :=
  let sheet := if sheet.afterBlank then sheet else sheet.put [' ']
  go { sheet with afterBlank := false, onlyMarks := false } text
where
  /-- Writes the rest of the text. -/
  go (sheet : Sheet) : List Char → Sheet
    | [] => sheet
    | c :: rest =>
      let single := sheet.reversed.head? != some ' ' && rest.head? != some ' '
      if c == ' ' && single && Sheet.width < sheet.column && breaks then
        go { sheet.indentTo indent with afterBlank := false, onlyMarks := false } rest
      else go (sheet.put [c]) rest

/-- Writes the inside of a text in single quotes: a quote twice, a run of line breaks
with one more, and a single blank past the width as a new line. `before` is the
character before. -/
def writeSingle (sheet : Sheet) (indent : Nat) (breaks : Bool) (before : Option Char) :
    List Char → Sheet
  | [] => sheet
  | c :: rest =>
    let next :=
      if c == '\n' then
        let sheet := if before == some '\n' then sheet else sheet.breakLine
        let sheet := sheet.breakLine
        if rest.head? == some '\n' then sheet else sheet.indentTo indent
      else if c == '\'' then sheet.put ['\'', '\'']
      else if c == ' ' && before.isSome && before != some ' ' && !rest.isEmpty &&
          rest.head? != some ' ' && Sheet.width < sheet.column && breaks then
        sheet.indentTo indent
      else sheet.put [c]
    writeSingle next indent breaks (some c) rest

/-- The letters of short escapes. -/
def shortEscapes : List (Nat × Char) :=
  [(0, '0'), (7, 'a'), (8, 'b'), (9, 't'), (10, 'n'), (11, 'v'), (12, 'f'), (13, 'r'), (27, 'e'),
   (34, '"'), (92, '\\'), (0x85, 'N'), (0xA0, '_'), (0x2028, 'L'), (0x2029, 'P')]

/-- The digits of a number in base sixteen, with capitals. -/
def upperHex (width n : Nat) : List Char :=
  let digits := (Nat.toDigits 16 n).map Char.toUpper
  List.replicate (width - digits.length) '0' ++ digits

/-- The escape of a character. -/
def escape (c : Char) : List Char :=
  match shortEscapes.lookup c.toNat with
  | some letter => ['\\', letter]
  | none =>
    if c.toNat ≤ 0xFF then '\\' :: 'x' :: upperHex 2 c.toNat
    else if c.toNat ≤ 0xFFFF then '\\' :: 'u' :: upperHex 4 c.toNat
    else '\\' :: 'U' :: upperHex 8 c.toNat

/-- Does the character need an escape? -/
def needsEscape (c : Char) : Bool :=
  c == '"' || c == '\\' || !(0x20 ≤ c.toNat && c.toNat ≤ 0x7E)

/-- Writes the inside of a text in double quotes. `pending` has been passed but is not
written yet, last character first, and `index` counts what has been passed. A line is
broken behind a backslash where a blank, an escape or what follows one passes the width. -/
def writeDouble (sheet : Sheet) (indent : Nat) (breaks : Bool) (index : Nat)
    (pending : List Char) : List Char → Sheet
  | [] => sheet.put pending.reverse
  | c :: rest =>
    let (sheet, passed) :=
      if needsEscape c then ((sheet.put pending.reverse).put (escape c), []) else (sheet, pending)
    let full := 0 < index && !rest.isEmpty && (c == ' ' || passed.isEmpty) &&
      Sheet.width + (if needsEscape c then 1 else 0) < sheet.column + passed.length && breaks
    if full then
      let sheet := (sheet.put passed.reverse).put ['\\']
      let sheet := { sheet.indentTo indent with afterBlank := false, onlyMarks := false }
      let next := if needsEscape c then rest.head? else some c
      let sheet := if next == some ' ' then sheet.put ['\\'] else sheet
      writeDouble sheet indent breaks (index + 1) (if needsEscape c then [] else [c]) rest
    else
      writeDouble sheet indent breaks (index + 1) (if needsEscape c then [] else c :: passed) rest

/-- Writes a text in its form. -/
def writeText (sheet : Sheet) (indent : Nat) (isKey : Bool) (text : List Char) : Sheet :=
  match ScalarForm.of isKey text with
  | .plain => writePlain sheet indent (!isKey) text
  | .singleQuoted =>
    (writeSingle (sheet.mark ['\''] true false) indent (!isKey) none text).mark ['\''] false false
  | .doubleQuoted =>
    (writeDouble (sheet.mark ['"'] true false) indent (!isKey) 0 [] text).mark ['"'] false false

/-- The text of a number with a point; with an exponent it has a point all the same. -/
def doubleText (x : Double) : List Char :=
  match x with
  | .nan => ".nan".toList
  | .infinite false => ".inf".toList
  | .infinite true => "-.inf".toList
  | x =>
    let text := x.text
    if text.contains '.' || !text.contains 'e' then text
    else text.takeWhile (· != 'e') ++ ".0".toList ++ text.dropWhile (· != 'e')

-- ---------------------------------------------------------------------------
-- Writing values
-- ---------------------------------------------------------------------------

/-- May the key stand on the line of its value? -/
def isSimpleKey (key : List Char) : Bool :=
  key.length < 123 && !key.isEmpty && !key.any fun c =>
    c == '\n' || c == Char.ofNat 0x85 || c == Char.ofNat 0x2028 || c == Char.ofNat 0x2029

mutual

/-- Writes a value, below a key or as an item. -/
def writeValue (sheet : Sheet) (indent : Nat) (belowKey : Bool) : Value → Sheet
  | .null => writePlain sheet (indent + 2) true "null".toList
  | .bool true => writePlain sheet (indent + 2) true "true".toList
  | .bool false => writePlain sheet (indent + 2) true "false".toList
  | .int n => writePlain sheet (indent + 2) true (toString n).toList
  | .float x => writePlain sheet (indent + 2) true (doubleText x)
  | .text s => writeText sheet (indent + 2) false s.toList
  | .list [] => sheet.mark "[]".toList true false
  | .list items =>
    writeItems sheet (if belowKey && !sheet.onlyMarks then indent else indent + 2) items
  | .mapping [] => sheet.mark "\x7b\x7d".toList true false
  | .mapping entries => writeEntries sheet (indent + 2) entries

/-- Writes the items of a list, each behind a dash. -/
def writeItems (sheet : Sheet) (indent : Nat) : List Value → Sheet
  | [] => sheet
  | item :: rest =>
    let sheet := (sheet.indentTo indent).mark ['-'] true true
    writeItems (writeValue sheet indent false item) indent rest

/-- Writes the entries of a mapping. -/
def writeEntries (sheet : Sheet) (indent : Nat) : List (String × Value) → Sheet
  | [] => sheet
  | (key, value) :: rest =>
    let sheet := sheet.indentTo indent
    let sheet :=
      if isSimpleKey key.toList then
        (writeText sheet (indent + 2) true key.toList).mark [':'] false false
      else
        let sheet := writeText (sheet.mark ['?'] true true) (indent + 2) false key.toList
        (sheet.indentTo indent).mark [':'] true true
    writeEntries (writeValue sheet indent true value) indent rest

end

/-- The text of a mapping. -/
def write (entries : Fields) : String :=
  match entries with
  | [] => "\x7b\x7d\n"
  | entries => ((writeEntries {} 0 entries).indentTo 0).text

end Lexicon.Yaml
