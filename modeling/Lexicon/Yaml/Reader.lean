import Lexicon.Yaml.Scalar

/-!
# Lexicon — reading YAML

The part of YAML 1.1 that settings are written in: mappings and lists by indentation or
in brackets, plain and quoted scalars, comments, and one document with or without its
marks.

* `Cursor`    — a place in the text, with its column and whether its line is the one of
                an earlier place.
* `readNode`  — a value at a place, under the indentation of what holds it.
* `readFlow`  — a value inside of brackets.
* `read`      — a whole text. What is not read is refused; why, is not said.

Every step leaves less text, so the number of characters bounds all steps.
-/

namespace Lexicon.Yaml

open Lexicon.Text

-- ---------------------------------------------------------------------------
-- Places
-- ---------------------------------------------------------------------------

/-- A place in a text: what follows it, its column, the number of its line, and whether it
leads its line, nothing but blanks standing before it. -/
structure Cursor where
  rest : List Char
  column : Nat := 0
  line : Nat := 0
  leads : Bool := true
  deriving Repr, Inhabited

/-- Is the character a line break? -/
def isBreak (c : Char) : Bool :=
  c == '\n' || c == '\r' || c == Char.ofNat 0x85 || c == Char.ofNat 0x2028 ||
    c == Char.ofNat 0x2029

/-- Is the character a blank, a tab or a line break? -/
def isSpace (c : Char) : Bool := c == ' ' || c == '\t' || isBreak c || c == Char.ofNat 0

/-- Do blanks or the end follow? -/
def endsWord : List Char → Bool
  | [] => true
  | c :: _ => isSpace c

namespace Cursor

/-- The place after some characters of the line. -/
def skip (cursor : Cursor) (count : Nat) : Cursor :=
  { cursor with rest := cursor.rest.drop count, column := cursor.column + count, leads := false }

/-- Takes the line break at a place, a carriage return with its line feed as one. A break
that is not the usual one stays as it is. -/
def takeBreak? (cursor : Cursor) : Option (Char × Cursor) :=
  match cursor.rest with
  | '\r' :: '\n' :: rest => some ('\n', { rest, line := cursor.line + 1 })
  | c :: rest =>
    if c == Char.ofNat 0x2028 || c == Char.ofNat 0x2029 then
      some (c, { rest, line := cursor.line + 1 })
    else if isBreak c then some ('\n', { rest, line := cursor.line + 1 })
    else none
  | [] => none

/-- The place after the characters that satisfy `p`. -/
def skipWhile (p : Char → Bool) (cursor : Cursor) : Cursor :=
  cursor.skip (cursor.rest.takeWhile p).length

/-- The place after the blanks that satisfy `p`; it leads its line if the other one does. -/
def skipBlanks (p : Char → Bool) (cursor : Cursor) : Cursor :=
  { cursor.skipWhile p with leads := cursor.leads }

/-- Does a mark of documents stand at the place? -/
def atMark (cursor : Cursor) (mark : List Char) : Bool :=
  cursor.column == 0 && mark.isPrefixOf cursor.rest && endsWord (cursor.rest.drop mark.length)

/-- Does a document end at the place? -/
def atEnd (cursor : Cursor) : Bool :=
  cursor.rest.isEmpty || cursor.atMark "---".toList || cursor.atMark "...".toList

/-- The next place that holds something, after blanks, comments and line breaks. -/
def toNext (fuel : Nat) (cursor : Cursor) : Cursor :=
  match fuel with
  | 0 => cursor
  | fuel + 1 =>
    let cursor := cursor.skipBlanks (· == ' ')
    let cursor :=
      if cursor.rest.head? == some '#' then cursor.skipWhile (fun c => !isBreak c) else cursor
    match cursor.takeBreak? with
    | some (_, next) => next.toNext fuel
    | none => cursor

/-- The next place that holds something. -/
def next (cursor : Cursor) : Cursor := cursor.toNext (cursor.rest.length + 1)

/-- Does a mark with a blank after it stand at the place? -/
def atDash (cursor : Cursor) (mark : Char) : Bool :=
  match cursor.rest with
  | c :: rest => c == mark && endsWord rest
  | [] => false

end Cursor

-- ---------------------------------------------------------------------------
-- Folding
-- ---------------------------------------------------------------------------

/-- The blanks and line breaks between two words of a scalar, folded: a single break is a
blank, further breaks stay. `first` is the first break, `more` are the others. -/
def folded (first : Char) (more : List Char) : List Char :=
  if first != '\n' then first :: more else if more.isEmpty then [' '] else more

/-- Takes the line breaks at a place, with the blanks that satisfy `p` before and after
each; a mark of documents among them is refused if `strict`, else it ends them. -/
def takeBreaks (p : Char → Bool) (strict : Bool) : (fuel : Nat) → Cursor →
    Option (List Char × Cursor × Bool)
  | 0, _ => none
  | fuel + 1, cursor =>
    if cursor.atMark "---".toList || cursor.atMark "...".toList then
      if strict then none else some ([], cursor, true)
    else
      let cursor := cursor.skipBlanks p
      match cursor.takeBreak? with
      | none => some ([], cursor, false)
      | some (c, next) => do
        let (more, cursor, marked) ← takeBreaks p strict fuel next
        return (c :: more, cursor, marked)

-- ---------------------------------------------------------------------------
-- Plain scalars
-- ---------------------------------------------------------------------------

/-- Is the character one of the brackets and the comma? -/
def isFlowMark (c : Char) : Bool :=
  c == ',' || c == '[' || c == ']' || c == '\x7b' || c == '\x7d'

/-- May a plain scalar begin here? -/
def startsPlain (inFlow : Bool) : List Char → Bool
  | [] => false
  | c :: rest =>
    if c == '-' then !endsWord rest
    else if c == '?' || c == ':' then !inFlow && !endsWord rest
    else !(isSpace c) && !("-?:,[]\x7b\x7d#&*!|>'\"%@`".toList.contains c)

/-- The characters of a plain scalar up to the next blank or mark. -/
def plainWord (inFlow : Bool) : List Char → List Char
  | [] => []
  | c :: rest =>
    let endsKey := c == ':' && match rest with
      | [] => true
      | d :: _ => isSpace d || (inFlow && isFlowMark d)
    if isSpace c || endsKey || (inFlow && (isFlowMark c || c == '?')) then []
    else c :: plainWord inFlow rest

/-- Reads the rest of a plain scalar. Outside of brackets, further lines have to lie right
of `indent`. -/
def readPlain (inFlow : Bool) (indent : Int) : (fuel : Nat) → Cursor → Option (List Char × Cursor)
  | 0, _ => none
  | fuel + 1, cursor =>
    let word := plainWord inFlow cursor.rest
    if word.isEmpty || cursor.rest.head? == some '#' then some ([], cursor)
    else do
      let after := cursor.skip word.length
      let blanks := after.rest.takeWhile (· == ' ')
      let spaced := after.skip blanks.length
      match spaced.takeBreak? with
      | none =>
        if blanks.isEmpty then return (word, after)
        let (more, final) ← readPlain inFlow indent fuel spaced
        return (word ++ (if more.isEmpty then [] else blanks ++ more), final)
      | some (first, next) =>
        let (others, next, marked) ← takeBreaks (· == ' ') false (next.rest.length + 1) next
        if marked || (!inFlow && (next.column : Int) ≤ indent) then return (word, next)
        let (more, final) ← readPlain inFlow indent fuel next
        return (word ++ (if more.isEmpty then [] else folded first others ++ more), final)

-- ---------------------------------------------------------------------------
-- Quoted scalars
-- ---------------------------------------------------------------------------

/-- Is it a blank or a tab? -/
def isInlineBlank (c : Char) : Bool := c == ' ' || c == '\t'

/-- Reads the blanks and line breaks inside of quotes. -/
def readGap (cursor : Cursor) : Option (List Char × Cursor) :=
  let blanks := cursor.rest.takeWhile isInlineBlank
  let after := cursor.skip blanks.length
  match after.takeBreak? with
  | none => some (blanks, after)
  | some (first, next) => do
    let (others, next, _) ← takeBreaks isInlineBlank true (next.rest.length + 1) next
    return (folded first others, next)

/-- Reads the rest of a text in single quotes. -/
def readSingle : (fuel : Nat) → Cursor → Option (List Char × Cursor)
  | 0, _ => none
  | fuel + 1, cursor =>
    match cursor.rest with
    | [] => none
    | '\'' :: '\'' :: _ => do
      let (more, final) ← readSingle fuel (cursor.skip 2)
      return ('\'' :: more, final)
    | '\'' :: _ => some ([], cursor.skip 1)
    | c :: _ =>
      if isInlineBlank c || isBreak c then do
        let (gap, next) ← readGap cursor
        let (more, final) ← readSingle fuel next
        return (gap ++ more, final)
      else do
        let (more, final) ← readSingle fuel (cursor.skip 1)
        return (c :: more, final)

/-- The characters that short escapes stand for. -/
def shortEscape? (c : Char) : Option Char :=
  match c with
  | '0' => some (Char.ofNat 0)
  | 'a' => some (Char.ofNat 7)
  | 'b' => some (Char.ofNat 8)
  | 't' => some '\t'
  | '\t' => some '\t'
  | 'n' => some '\n'
  | 'v' => some (Char.ofNat 11)
  | 'f' => some (Char.ofNat 12)
  | 'r' => some '\r'
  | 'e' => some (Char.ofNat 27)
  | ' ' => some ' '
  | '"' => some '"'
  | '\\' => some '\\'
  | '/' => some '/'
  | 'N' => some (Char.ofNat 0x85)
  | '_' => some (Char.ofNat 0xA0)
  | 'L' => some (Char.ofNat 0x2028)
  | 'P' => some (Char.ofNat 0x2029)
  | _ => none

/-- How many digits the escape of a code point has. -/
def escapeWidth? (c : Char) : Option Nat :=
  match c with
  | 'x' => some 2
  | 'u' => some 4
  | 'U' => some 8
  | _ => none

/-- Reads what follows a backslash. A line break there is left out, with the blanks after
it; further breaks stay. -/
def readEscape (cursor : Cursor) : Option (List Char × Cursor) :=
  match cursor.takeBreak? with
  | some (_, next) => do
    let (others, next, _) ← takeBreaks isInlineBlank true (next.rest.length + 1) next
    return (others, next)
  | none =>
    match cursor.rest with
    | [] => none
    | c :: rest =>
      match shortEscape? c with
      | some plain => some ([plain], cursor.skip 1)
      | none =>
        match escapeWidth? c with
        | none => none
        | some width =>
          let digits := rest.take width
          if digits.length == width && digits.all isHex && baseValue 16 digits < 0x110000 then
            some ([Char.ofNat (baseValue 16 digits)], cursor.skip (1 + width))
          else none

/-- Reads the rest of a text in double quotes. -/
def readDouble : (fuel : Nat) → Cursor → Option (List Char × Cursor)
  | 0, _ => none
  | fuel + 1, cursor =>
    match cursor.rest with
    | [] => none
    | '"' :: _ => some ([], cursor.skip 1)
    | '\\' :: _ => do
      let (chars, next) ← readEscape (cursor.skip 1)
      let (more, final) ← readDouble fuel next
      return (chars ++ more, final)
    | c :: _ =>
      if isInlineBlank c || isBreak c then do
        let (gap, next) ← readGap cursor
        let (more, final) ← readDouble fuel next
        return (gap ++ more, final)
      else do
        let (more, final) ← readDouble fuel (cursor.skip 1)
        return (c :: more, final)

-- ---------------------------------------------------------------------------
-- Scalars and keys
-- ---------------------------------------------------------------------------

/-- The value of a plain scalar. A moment is left as it is written; a lone sign for a
value cannot stand for one. -/
def plainValue? (text : List Char) : Option Value :=
  match Meaning.of text with
  | .null => some .null
  | .bool b => some (.bool b)
  | .int n => some (.int n)
  | .float x => some (.float x)
  | .plainValue => none
  | _ => some (.text (String.ofList text))

/-- The text under which a value is entered as a key; lists and mappings are no keys. -/
def keyText? : Value → Option String
  | .text s => some s
  | .null => some "null"
  | .bool b => some (if b then "true" else "false")
  | .int n => some (toString n)
  | .float x => some (String.ofList x.text)
  | _ => none

/-- Reads a scalar. -/
def readScalar (inFlow : Bool) (indent : Int) (cursor : Cursor) : Option (Value × Cursor) :=
  let fuel := cursor.rest.length + 1
  match cursor.rest with
  | '\'' :: _ => do
    let (text, next) ← readSingle fuel (cursor.skip 1)
    return (.text (String.ofList text), next)
  | '"' :: _ => do
    let (text, next) ← readDouble fuel (cursor.skip 1)
    return (.text (String.ofList text), next)
  | rest =>
    if startsPlain inFlow rest then do
      let (text, next) ← readPlain inFlow indent fuel cursor
      let value ← plainValue? text
      return (value, next)
    else none

/-- How many characters a key may take up on its line. -/
def keyWidth : Nat := 1024

/-- Does a colon make the scalar or bracket between the two places a key? It has to stand
on the line of the key, and not too far from its start. -/
def isKeyEnd (inFlow : Bool) (start after : Cursor) : Bool :=
  match after.rest with
  | ':' :: rest =>
    start.line == after.line && (inFlow || endsWord rest) &&
      after.column ≤ start.column + keyWidth
  | _ => false

-- ---------------------------------------------------------------------------
-- Brackets
-- ---------------------------------------------------------------------------

mutual

/-- Reads a value inside of brackets. -/
def readFlow : (fuel : Nat) → Cursor → Option (Value × Cursor)
  | 0, _ => none
  | fuel + 1, cursor =>
    if cursor.atEnd then none
    else
      match cursor.rest with
      | '[' :: _ => do
        let (items, next) ← readFlowItems fuel (cursor.skip 1).next
        return (.list items, next)
      | '\x7b' :: _ => do
        let (entries, next) ← readFlowEntries fuel (cursor.skip 1).next
        return (.mapping (Fields.ofList entries), next)
      | _ => readScalar true 0 cursor

/-- Reads an item or key, and the value behind a colon if one follows. A question mark
makes a key of what comes next, which may be nothing. -/
def readFlowPair : (fuel : Nat) → Cursor → Option (Value × Option Value × Cursor)
  | 0, _ => none
  | fuel + 1, cursor =>
    match cursor.rest with
    | '?' :: _ => do
      let (key, next) ← readFlowValue fuel (cursor.skip 1).next
      match next.rest with
      | ':' :: _ =>
        let (value, next) ← readFlowValue fuel (next.skip 1).next
        return (key, some value, next)
      | _ => return (key, some .null, next)
    | _ => do
      let (item, after) ← readFlow fuel cursor
      let next := after.next
      if isKeyEnd true cursor next then
        let (value, next) ← readFlowValue fuel (next.skip 1).next
        return (item, some value, next)
      else return (item, none, next)

/-- Reads the items up to the closing bracket. An item with a value is a mapping of one
entry. -/
def readFlowItems : (fuel : Nat) → Cursor → Option (List Value × Cursor)
  | 0, _ => none
  | fuel + 1, cursor =>
    match cursor.rest with
    | ']' :: _ => some ([], cursor.skip 1)
    | _ => do
      let (item, value?, next) ← readFlowPair fuel cursor
      let item ← match value? with
        | none => some item
        | some value => (keyText? item).map fun key => .mapping [(key, value)]
      match next.rest with
      | ',' :: _ =>
        let (items, final) ← readFlowItems fuel (next.skip 1).next
        return (item :: items, final)
      | ']' :: _ => return ([item], next.skip 1)
      | _ => none

/-- Reads the entries up to the closing brace. A key without a colon has no value. -/
def readFlowEntries : (fuel : Nat) → Cursor → Option (List (String × Value) × Cursor)
  | 0, _ => none
  | fuel + 1, cursor =>
    match cursor.rest with
    | '\x7d' :: _ => some ([], cursor.skip 1)
    | _ => do
      let (item, value?, next) ← readFlowPair fuel cursor
      let key ← keyText? item
      let value := value?.getD .null
      match next.rest with
      | ',' :: _ =>
        let (entries, final) ← readFlowEntries fuel (next.skip 1).next
        return ((key, value) :: entries, final)
      | '\x7d' :: _ => return ([(key, value)], next.skip 1)
      | _ => none

/-- Reads the value behind a mark inside of brackets, if there is one. -/
def readFlowValue : (fuel : Nat) → Cursor → Option (Value × Cursor)
  | 0, _ => none
  | fuel + 1, cursor =>
    match cursor.rest with
    | c :: _ =>
      if c == ',' || c == ':' || c == ']' || c == '\x7d' then some (.null, cursor)
      else do
        let (value, after) ← readFlow fuel cursor
        return (value, after.next)
    | [] => none

end

-- ---------------------------------------------------------------------------
-- Blocks
-- ---------------------------------------------------------------------------

/-- Reads a scalar or brackets in a block. -/
def readInline (indent : Int) (cursor : Cursor) : Option (Value × Cursor) :=
  match cursor.rest with
  | '[' :: _ => readFlow (2 * cursor.rest.length + 2) cursor
  | '\x7b' :: _ => readFlow (2 * cursor.rest.length + 2) cursor
  | _ => readScalar false indent cursor

mutual

/-- Reads the value at a place that holds something. `indent` is the column of the block
around it, and only a `fresh` place may open a block of its own. Nothing else may stand on
the line where the value ends. -/
def readNode : (fuel : Nat) → (indent : Int) → (fresh : Bool) → Cursor → Option (Value × Cursor)
  | 0, _, _, _ => none
  | fuel + 1, indent, fresh, cursor =>
    if cursor.atDash '-' then
      if fresh then do
        let (items, next) ← readItems fuel cursor.column false cursor
        return (.list items, next)
      else none
    else if cursor.atDash '?' then
      if fresh then do
        let (entries, next) ← readEntries fuel cursor.column cursor
        return (.mapping (Fields.ofList entries), next)
      else none
    else do
      let (value, after) ← readInline indent cursor
      let next := after.next
      if isKeyEnd false cursor next then
        if fresh then
          let (entries, next) ← readEntries fuel cursor.column cursor
          return (.mapping (Fields.ofList entries), next)
        else none
      else if next.leads || next.atEnd then return (value, next)
      else none

/-- Reads what belongs to a mark at `column`: a value on the same line or further right
below, or nothing. A list below a key may stand right under it. -/
def readBelow : (fuel : Nat) → (column line : Nat) → (fresh underKey : Bool) → Cursor →
    Option (Value × Cursor)
  | 0, _, _, _, _, _ => none
  | fuel + 1, column, line, fresh, underKey, cursor =>
    let next := cursor.next
    if next.atEnd then some (.null, next)
    else if next.line == line then readNode fuel column fresh next
    else if column < next.column then readNode fuel column true next
    else if underKey && column == next.column && next.atDash '-' then do
      let (items, next) ← readItems fuel column true next
      return (.list items, next)
    else some (.null, next)

/-- Reads the items of a list whose dashes stand at `column`. A list right under a key ends
where another key begins. -/
def readItems : (fuel : Nat) → (column : Nat) → (underKey : Bool) → Cursor →
    Option (List Value × Cursor)
  | 0, _, _, _ => none
  | fuel + 1, column, underKey, cursor => do
    let (item, next) ← readBelow fuel column cursor.line true false (cursor.skip 1)
    if next.atEnd || next.column < column then return ([item], next)
    else if next.column == column && next.atDash '-' then
      let (items, final) ← readItems fuel column underKey next
      return (item :: items, final)
    else if next.column == column && underKey then return ([item], next)
    else none

/-- Reads the entries of a mapping whose keys stand at `column`. -/
def readEntries : (fuel : Nat) → (column : Nat) → Cursor → Option (List (String × Value) × Cursor)
  | 0, _, _ => none
  | fuel + 1, column, cursor => do
    let (key, value, next) ←
      if cursor.atDash '?' then do
        let (key, next) ← readBelow fuel column cursor.line true true (cursor.skip 1)
        if !next.atEnd && next.column == column && next.atDash ':' then do
          let (value, next) ← readBelow fuel column next.line true true (next.skip 1)
          pure (key, value, next)
        else pure (key, Value.null, next)
      else do
        let (key, after) ← readInline column cursor
        let colon := after.next
        if isKeyEnd false cursor colon then do
          let (value, next) ← readBelow fuel column colon.line false true (colon.skip 1)
          pure (key, value, next)
        else none
    let name ← keyText? key
    if next.atEnd || next.column < column then return ([(name, value)], next)
    else if next.column == column && !next.atDash '-' then
      let (entries, final) ← readEntries fuel column next
      return ((name, value) :: entries, final)
    else none

end

-- ---------------------------------------------------------------------------
-- Documents
-- ---------------------------------------------------------------------------

/-- May the character stand in a text at all? -/
def isAdmitted (c : Char) : Bool :=
  let n := c.toNat
  n == 9 || n == 10 || n == 13 || (0x20 ≤ n && n ≤ 0x7E) || n == 0x85 ||
    (0xA0 ≤ n && n ≤ 0xFFFD) || 0x10000 ≤ n

/-- The mark that a text may begin with. -/
def byteOrderMark : Char := Char.ofNat 0xFEFF

/-- The place after the marks that end a document. -/
def skipEnds : (fuel : Nat) → Cursor → Cursor
  | 0, cursor => cursor
  | fuel + 1, cursor =>
    if cursor.atMark "...".toList then skipEnds fuel (cursor.skip 3).next else cursor

/-- The value of a text that holds one document; null if it holds nothing. -/
def read (text : List Char) : Option Value :=
  if !text.all isAdmitted then none
  else do
    let body := if text.head? == some byteOrderMark then text.tail else text
    let start := Cursor.next { rest := body }
    let marked := start.atMark "---".toList
    let (value, next) ←
      if marked then
        let inner := start.skip 3
        let first := inner.next
        if first.atEnd then pure (Value.null, first)
        else readNode (4 * text.length + 4) (-1) (first.line != start.line) first
      else if start.rest.isEmpty then pure (Value.null, start)
      else if start.atEnd then none
      else readNode (4 * text.length + 4) (-1) true start
    let final := skipEnds text.length next
    if final.rest.isEmpty then return value else none

end Lexicon.Yaml
