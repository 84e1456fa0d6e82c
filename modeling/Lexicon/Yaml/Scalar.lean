import Lexicon.Text.Blank
import Lexicon.Value

/-!
# Lexicon — the meaning of plain YAML scalars

A scalar without quotes is not always a text: a word may stand for a truth value or for
nothing, and digits for a number. The rules are those of YAML 1.1.

* `Meaning`      — what a plain scalar stands for.
* `Meaning.of`   — the rules.
* `Meaning.isText` — does a scalar stand for itself? Only then may a text be written
                   without quotes.

Numbers may be grouped by underscores, written in other bases, or in groups of sixty.
-/

namespace Lexicon.Yaml

open Lexicon.Text

/-- What a plain scalar stands for. -/
inductive Meaning where
  | text
  | null
  | bool (b : Bool)
  | int (n : Int)
  | float (x : Double)
  /-- a date, or a date with a time -/
  | moment
  /-- the key under which another mapping is merged -/
  | merge
  /-- the key of a value without a key -/
  | plainValue
  deriving DecidableEq, Repr, Inhabited

-- ---------------------------------------------------------------------------
-- Digits
-- ---------------------------------------------------------------------------

/-- A digit or an underscore. -/
def isGrouped (digit : Char → Bool) (c : Char) : Bool := digit c || c == '_'

/-- A nonempty text of digits and underscores. -/
def areGrouped (digit : Char → Bool) (text : List Char) : Bool :=
  !text.isEmpty && text.all (isGrouped digit)

/-- A digit of base two. -/
def isBinary (c : Char) : Bool := c == '0' || c == '1'

/-- A digit of base eight. -/
def isOctal (c : Char) : Bool := '0' ≤ c && c ≤ '7'

/-- A digit of base sixteen. -/
def isHex (c : Char) : Bool :=
  c.isDigit || ('a' ≤ c && c ≤ 'f') || ('A' ≤ c && c ≤ 'F')

/-- The value of a digit. -/
def digitValue (c : Char) : Nat :=
  if c.isDigit then c.toNat - '0'.toNat
  else if 'a' ≤ c && c ≤ 'f' then c.toNat - 'a'.toNat + 10
  else c.toNat - 'A'.toNat + 10

/-- The value of digits in a base, underscores left out. -/
def baseValue (base : Nat) (digits : List Char) : Nat :=
  (digits.filter (· != '_')).foldl (fun n c => n * base + digitValue c) 0

/-- The sign in front of a number, and what follows it. -/
def takeSign : List Char → Bool × List Char
  | '-' :: rest => (true, rest)
  | '+' :: rest => (false, rest)
  | rest => (false, rest)

/-- A number with its sign. -/
def signed (negative : Bool) (n : Nat) : Int := if negative then -(n : Int) else n

/-- A group of sixty: at most `59`. -/
def isSixty : List Char → Bool
  | [d] => d.isDigit
  | [t, d] => '0' ≤ t && t ≤ '5' && d.isDigit
  | _ => false

/-- Digits grouped by underscores, the first of which is one. -/
def isCount (text : List Char) : Bool :=
  match text with
  | [] => false
  | c :: rest => c.isDigit && rest.all (isGrouped Char.isDigit)

/-- The value of groups of sixty. -/
def sixtiesValue (groups : List (List Char)) : Nat :=
  groups.foldl (fun n group => n * 60 + baseValue 10 group) 0

-- ---------------------------------------------------------------------------
-- Integers
-- ---------------------------------------------------------------------------

/-- The integer that a text without sign stands for. -/
def natural? : List Char → Option Nat
  | ['0'] => some 0
  | '0' :: 'b' :: digits =>
    if areGrouped isBinary digits then some (baseValue 2 digits) else none
  | '0' :: 'x' :: digits =>
    if areGrouped isHex digits then some (baseValue 16 digits) else none
  | '0' :: digits => if areGrouped isOctal digits then some (baseValue 8 digits) else none
  | text =>
    match split ':' text with
    | [digits] => if isCount digits then some (baseValue 10 digits) else none
    | first :: groups =>
      if isCount first && groups.all isSixty then some (sixtiesValue (first :: groups)) else none
    | [] => none

/-- The integer that a text stands for. -/
def int? (text : List Char) : Option Int :=
  let (negative, rest) := takeSign text
  (natural? rest).map (signed negative)

-- ---------------------------------------------------------------------------
-- Numbers with a point
-- ---------------------------------------------------------------------------

/-- The exponent that follows a number; its sign is written in any case. -/
def exponent? : List Char → Option Int
  | [] => some 0
  | e :: sign :: digits =>
    if (e == 'e' || e == 'E') && (sign == '-' || sign == '+') && !digits.isEmpty &&
        digits.all Char.isDigit then
      some (signed (sign == '-') (baseValue 10 digits))
    else none
  | _ => none

/-- The number made of digits before and after the point and an exponent. -/
def decimal (negative : Bool) (whole : Nat) (digits : List Char) (exponent : Int) : Double :=
  let fraction := digits.filter (· != '_')
  .ofDecimal negative (whole * Nat.pow 10 fraction.length + baseValue 10 fraction)
    (exponent - fraction.length)

/-- The number that a text with a point stands for. -/
def pointed? (text : List Char) : Option Double :=
  let (negative, rest) := takeSign text
  let before := rest.takeWhile (· != '.')
  match rest.dropWhile (· != '.') with
  | [] => none
  | _ :: after =>
    let digits := after.takeWhile (isGrouped Char.isDigit)
    let more := after.dropWhile (isGrouped Char.isDigit)
    match split ':' before with
    | [[]] =>
      if text.head? == some '.' && isCount digits then
        (exponent? more).map (decimal false 0 digits)
      else none
    | [whole] =>
      if isCount whole then (exponent? more).map (decimal negative (baseValue 10 whole) digits)
      else none
    | first :: groups =>
      if isCount first && groups.all isSixty && more.isEmpty then
        some (decimal negative (sixtiesValue (first :: groups)) digits 0)
      else none
    | [] => none

/-- The words for numbers that have no digits. -/
def specialNumbers : List (String × Double) :=
  [(".inf", .infinite false), (".Inf", .infinite false), (".INF", .infinite false),
   ("+.inf", .infinite false), ("+.Inf", .infinite false), ("+.INF", .infinite false),
   ("-.inf", .infinite true), ("-.Inf", .infinite true), ("-.INF", .infinite true),
   (".nan", .nan), (".NaN", .nan), (".NAN", .nan)]

-- ---------------------------------------------------------------------------
-- Words and moments
-- ---------------------------------------------------------------------------

/-- The words for yes. -/
def yesWords : List String :=
  ["yes", "Yes", "YES", "true", "True", "TRUE", "on", "On", "ON"]

/-- The words for no. -/
def noWords : List String :=
  ["no", "No", "NO", "false", "False", "FALSE", "off", "Off", "OFF"]

/-- The words for nothing. -/
def nullWords : List String := ["", "~", "null", "Null", "NULL"]

/-- Are there so many digits, at least one and at most `most`? -/
def areDigits (least most : Nat) (text : List Char) : Bool :=
  least ≤ text.length && text.length ≤ most && text.all Char.isDigit

/-- Is the text the rest of a time of day, from the seconds on? -/
def isTimeEnd (text : List Char) : Bool :=
  let seconds := text.take 2
  let rest := text.drop 2
  let rest := match rest with
    | '.' :: more => more.dropWhile Char.isDigit
    | rest => rest
  let zone := rest.dropWhile fun c => c == ' ' || c == '\t'
  areDigits 2 2 seconds &&
    match zone with
    | [] => rest.isEmpty
    | ['Z'] => true
    | sign :: offset =>
      (sign == '-' || sign == '+') &&
        match split ':' offset with
        | [hours] => areDigits 1 2 hours
        | [hours, minutes] => areDigits 1 2 hours && areDigits 2 2 minutes
        | _ => false

/-- Is the text a time of day? -/
def isTime (text : List Char) : Bool :=
  let hours := text.takeWhile Char.isDigit
  areDigits 1 2 hours &&
    match text.dropWhile Char.isDigit with
    | ':' :: a :: b :: ':' :: rest => areDigits 2 2 [a, b] && isTimeEnd rest
    | _ => false

/-- Is the text a date, or a date with a time? -/
def isMoment (text : List Char) : Bool :=
  match split '-' text with
  | year :: month :: more =>
    let rest := joinWith ['-'] more
    let day := rest.takeWhile Char.isDigit
    let after := rest.dropWhile Char.isDigit
    !more.isEmpty && areDigits 4 4 year && areDigits 1 2 month && areDigits 1 2 day &&
      match after with
      | [] => month.length == 2 && day.length == 2
      | 'T' :: time => isTime time
      | 't' :: time => isTime time
      | blank :: time =>
        (blank == ' ' || blank == '\t') && isTime (time.dropWhile fun c => c == ' ' || c == '\t')
  | _ => false

-- ---------------------------------------------------------------------------
-- Meaning
-- ---------------------------------------------------------------------------

namespace Meaning

/-- What a plain scalar stands for. -/
def of (text : List Char) : Meaning :=
  let word := String.ofList text
  if yesWords.contains word then bool true
  else if noWords.contains word then bool false
  else
    match specialNumbers.lookup word with
    | some x => float x
    | none =>
      match pointed? text with
      | some x => float x
      | none =>
        match int? text with
        | some n => int n
        | none =>
          if word == "<<" then merge
          else if nullWords.contains word then null
          else if isMoment text then moment
          else if word == "=" then plainValue
          else Meaning.text

/-- Does the scalar stand for itself? -/
def isText (text : List Char) : Bool := Meaning.of text == Meaning.text

end Meaning

end Lexicon.Yaml
