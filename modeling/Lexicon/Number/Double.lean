/-!
# Lexicon — double-precision numbers

A number written with a fraction or an exponent is held as a binary64 value, and
shown by the shortest decimal that reads back to it. Both directions are exact
arithmetic on natural numbers, so that what they do can be stated and proved.

* `Double`            — the values: not a number, the infinities, and `± m · 2 ^ q`.
* `Double.ofDecimal`  — the value nearest to `± d · 10 ^ e`, ties to even.
* `Double.shortest`   — the fewest digits that read back, nearest to the value.
* `Double.text`       — their layout: positional from `0.0001` up to below `10 ^ 16`,
                        with an exponent of two digits or more outside.
* `Double.beq`        — numeric equality: the zeros are equal, not-a-number differs
                        from itself.
-/

namespace Lexicon

/-- A binary64 value. A finite one is `± mantissa · 2 ^ exponent`, with the
largest mantissa below `2 ^ 53` that an exponent of at least `-1074` admits. -/
inductive Double where
  | nan
  | infinite (negative : Bool)
  | finite (negative : Bool) (mantissa : Nat) (exponent : Int)
  deriving DecidableEq, Repr, Inhabited

namespace Double

-- ---------------------------------------------------------------------------
-- Rounding
-- ---------------------------------------------------------------------------

/-- The quotient rounded to the nearest integer, a tie to the even one. -/
def roundDiv (num den : Nat) : Nat :=
  let q := num / den
  let twice := 2 * (num % den)
  if twice < den then q
  else if den < twice then q + 1
  else q + q % 2

/-- The largest exponent of a finite value. -/
def maxExponent : Int := 971

/-- The least exponent of a finite value. -/
def minExponent : Int := -1074

/-- `num / den` in units of `2 ^ exponent`, as a fraction. -/
def inUnits (num den : Nat) (exponent : Int) : Nat × Nat :=
  if exponent < 0 then (num * Nat.pow 2 (-exponent).toNat, den)
  else (num, den * Nat.pow 2 exponent.toNat)

/-- The exponent under which `num / den` has 53 bits before the binary point, or
the least exponent if that is larger. -/
def unitExponent (num den : Nat) : Int :=
  let guess := max minExponent ((Nat.log2 num : Int) - (Nat.log2 den : Int) - 53)
  let (n, d) := inUnits num den guess
  let bits := if n / d = 0 then 0 else Nat.log2 (n / d) + 1
  if 53 < bits then guess + ((bits : Int) - 53) else guess

/-- The finite value nearest to the fraction, or infinity beyond the range. -/
def ofFraction (negative : Bool) (num den : Nat) : Double :=
  if num = 0 then finite negative 0 minExponent
  else
    let exponent := unitExponent num den
    let (n, d) := inUnits num den exponent
    let mantissa := roundDiv n d
    -- rounding up may need one bit more, which is then a power of two
    let (mantissa, exponent) :=
      if mantissa = Nat.pow 2 53 then (Nat.pow 2 52, exponent + 1) else (mantissa, exponent)
    if maxExponent < exponent then infinite negative else finite negative mantissa exponent

/-- The number of decimal digits, with one for zero. -/
def digitCount (n : Nat) : Nat := (Nat.toDigits 10 n).length

/-- The value nearest to `± digits · 10 ^ scale`. Powers far outside the range
are answered without being computed. -/
def ofDecimal (negative : Bool) (digits : Nat) (scale : Int) : Double :=
  if digits = 0 then finite negative 0 minExponent
  else if 400 < (digitCount digits : Int) + scale then infinite negative
  else if (digitCount digits : Int) + scale < -400 then finite negative 0 minExponent
  else if scale < 0 then ofFraction negative digits (Nat.pow 10 (-scale).toNat)
  else ofFraction negative (digits * Nat.pow 10 scale.toNat) 1

-- ---------------------------------------------------------------------------
-- Shortest decimal
-- ---------------------------------------------------------------------------

/-- The magnitude of a finite value as a fraction. -/
def fraction (mantissa : Nat) (exponent : Int) : Nat × Nat :=
  if exponent < 0 then (mantissa, Nat.pow 2 (-exponent).toNat)
  else (mantissa * Nat.pow 2 exponent.toNat, 1)

/-- `num / den` in units of `10 ^ scale`, as a fraction. -/
def inDecimalUnits (num den : Nat) (scale : Int) : Nat × Nat :=
  if scale < 0 then (num * Nat.pow 10 (-scale).toNat, den) else (num, den * Nat.pow 10 scale.toNat)

/-- The `k` with `10 ^ (k - 1) ≤ num / den < 10 ^ k`. -/
def decimalPoint (num den : Nat) : Int :=
  let guess := (digitCount num : Int) - (digitCount den : Int)
  -- the quotient lies between `10 ^ (guess - 1)` and `10 ^ (guess + 1)`
  let (n, d) := inDecimalUnits num den guess
  if n < d then guess else guess + 1

/-- The candidates with unit `10 ^ scale` nearest to the fraction, nearer first;
of two equally near the even one goes first. -/
def neighbours (num den : Nat) (scale : Int) : List Nat :=
  let (n, d) := inDecimalUnits num den scale
  let low := n / d
  let near := roundDiv n d
  if near = low then [low, low + 1] else [low + 1, low]

/-- The first of the candidate lengths, from `length` on, at which a decimal
reads back to the value, with at most `fuel` attempts; `none` if no length does. -/
def shortestFrom (value : Double) (num den : Nat) (point : Int) :
    (fuel length : Nat) → Option (Nat × Int)
  | 0, _ => none
  | fuel + 1, length =>
    let scale := point - (length : Int)
    match (neighbours num den scale).find? fun d => ofDecimal false d scale == value with
    | some d => some (d, scale)
    | none => shortestFrom value num den point fuel (length + 1)

/-- The magnitude of a finite value written out in full, which always reads back. -/
def allDigits (mantissa : Nat) (exponent : Int) : Nat × Int :=
  if exponent < 0 then (mantissa * Nat.pow 5 (-exponent).toNat, exponent)
  else (mantissa * Nat.pow 2 exponent.toNat, 0)

/-- Digits and power of ten of the shortest decimal that reads back to the
magnitude `mantissa · 2 ^ exponent`. Seventeen digits suffice. -/
def shortest (mantissa : Nat) (exponent : Int) : Nat × Int :=
  if mantissa = 0 then (0, 0)
  else
    let (num, den) := fraction mantissa exponent
    (shortestFrom (finite false mantissa exponent) num den (decimalPoint num den) 17 1).getD
      (allDigits mantissa exponent)

-- ---------------------------------------------------------------------------
-- Layout
-- ---------------------------------------------------------------------------

/-- The decimal digits of a number, most significant first. -/
def digitsOf (n : Nat) : List Char := Nat.toDigits 10 n

/-- Digits with trailing zeros moved into the power of ten. -/
def trimZeros (digits : List Char) (scale : Int) : List Char × Int :=
  let zeros := (digits.reverse.takeWhile (· == '0')).length
  if zeros = digits.length then (digits, scale)
  else (digits.take (digits.length - zeros), scale + (zeros : Int))

/-- An exponent: its sign, and two digits at least. -/
def exponentText (e : Int) : List Char :=
  let digits := digitsOf e.natAbs
  (if e < 0 then ['e', '-'] else ['e', '+']) ++
    (if digits.length < 2 then '0' :: digits else digits)

/-- Lays out `digits · 10 ^ scale`: positional for values from `0.0001` up to
below `10 ^ 16`, always with a digit after the point; with an exponent otherwise. -/
def layout (digits : List Char) (scale : Int) : List Char :=
  let point := (digits.length : Int) + scale
  if -4 < point ∧ point ≤ 16 then
    if point ≤ 0 then
      ['0', '.'] ++ List.replicate (-point).toNat '0' ++ digits
    else if (digits.length : Int) ≤ point then
      digits ++ List.replicate scale.toNat '0' ++ ['.', '0']
    else digits.take point.toNat ++ ['.'] ++ digits.drop point.toNat
  else
    match digits with
    | [d] => d :: exponentText (point - 1)
    | d :: rest => d :: '.' :: rest ++ exponentText (point - 1)
    | [] => []

/-- The text of a value. -/
def text : Double → List Char
  | nan => ['n', 'a', 'n']
  | infinite negative => (if negative then ['-'] else []) ++ ['i', 'n', 'f']
  | finite negative mantissa exponent =>
    (if negative then ['-'] else []) ++
      if mantissa = 0 then ['0', '.', '0']
      else
        let (digits, scale) := shortest mantissa exponent
        let (digits, scale) := trimZeros (digitsOf digits) scale
        layout digits scale

-- ---------------------------------------------------------------------------
-- Comparison
-- ---------------------------------------------------------------------------

/-- Numeric equality. -/
def beq : Double → Double → Bool
  | nan, _ => false
  | _, nan => false
  | finite _ 0 _, finite _ 0 _ => true
  | x, y => decide (x = y)

/-- Is the value zero, of either sign? -/
def isZero : Double → Bool
  | finite _ 0 _ => true
  | _ => false

/-- The integer that the value is, if it is one. -/
def toInt? : Double → Option Int
  | finite negative mantissa exponent =>
    let (num, den) := fraction mantissa exponent
    if num % den = 0 then some (if negative then -((num / den : Nat) : Int) else (num / den : Nat))
    else none
  | _ => none

end Double

end Lexicon
