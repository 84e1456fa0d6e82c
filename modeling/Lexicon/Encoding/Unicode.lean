import Lexicon.Encoding.Utf8

/-!
# Lexicon — the encoding of a JSON text

The bytes of a JSON text do not say how they are encoded, but their first four
do: either there is a byte order mark, or the zero bytes among them show how
wide a character is and which end comes first, since a JSON text opens with an
ASCII character.

* `Scheme.detect` — the encoding scheme of some bytes.
* `decodeJson`    — their text.
* `fileText`      — the text of a file in UTF-8, every line end made a line feed.
-/

namespace Lexicon.Encoding

-- ---------------------------------------------------------------------------
-- Schemes
-- ---------------------------------------------------------------------------

/-- An encoding scheme; `marked` ones open with a byte order mark to be skipped. -/
inductive Scheme where
  | utf8
  | utf8Marked
  | utf16 (bigEndian marked : Bool)
  | utf32 (bigEndian marked : Bool)
  deriving DecidableEq, Repr

/-- The scheme that the first bytes suggest. -/
def Scheme.detect (bytes : List UInt8) : Scheme :=
  match bytes with
  | 0x00 :: 0x00 :: 0xFE :: 0xFF :: _ => .utf32 true true
  | 0xFF :: 0xFE :: 0x00 :: 0x00 :: _ => .utf32 false true
  | 0xFE :: 0xFF :: _ => .utf16 true true
  | 0xFF :: 0xFE :: _ => .utf16 false true
  | 0xEF :: 0xBB :: 0xBF :: _ => .utf8Marked
  | a :: b :: c :: d :: _ =>
    if a == 0 then (if b == 0 then .utf32 true false else .utf16 true false)
    else if b == 0 then
      (if c == 0 && d == 0 then .utf32 false false else .utf16 false false)
    else .utf8
  | [a, b] =>
    if a == 0 then .utf16 true false else if b == 0 then .utf16 false false else .utf8
  | _ => .utf8

/-- The name of a wide scheme. -/
def wideName (width : Nat) (bigEndian : Bool) : String :=
  "utf-" ++ toString (8 * width) ++ if bigEndian then "-be" else "-le"

-- ---------------------------------------------------------------------------
-- Units
-- ---------------------------------------------------------------------------

/-- The number that the bytes of one unit write. -/
def unitValue (bigEndian : Bool) (bytes : List UInt8) : Nat :=
  (if bigEndian then bytes else bytes.reverse).foldl (fun n b => n * 256 + b.toNat) 0

/-- Cuts the bytes into units of `width` bytes, at most `fuel` of them; the bytes
at the end that make up no unit are left over. -/
def units (width : Nat) (bigEndian : Bool) : (fuel : Nat) → List UInt8 → List Nat × List UInt8
  | 0, bytes => ([], bytes)
  | fuel + 1, bytes =>
    if bytes.length < width then ([], bytes)
    else
      let (us, rest) := units width bigEndian fuel (bytes.drop width)
      (unitValue bigEndian (bytes.take width) :: us, rest)

/-- The characters of 16-bit units; a half that stands alone gives the replacement
character. -/
def charsOfUnits16 : List Nat → List Char
  | [] => []
  | [u] => [if 0xD800 ≤ u ∧ u ≤ 0xDFFF then Char.ofNat 0xFFFD else Char.ofNat u]
  | u :: v :: rest =>
    if 0xD800 ≤ u ∧ u ≤ 0xDBFF ∧ 0xDC00 ≤ v ∧ v ≤ 0xDFFF then
      Char.ofNat (0x10000 + (u - 0xD800) * 0x400 + (v - 0xDC00)) :: charsOfUnits16 rest
    else if 0xD800 ≤ u ∧ u ≤ 0xDFFF then Char.ofNat 0xFFFD :: charsOfUnits16 (v :: rest)
    else Char.ofNat u :: charsOfUnits16 (v :: rest)

/-- The character of a 32-bit unit. -/
def charOfUnit32 (u : Nat) : Char :=
  if 0xD800 ≤ u ∧ u ≤ 0xDFFF then Char.ofNat 0xFFFD else Char.ofNat u

-- ---------------------------------------------------------------------------
-- Decoding
-- ---------------------------------------------------------------------------

/-- The failure at a run of bytes of a wide text. -/
def wideFault (width : Nat) (bigEndian : Bool) (fault : ByteFault) (bytes : List UInt8)
    (offset count : Nat) : DecodeFault :=
  { scheme := wideName width bigEndian, fault, first := (bytes.drop offset).headD 0, offset, count }

/-- The text of 16-bit units; `skip` bytes at the start are the byte order mark. -/
def decode16 (bigEndian : Bool) (skip : Nat) (bytes : List UInt8) :
    Except DecodeFault (List Char) :=
  let (us, rest) := units 2 bigEndian bytes.length (bytes.drop skip)
  if rest.isEmpty then .ok (charsOfUnits16 us)
  else .error (wideFault 2 bigEndian .truncated bytes (bytes.length - rest.length) rest.length)

/-- The text of 32-bit units; `skip` bytes at the start are the byte order mark. -/
def decode32 (bigEndian : Bool) (skip : Nat) (bytes : List UInt8) :
    Except DecodeFault (List Char) :=
  let (us, rest) := units 4 bigEndian bytes.length (bytes.drop skip)
  match us.findIdx? fun u => 0x10FFFF < u with
  | some i => .error (wideFault 4 bigEndian .outOfRange bytes (skip + 4 * i) 4)
  | none =>
    if rest.isEmpty then .ok (us.map charOfUnit32)
    else .error (wideFault 4 bigEndian .truncated bytes (bytes.length - rest.length) rest.length)

/-- The text of a JSON document in bytes. -/
def decodeJson (bytes : List UInt8) : Except DecodeFault (List Char) :=
  match Scheme.detect bytes with
  | .utf8 => Utf8.decode bytes
  | .utf8Marked => Utf8.decode (bytes.drop 3)
  | .utf16 bigEndian marked => decode16 bigEndian (if marked then 2 else 0) bytes
  | .utf32 bigEndian marked => decode32 bigEndian (if marked then 4 else 0) bytes

-- ---------------------------------------------------------------------------
-- Files
-- ---------------------------------------------------------------------------

/-- Makes every line end, also a carriage return alone, a line feed. -/
def unifyLineEnds : List Char → List Char
  | [] => []
  | '\r' :: '\n' :: rest => '\n' :: unifyLineEnds rest
  | '\r' :: rest => '\n' :: unifyLineEnds rest
  | c :: rest => c :: unifyLineEnds rest

/-- The text of a file. -/
def fileText (bytes : List UInt8) : Except DecodeFault (List Char) :=
  (Utf8.decode bytes).map unifyLineEnds

end Lexicon.Encoding
