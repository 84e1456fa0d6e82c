import Lexicon.Value.Display

/-!
# Lexicon — UTF-8

Decoding of bytes into characters, with an account of the first bytes that do
not fit: which ones, and why.

* `ByteFault`, `DecodeFault` — the reason, and the bytes it concerns.
* `Utf8.decode`              — the characters of a byte sequence.
* `Utf8.encode`              — the bytes of a text.

A sequence is refused at the longest prefix that could still have become a
character: a wrong byte inside a sequence blames the bytes before it, and a
sequence that stops short blames all that is there.
-/

namespace Lexicon.Encoding

-- ---------------------------------------------------------------------------
-- Faults
-- ---------------------------------------------------------------------------

/-- Why bytes are no text. -/
inductive ByteFault where
  | invalidStart
  | invalidContinuation
  | unexpectedEnd
  | truncated
  | outOfRange
  deriving DecidableEq, Repr, Inhabited

/-- The wording of the reason. -/
def ByteFault.message : ByteFault → String
  | .invalidStart => "invalid start byte"
  | .invalidContinuation => "invalid continuation byte"
  | .unexpectedEnd => "unexpected end of data"
  | .truncated => "truncated data"
  | .outOfRange => "code point not in range(0x110000)"

/-- A decoding failure: the scheme, the reason, and the offending bytes, of which
`first` is the value of the first, `offset` its place and `count` their number. -/
structure DecodeFault where
  scheme : String
  fault : ByteFault
  first : UInt8
  offset : Nat
  count : Nat
  deriving DecidableEq, Repr, Inhabited

/-- The message of a decoding failure. -/
def DecodeFault.message (f : DecodeFault) : String :=
  "'" ++ f.scheme ++ "' codec can't decode " ++
    (if f.count = 1 then
      "byte 0x" ++ String.ofList (hexDigits 2 f.first.toNat) ++ " in position " ++
        toString f.offset
    else
      "bytes in position " ++ toString f.offset ++ "-" ++ toString (f.offset + f.count - 1)) ++
    ": " ++ f.fault.message

-- ---------------------------------------------------------------------------
-- Decoding
-- ---------------------------------------------------------------------------

namespace Utf8

/-- A byte that continues a sequence. -/
def isTail (b : UInt8) : Bool := 0x80 ≤ b && b ≤ 0xBF

/-- May `second` follow `lead`? It rules out overlong forms, surrogates and what
lies beyond the last code point. -/
def fits (lead second : UInt8) : Bool :=
  isTail second &&
    !(lead == 0xE0 && second < 0xA0) && !(lead == 0xED && 0xA0 ≤ second) &&
    !(lead == 0xF0 && second < 0x90) && !(lead == 0xF4 && 0x90 ≤ second)

/-- The six payload bits of a continuation byte. -/
def tailBits (b : UInt8) : Nat := b.toNat - 0x80

/-- What the bytes open with: a character and the bytes after it, or the reason
why there is none and the number of bytes to blame. -/
inductive Opening where
  | char (c : Char) (rest : List UInt8)
  | fault (fault : ByteFault) (count : Nat)
  | done

/-- Examines the start of a byte sequence. -/
def opening : List UInt8 → Opening
  | [] => .done
  | a :: rest =>
    if a < 0x80 then .char (Char.ofNat a.toNat) rest
    else if a < 0xC2 || 0xF4 < a then .fault .invalidStart 1
    else if a < 0xE0 then
      match rest with
      | [] => .fault .unexpectedEnd 1
      | b :: rest =>
        if isTail b then .char (Char.ofNat ((a.toNat - 0xC0) * 64 + tailBits b)) rest
        else .fault .invalidContinuation 1
    else if a < 0xF0 then
      match rest with
      | [] => .fault .unexpectedEnd 1
      | b :: rest =>
        if !fits a b then .fault .invalidContinuation 1
        else
          match rest with
          | [] => .fault .unexpectedEnd 2
          | c :: rest =>
            if isTail c then
              .char (Char.ofNat (((a.toNat - 0xE0) * 64 + tailBits b) * 64 + tailBits c)) rest
            else .fault .invalidContinuation 2
    else
      match rest with
      | [] => .fault .unexpectedEnd 1
      | b :: rest =>
        if !fits a b then .fault .invalidContinuation 1
        else
          match rest with
          | [] => .fault .unexpectedEnd 2
          | c :: rest =>
            if !isTail c then .fault .invalidContinuation 2
            else
              match rest with
              | [] => .fault .unexpectedEnd 3
              | d :: rest =>
                if isTail d then
                  .char (Char.ofNat
                    ((((a.toNat - 0xF0) * 64 + tailBits b) * 64 + tailBits c) * 64 +
                      tailBits d)) rest
                else .fault .invalidContinuation 3

/-- Decodes with at most `fuel` characters; `offset` bytes have been passed and
`read`, last character first, has been decoded. -/
def decodeFrom : (fuel offset : Nat) → (read : List Char) → List UInt8 →
    Except DecodeFault (List Char)
  | 0, _, read, _ => .ok read.reverse
  | fuel + 1, offset, read, bytes =>
    match opening bytes with
    | .done => .ok read.reverse
    | .fault fault count =>
      .error { scheme := "utf-8", fault, first := bytes.headD 0, offset, count }
    | .char c rest => decodeFrom fuel (offset + (bytes.length - rest.length)) (c :: read) rest

/-- The text that the bytes encode. -/
def decode (bytes : List UInt8) : Except DecodeFault (List Char) :=
  decodeFrom (bytes.length + 1) 0 [] bytes

/-- The bytes of a text. -/
def encode (text : String) : List UInt8 := text.toUTF8.toList

end Utf8

end Lexicon.Encoding
