/-!
# Lexicon — decimal digits

The decimal digits of all scripts. Those of one script follow each other.

* `zeros`          — the code points of the digits zero.
* `isDecimalDigit` — the test of a character.
* `isSignedDecimal` — is a text a number with a minus sign?
-/

namespace Lexicon.Text

/-- The code points of the digits zero. -/
def zeros : List Nat :=
  [0x30, 0x660, 0x6F0, 0x7C0, 0x966, 0x9E6, 0xA66, 0xAE6, 0xB66, 0xBE6, 0xC66, 0xCE6, 0xD66,
   0xDE6, 0xE50, 0xED0, 0xF20, 0x1040, 0x1090, 0x17E0, 0x1810, 0x1946, 0x19D0, 0x1A80, 0x1A90,
   0x1B50, 0x1BB0, 0x1C40, 0x1C50, 0xA620, 0xA8D0, 0xA900, 0xA9D0, 0xA9F0, 0xAA50, 0xABF0,
   0xFF10, 0x104A0, 0x10D30, 0x11066, 0x110F0, 0x11136, 0x111D0, 0x112F0, 0x11450, 0x114D0,
   0x11650, 0x116C0, 0x11730, 0x118E0, 0x11950, 0x11C50, 0x11D50, 0x11DA0, 0x16A60, 0x16AC0,
   0x16B50, 0x1D7CE, 0x1D7D8, 0x1D7E2, 0x1D7EC, 0x1D7F6, 0x1E140, 0x1E2F0, 0x1E950, 0x1FBF0]

/-- Is the character a decimal digit of some script? -/
def isDecimalDigit (c : Char) : Bool := zeros.any fun n => n ≤ c.toNat && c.toNat < n + 10

/-- Are the characters digits, and are there any? -/
def isDigits (text : List Char) : Bool := !text.isEmpty && text.all isDecimalDigit

/-- The text without a line feed at its end. -/
def withoutNewline (text : List Char) : List Char :=
  if text.getLast? == some '\n' then text.dropLast else text

/-- Is the text a minus sign with digits, and maybe a point with digits before or after
it? A line feed may follow. -/
def isSignedDecimal (text : List Char) : Bool :=
  match withoutNewline text with
  | '-' :: number =>
    match number.dropWhile isDecimalDigit with
    | '.' :: fraction => isDigits fraction
    | rest => rest.isEmpty && isDigits number
  | _ => false

end Lexicon.Text
