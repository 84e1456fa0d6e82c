import Lexicon.Text.Blank
import Lexicon.Text.Case

/-!
# Lexicon — telling addresses from paths

A source is taken for an address on the web if it has one of the two schemes of the
web and names a host.

* `isUrl`        — the test; some texts are no address at all, and are refused.
* `isBracketed`  — may a host stand in brackets? Only an address of the longer internet
                   protocol or of a later one does.
* `hostOf`       — the host part, between two slashes and what ends it.
-/

namespace Lexicon.Source

open Lexicon.Text

-- ---------------------------------------------------------------------------
-- Hosts in brackets
-- ---------------------------------------------------------------------------

/-- Is the character a hexadecimal digit? -/
def isHexDigit (c : Char) : Bool :=
  c.isDigit || ('a' ≤ c && c ≤ 'f') || ('A' ≤ c && c ≤ 'F')

/-- Is the text one of the four numbers of a short address? -/
def isOctet (text : List Char) : Bool :=
  !text.isEmpty && text.length ≤ 3 && text.all Char.isDigit &&
    (text == ['0'] || text.head? != some '0') &&
    text.foldl (fun n c => n * 10 + (c.toNat - '0'.toNat)) 0 ≤ 255

/-- Is the text a short address, four numbers with dots between them? -/
def isShortAddress (text : List Char) : Bool :=
  let parts := split '.' text
  parts.length == 4 && parts.all isOctet

/-- Is the text one of the eight groups of a long address? -/
def isGroup (text : List Char) : Bool :=
  !text.isEmpty && text.length ≤ 4 && text.all isHexDigit

/-- Do the groups left and right of a gap stand for an address? A gap stands for one
group at least, and an empty group only at the very end of its side. -/
def areAroundGap (before after : List (List Char)) : Bool :=
  let before := if before.head? = some [] then before.tail else before
  let closes := after.getLast? = some []
  let kept := if closes then after.dropLast else after
  before.all isGroup && kept.all isGroup && before.length + kept.length ≤ 7

/-- Is the text a long address: eight groups, or fewer with one gap between them? The
last two groups may be written as a short address. -/
def isLongAddress (text : List Char) : Bool :=
  let parts := split ':' text
  let last := parts.getLast?.getD []
  let short := last.contains '.'
  let groups := if short then parts.dropLast ++ [['0'], ['0']] else parts
  if parts.length < 3 || 9 < groups.length || (short && !isShortAddress last) then false
  else
    let inner := groups.tail.dropLast
    match inner.findIdx? List.isEmpty with
    | none => groups.length == 8 && groups.all isGroup
    | some i =>
      let before := groups.take (i + 1)
      let after := groups.drop (i + 2)
      let opens := before.head? = some []
      let closes := after.getLast? = some []
      (inner.drop (i + 1)).all (fun group => !group.isEmpty) &&
        (!opens || before.length == 1) && (!closes || after.length == 1) &&
        areAroundGap before after

/-- Is the text a long address, perhaps with the name of a zone? -/
def isZonedAddress (text : List Char) : Bool :=
  let address := text.takeWhile (· != '%')
  match text.dropWhile (· != '%') with
  | [] => isLongAddress address
  | _ :: zone => !zone.isEmpty && !zone.contains '%' && isLongAddress address

/-- Is the text an address of a later protocol: its number, a dot, and more? -/
def isLaterAddress (text : List Char) : Bool :=
  match text with
  | 'v' :: rest =>
    let number := rest.takeWhile isHexDigit
    match rest.dropWhile isHexDigit with
    | '.' :: more => !number.isEmpty && !more.isEmpty && !more.contains '\n'
    | _ => false
  | _ => false

/-- May the text stand in brackets? -/
def isBracketed (text : List Char) : Bool :=
  if text.head? = some 'v' then isLaterAddress text else isZonedAddress text

-- ---------------------------------------------------------------------------
-- Addresses
-- ---------------------------------------------------------------------------

/-- May the character stand in a scheme? -/
def isSchemePart (c : Char) : Bool := c.isAlphanum || c == '+' || c == '-' || c == '.'

/-- The scheme of a text in small letters, and what follows it; without a scheme the
whole text follows. -/
def schemeOf (text : List Char) : List Char × List Char :=
  let scheme := text.takeWhile (· != ':')
  match text.dropWhile (· != ':') with
  | _ :: rest =>
    match scheme with
    | first :: _ =>
      if first.isAlpha && scheme.all isSchemePart then (scheme.map Char.toLower, rest)
      else ([], text)
    | [] => ([], text)
  | [] => ([], text)

/-- The host part of what follows the scheme. -/
def hostOf (rest : List Char) : List Char :=
  match rest with
  | '/' :: '/' :: more => more.takeWhile fun c => c != '/' && c != '?' && c != '#'
  | _ => []

/-- The characters that stand for a separator in another width or a ligature, and are
refused in a host. -/
def hiddenSeparators : List Nat :=
  [0x2047, 0x2048, 0x2049, 0x2100, 0x2101, 0x2105, 0x2106, 0x2A74, 0xFE13, 0xFE16, 0xFE55,
   0xFE56, 0xFE5F, 0xFE6B, 0xFF03, 0xFF0F, 0xFF1A, 0xFF1F, 0xFF20]

/-- Can the host part be one? Brackets come in pairs around a bracketed host, and no
separator is hidden in it. -/
def isHostPart (host : List Char) : Bool :=
  let opens := host.contains '['
  let closes := host.contains ']'
  opens == closes &&
    (!opens || isBracketed (((host.dropWhile (· != '[')).drop 1).takeWhile (· != ']'))) &&
    host.all fun c => !hiddenSeparators.contains c.toNat

/-- A text that is no address and cannot be told apart from one. -/
inductive UrlFault where
  | badHost
  deriving DecidableEq, Repr, Inhabited

/-- Is the source an address on the web? Control characters and blanks before it do not
count, nor do tabs and line ends inside. -/
def isUrl (source : String) : Except UrlFault Bool :=
  let text := (source.toList.dropWhile fun c => c.toNat ≤ 32).filter
    fun c => c != '\t' && c != '\r' && c != '\n'
  let (scheme, rest) := schemeOf text
  let host := hostOf rest
  if isHostPart host then
    .ok ((scheme == "http".toList || scheme == "https".toList) && !host.isEmpty)
  else .error .badHost

end Lexicon.Source
