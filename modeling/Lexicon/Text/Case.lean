import Lexicon.Text.CaseTable

/-!
# Lexicon — upper case, lower case, initials

Case conversion of whole texts by the full Unicode mappings, under which one
character may become several. ASCII is answered directly; the tables are
consulted for the rest only.

* `lower`      — lower case, with the two small forms of the capital sigma.
* `upper`      — upper case.
* `capitalize` — an initial in title case, the rest in lower case.
-/

namespace Lexicon.Text

-- ---------------------------------------------------------------------------
-- Table access
-- ---------------------------------------------------------------------------

/-- Does one of the ranges hold the character? -/
def inRanges (ranges : Array (Nat × Nat)) (c : Char) : Bool :=
  ranges.any fun r => r.1 ≤ c.toNat && c.toNat ≤ r.2

/-- The image of `c` under a table of runs; `none` if no run covers it. -/
def moved? (runs : Array CaseRun) (c : Char) : Option Char :=
  (runs.find? fun r =>
      r.first ≤ c.toNat && c.toNat ≤ r.last && (c.toNat - r.first) % r.step == 0).map
    fun r => Char.ofNat ((c.toNat : Int) + r.shift).toNat

/-- The image of `c` under a table of several-character images. -/
def widened? (table : Array (Nat × List Nat)) (c : Char) : Option (List Char) :=
  (table.find? fun e => e.1 == c.toNat).map fun e => e.2.map Char.ofNat

-- ---------------------------------------------------------------------------
-- One character
-- ---------------------------------------------------------------------------

/-- Is the character in ASCII? -/
def isAscii (c : Char) : Bool := c.toNat < 128

/-- The lower-case image of one character, its neighbours left out of account. -/
def lowerChar (c : Char) : List Char :=
  if isAscii c then [c.toLower]
  else
    match widened? lowerWide c with
    | some image => image
    | none => [(moved? lowerRuns c).getD c]

/-- The upper-case image of one character. -/
def upperChar (c : Char) : List Char :=
  if isAscii c then [c.toUpper]
  else
    match widened? upperWide c with
    | some image => image
    | none => [(moved? upperRuns c).getD c]

/-- The title-case image of one character. -/
def titleChar (c : Char) : List Char :=
  if isAscii c then [c.toUpper]
  else if inRanges titleUnchanged c then [c]
  else
    match widened? titleExceptions c with
    | some image => image
    | none => upperChar c

-- ---------------------------------------------------------------------------
-- Whole texts
-- ---------------------------------------------------------------------------

/-- The capital sigma, whose small form depends on its place in the word. -/
def capitalSigma : Char := 'Σ'

/-- Does a cased letter come first in `context`, ignorable characters skipped? -/
def meetsCased (context : List Char) : Bool :=
  match context.find? fun c => !inRanges caseIgnorable c with
  | some c => inRanges cased c
  | none => false

/-- The small form of a capital sigma: the final one where a letter goes before
and none follows. `before` is the text before it, nearest character first. -/
def smallSigma (before after : List Char) : Char :=
  if meetsCased before && !meetsCased after then 'ς' else 'σ'

/-- Lower case of the rest of a text, of which `before` has been passed. -/
def lowerAfter (before : List Char) : List Char → List Char
  | [] => []
  | c :: rest =>
    (if c = capitalSigma then [smallSigma before rest] else lowerChar c) ++
      lowerAfter (c :: before) rest

/-- The lower-case form of a text. -/
def lower (text : List Char) : List Char := lowerAfter [] text

/-- The upper-case form of a text. -/
def upper (text : List Char) : List Char := text.flatMap upperChar

/-- An initial in title case, and all that follows in lower case. -/
def capitalize : List Char → List Char
  | [] => []
  | c :: rest => titleChar c ++ lowerAfter [c] rest

end Lexicon.Text
