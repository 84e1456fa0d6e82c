import Lexicon.Naming.Style

/-!
# Lexicon — identifiers of one scope

The names of the fields of a struct, or of the variants of an enum, are handed
out one by one. A `Scope` remembers which are taken, so that no two are the same,
and keeps clear of the words that a language has reserved.

* `WordPolicy`      — the reserved words, and how to get around them.
* `Identifier`      — a name that was handed out, beside the wire name it stands for.
* `unused`          — the name itself if it is free, else the name with the first number
                      that makes it so.
* `Scope.identify`  — hands out the identifier of a wire name.
* `Scope.clear`     — begins a new scope; conversions stay remembered.
-/

namespace Lexicon.Naming

-- ---------------------------------------------------------------------------
-- Reserved words
-- ---------------------------------------------------------------------------

/-- The words a language has reserved. A reserved word is written behind the escape;
one that cannot be escaped, or for which there is no escape, gets a suffix. -/
structure WordPolicy where
  reserved : List String := []
  unescapable : List String := []
  escape : String := ""
  suffix : String := "_"
  deriving DecidableEq, Repr, Inhabited

namespace WordPolicy

/-- May the word not be used at all? -/
def forbids (policy : WordPolicy) (name : String) : Bool :=
  policy.unescapable.contains name || (policy.reserved.contains name && policy.escape == "")

/-- The name, with the suffix if the word may not be used. -/
def permitted (policy : WordPolicy) (name : String) : String :=
  if policy.forbids name then name ++ policy.suffix else name

/-- What has to stand before a name where it is written. -/
def escapeFor (policy : WordPolicy) (name : String) : String :=
  if policy.reserved.contains name then policy.escape else ""

end WordPolicy

-- ---------------------------------------------------------------------------
-- Identifiers
-- ---------------------------------------------------------------------------

/-- An identifier and the wire name it stands for. -/
structure Identifier where
  name : String
  wireName : String
  escape : String := ""
  deriving DecidableEq, Repr, Inhabited

namespace Identifier

/-- The identifier as it is written, with its escape. -/
def declared (i : Identifier) : String := i.escape ++ i.name

/-- Does the identifier differ from the wire name? -/
def isRenamed (i : Identifier) : Bool := i.name != i.wireName

end Identifier

-- ---------------------------------------------------------------------------
-- Numbering
-- ---------------------------------------------------------------------------

/-- A name with a number. -/
def numbered (name : String) (n : Nat) : String := name ++ "_" ++ toString n

/-- The name with the first number from `n` on that no name in `used` has, among
the next `count` numbers; the number after these if there is none. -/
def firstUnused (used : List String) (name : String) (n : Nat) : (count : Nat) → String
  | 0 => numbered name n
  | count + 1 =>
    if used.contains (numbered name n) then firstUnused used name (n + 1) count
    else numbered name n

/-- The name itself if it is free, else the name with the least number that makes it
so. There are fewer taken names than numbers tried. -/
def unused (used : List String) (name : String) : String :=
  if used.contains name then firstUnused used name 1 used.length else name

-- ---------------------------------------------------------------------------
-- Scopes
-- ---------------------------------------------------------------------------

/-- The names handed out so far, and the conversions made so far. -/
structure Scope where
  policy : WordPolicy
  used : List String := []
  memory : List (String × String) := []
  deriving DecidableEq, Repr, Inhabited

namespace Scope

/-- The key under which a conversion is remembered. -/
def memoryKey (name : String) (style : Style) : String := name ++ "_" ++ style.name

/-- The conversion of a name, remembered or made. -/
def converted (scope : Scope) (name : String) (style : Style) : String :=
  (scope.memory.lookup (memoryKey name style)).getD (convert name style)

/-- Remembers a conversion. -/
def remember (scope : Scope) (name : String) (style : Style) (result : String) : Scope :=
  if (scope.memory.lookup (memoryKey name style)).isSome then scope
  else { scope with memory := (memoryKey name style, result) :: scope.memory }

/-- Hands out the identifier of a wire name. -/
def identify (scope : Scope) (wireName : String) (style : Style) : Identifier × Scope :=
  let result := scope.converted wireName style
  let name := unused scope.used (scope.policy.permitted result)
  let next := scope.remember wireName style result
  ({ name, wireName, escape := scope.policy.escapeFor name },
    { next with used := name :: next.used })

/-- Hands out the identifiers of several wire names, one after the other. -/
def identifyAll (scope : Scope) (style : Style) : List String → List Identifier × Scope
  | [] => ([], scope)
  | wireName :: rest =>
    let (identifier, next) := scope.identify wireName style
    let (others, final) := next.identifyAll style rest
    (identifier :: others, final)

/-- Has the name been handed out? -/
def isUsed (scope : Scope) (name : String) : Bool := scope.used.contains name

/-- Begins a new scope. -/
def clear (scope : Scope) : Scope := { scope with used := [] }

end Scope

end Lexicon.Naming
