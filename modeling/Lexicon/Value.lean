import Lexicon.Number.Double

/-!
# Lexicon — dynamic values

What a JSON text or a settings file holds before anything is known about it: a
tree of scalars, lists and mappings. A mapping keeps its keys in the order in
which they were first written.

* `Value`        — the tree.
* `Fields`       — the entries of a mapping; `Fields.put` keeps the place of a key
                   and replaces its value, `Fields.merge` does so for many.
* `Value.truthy` — whether a setting counts as switched on.
* `Value.same`   — equality: the order of keys does not matter, and numbers are
                   compared by value, truth values counting as 0 and 1.
-/

namespace Lexicon

/-- A dynamic value. -/
inductive Value where
  | null
  | bool (b : Bool)
  | int (n : Int)
  | float (x : Double)
  | text (s : String)
  | list (items : List Value)
  | mapping (entries : List (String × Value))
  deriving Inhabited, Repr

/-- The entries of a mapping, in order. -/
abbrev Fields := List (String × Value)

-- ---------------------------------------------------------------------------
-- Mappings
-- ---------------------------------------------------------------------------

namespace Fields

/-- Sets a key: an existing one keeps its place, a new one goes last. -/
def put (key : String) (value : Value) : Fields → Fields
  | [] => [(key, value)]
  | (k, v) :: rest => if k = key then (key, value) :: rest else (k, v) :: put key value rest

/-- Sets the keys of `changes`, one after the other. -/
def merge (base changes : Fields) : Fields :=
  changes.foldl (fun fields (k, v) => put k v fields) base

/-- The value of a key; a key that is absent and one whose value is null are not
told apart. -/
def present? (fields : Fields) (key : String) : Option Value :=
  match fields.lookup key with
  | none => none
  | some .null => none
  | some v => some v

/-- Builds a mapping from a list of entries in which a key may occur repeatedly:
the first occurrence gives the place, the last one the value. -/
def ofList (entries : List (String × Value)) : Fields := merge [] entries

theorem lookup_put (key k : String) (value : Value) (fields : Fields) :
    (put key value fields).lookup k = if k = key then some value else fields.lookup k := by
  induction fields with
  | nil =>
    by_cases h : k = key
    · simp [put, h]
    · simp [put, h, List.lookup_cons, beq_eq_false_iff_ne.mpr h]
  | cons e rest ih =>
    obtain ⟨k', v'⟩ := e
    by_cases hk : k' = key
    · -- the entry found is the one replaced
      subst hk
      by_cases h : k = k'
      · simp [put, h]
      · simp [put, h, List.lookup_cons, beq_eq_false_iff_ne.mpr h]
    · by_cases h : k = k'
      · subst h
        simp [put, hk]
      · simp [put, hk, List.lookup_cons, beq_eq_false_iff_ne.mpr h, ih]

theorem lookup_put_self (key : String) (value : Value) (fields : Fields) :
    (put key value fields).lookup key = some value :=
  (lookup_put ..).trans (if_pos rfl)

theorem lookup_put_of_ne {key k : String} (h : key ≠ k) (value : Value) (fields : Fields) :
    (put key value fields).lookup k = fields.lookup k :=
  (lookup_put ..).trans (if_neg h.symm)

end Fields

-- ---------------------------------------------------------------------------
-- Scalars
-- ---------------------------------------------------------------------------

namespace Value

/-- Does the value count as switched on? Null, false, zero and whatever is empty
do not. -/
def truthy : Value → Bool
  | null => false
  | bool b => b
  | int n => n != 0
  | float x => !x.isZero
  | text s => s != ""
  | list items => !items.isEmpty
  | mapping entries => !entries.isEmpty

/-- The value as an integer, truth values counting as 0 and 1. -/
def asInt? : Value → Option Int
  | int n => some n
  | bool true => some 1
  | bool false => some 0
  | _ => none

/-- Equality of numbers, whatever they are written as. -/
def sameNumber (a b : Value) : Bool :=
  match a, b with
  | float x, float y => x.beq y
  | float x, b => match x.toInt?, b.asInt? with
    | some m, some n => m == n
    | _, _ => false
  | a, float y => match a.asInt?, y.toInt? with
    | some m, some n => m == n
    | _, _ => false
  | a, b => match a.asInt?, b.asInt? with
    | some m, some n => m == n
    | _, _ => false

mutual

/-- Equality of values, regardless of the order of keys. -/
def same : Value → Value → Bool
  | null, null => true
  | text a, text b => a == b
  | list xs, list ys => sameItems xs ys
  | mapping xs, mapping ys => xs.length == ys.length && sameEntries xs ys
  | a, b => sameNumber a b

/-- Equality item by item. -/
def sameItems : List Value → List Value → Bool
  | [], [] => true
  | x :: xs, y :: ys => same x y && sameItems xs ys
  | _, _ => false

/-- Has every entry an equal one of the same key among the others? -/
def sameEntries : List (String × Value) → List (String × Value) → Bool
  | [], _ => true
  | (k, v) :: rest, others =>
    (match others.lookup k with
      | some w => same v w
      | none => false) && sameEntries rest others

end

end Value

end Lexicon
