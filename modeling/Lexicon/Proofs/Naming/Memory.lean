import Lexicon.Proofs.Naming.Identifier

/-!
# Lexicon — scopes with a past

A scope is used for one struct after the other, and it remembers every conversion that it has
made, in whatever style. The memory outlives the names in use. Here it is shown that callers
cannot tell: an entry is found under the key of one name and one style only, so what a scope hands
out is settled by the wire name, the style and the names in use.

* `Call`, `callAll`       — what callers can do with a scope, and the scope after that.
* `LeastUnused`           — a name that is not in use, with the least number that it needs.
* `unused_leastUnused`    — the search for a free name ends with it.
* `unused_congr`          — the search asks only which names are in use.
* `Faithful.called`, `Faithful.callAll` — what is remembered stays what a conversion yields.
* `callAll_identify`      — after any calls a scope hands out what one without memory does.
-/

namespace Lexicon.Naming

-- ---------------------------------------------------------------------------
-- The least number
-- ---------------------------------------------------------------------------

/-- `LeastUnused used name result`: the result is the name itself, if that is not in use, and else
the name with the least number from 1 on with which it is not. -/
inductive LeastUnused (used : List String) (name : String) : String → Prop
  | plain (hFree : name ∉ used) : LeastUnused used name name
  | counted {n : Nat} (hTaken : name ∈ used) (hFrom : 1 ≤ n) (hFree : numbered name n ∉ used)
      (hLess : ∀ m, 1 ≤ m → m < n → numbered name m ∈ used) :
      LeastUnused used name (numbered name n)

/-- A search from `n` on ends with its candidate, or with the least number from `n` on that is
free. -/
theorem Settles.least {used : List String} {name candidate result : String} {n : Nat}
    (h : Settles used name n candidate result) :
    result = candidate ∧ candidate ∉ used ∨
      candidate ∈ used ∧ ∃ k, n ≤ k ∧ result = numbered name k ∧ numbered name k ∉ used ∧
        ∀ m, n ≤ m → m < k → numbered name m ∈ used := by
  induction h with
  | free hFree => exact Or.inl ⟨rfl, hFree⟩
  | @next n candidate result hTaken hNext ih =>
    refine Or.inr ⟨hTaken, ?_⟩
    rcases ih with ⟨rfl, hFree⟩ | ⟨hHere, k, hFrom, hResult, hFree, hLess⟩
    · exact ⟨n, Nat.le_refl n, rfl, hFree, fun m hm hBelow => by omega⟩
    · -- the number `n` is taken, and those after it up to `k` are by the rest of the search
      refine ⟨k, by omega, hResult, hFree, fun m hm hBelow => ?_⟩
      rcases Nat.eq_or_lt_of_le hm with rfl | hAbove
      · exact hHere
      · exact hLess m hAbove hBelow

/-- **The search ends with the least number.** -/
theorem unused_leastUnused (used : List String) (name : String) :
    LeastUnused used name (unused used name) := by
  rcases (unused_settles used name).least with
    ⟨hSame, hFree⟩ | ⟨hTaken, k, hFrom, hResult, hFree, hLess⟩
  · rw [hSame]
    exact .plain hFree
  · rw [hResult]
    exact .counted hTaken hFrom hFree hLess

/-- The steps of a search ask only which names are in use. -/
theorem Settles.congr {used other : List String} (hSame : ∀ n, n ∈ used ↔ n ∈ other)
    {name candidate result : String} {n : Nat} (h : Settles used name n candidate result) :
    Settles other name n candidate result := by
  induction h with
  | free hFree => exact .free fun hTaken => hFree ((hSame _).mpr hTaken)
  | next hTaken _ ih => exact .next ((hSame _).mp hTaken) ih

/-- **The search asks only which names are in use**, not in which order they were handed out. -/
theorem unused_congr {used other : List String} (hSame : ∀ n, n ∈ used ↔ n ∈ other)
    (name : String) : unused used name = unused other name :=
  ((unused_settles used name).congr hSame).unique (unused_settles other name)

namespace Scope

-- ---------------------------------------------------------------------------
-- Calls
-- ---------------------------------------------------------------------------

/-- What callers can do with a scope. -/
inductive Call where
  | identify (wireName : String) (style : Style)
  | clear

/-- The scope after a call. -/
def called (scope : Scope) : Call → Scope
  | .identify wireName style => (scope.identify wireName style).2
  | .clear => scope.clear

/-- The scope after several calls. -/
def callAll (scope : Scope) (calls : List Call) : Scope := calls.foldl called scope

@[simp] theorem called_policy (scope : Scope) (call : Call) :
    (scope.called call).policy = scope.policy := by
  cases call with
  | identify wireName style => exact identify_policy ..
  | clear => rfl

@[simp] theorem callAll_policy (scope : Scope) (calls : List Call) :
    (scope.callAll calls).policy = scope.policy := by
  induction calls generalizing scope with
  | nil => rfl
  | cons call rest ih => exact (ih (scope.called call)).trans (called_policy scope call)

-- ---------------------------------------------------------------------------
-- What is remembered
-- ---------------------------------------------------------------------------

/-- **Every call keeps the memory true.** A conversion is added beside those there, and clearing
the names in use leaves the memory alone. -/
theorem Faithful.called {scope : Scope} (h : scope.Faithful) (call : Call) :
    (scope.called call).Faithful := by
  cases call with
  | identify wireName style => exact h.identify wireName style
  | clear => exact h

theorem Faithful.callAll {scope : Scope} (h : scope.Faithful) (calls : List Call) :
    (scope.callAll calls).Faithful := by
  induction calls generalizing scope with
  | nil => exact h
  | cons call rest ih => exact ih (h.called call)

-- ---------------------------------------------------------------------------
-- What is handed out
-- ---------------------------------------------------------------------------

/-- **Memory makes no difference.** After any calls, in any styles and with the names in use
cleared at any time, a scope hands out the identifier that a scope without memory does in which the
same names are in use: the converted name, with the suffix if it is a forbidden word, and with the
least number that it needs. -/
theorem callAll_identify (policy : WordPolicy) (calls : List Call) {fresh : Scope}
    (hPolicy : fresh.policy = policy) (hMemory : fresh.memory = [])
    (hUsed : ∀ name, name ∈ fresh.used ↔ name ∈ (callAll { policy } calls).used)
    (wireName : String) (style : Style) :
    let scope := callAll { policy } calls
    let identifier := (scope.identify wireName style).1
    identifier = (fresh.identify wireName style).1 ∧
      identifier.wireName = wireName ∧
      identifier.escape = policy.escapeFor identifier.name ∧
      LeastUnused scope.used (policy.permitted (convert wireName style)) identifier.name ∧
      (scope.identify wireName style).2.used = identifier.name :: scope.used := by
  intro scope identifier
  have hScope : scope.Faithful := (faithful_of_memory_nil rfl).callAll calls
  have hFresh : fresh.Faithful := faithful_of_memory_nil hMemory
  have hSame : scope.policy = policy := callAll_policy ..
  have hIdentifier : identifier =
      { name := unused scope.used (policy.permitted (convert wireName style)), wireName,
        escape := policy.escapeFor
          (unused scope.used (policy.permitted (convert wireName style))) } := by
    rw [← hSame]
    exact hScope.identify_fst wireName style
  refine ⟨?_, ?_, ?_, ?_, ?_⟩
  · rw [hIdentifier, hFresh.identify_fst, hPolicy, unused_congr hUsed]
  · rw [hIdentifier]
  · rw [hIdentifier]
  · rw [hIdentifier]
    exact unused_leastUnused ..
  · rw [hIdentifier, hScope.identify_used, hSame]

/-- A policy with a word that is reserved and has no escape. -/
def typeReserved : WordPolicy := { reserved := ["type"] }

/-- A name whose conversion is remembered from before the names in use were cleared, and which is
taken when it comes again, under its own style and under others. -/
def revisits : List Call :=
  [.identify "type" .snake, .clear, .identify "type_" .original, .identify "type" .camel,
    .identify "type" .snake]

/-- The name is asked for a fourth time; the scope without memory has the names in another order. -/
theorem callAll_identify_revisited :
    let scope := callAll { policy := typeReserved } revisits
    let fresh : Scope := { policy := typeReserved, used := ["type_", "type__1", "type__2"] }
    (∀ name, name ∈ fresh.used ↔ name ∈ scope.used) ∧
    scope.memory.lookup "type_snake" = some "type" ∧
    (scope.identify "type" .snake).1 = (fresh.identify "type" .snake).1 ∧
    (scope.identify "type" .snake).1.name = "type__3" := by
  intro scope fresh
  have hScope : scope.used = ["type__2", "type__1", "type_"] := by decide +kernel
  have hUsed : ∀ name, name ∈ fresh.used ↔ name ∈ scope.used := by
    intro name
    rw [hScope]
    simp only [fresh, List.mem_cons]
    tauto
  obtain ⟨hFresh, -⟩ := callAll_identify typeReserved revisits rfl rfl hUsed "type" .snake
  exact ⟨hUsed, by decide +kernel, hFresh, by decide +kernel⟩

end Scope

end Lexicon.Naming
