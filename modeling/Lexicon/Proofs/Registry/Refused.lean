import Lexicon.Proofs.Registry.Reachable

/-!
# Lexicon — calls that a registry refuses

A language is entered first and its aliases after it, one by one, until one of them is refused.
A refused call is not undone: what it did is what it would have done with the aliases before the
one that is refused. Only a call that brings no generator is refused before anything is entered.

* `pointAll_refused`    — where the aliases of a language stop, those before have been entered.
* `register_refused`    — what a refused call leaves behind, and when that is nothing.
* `refused_but_entered` — a refused call after which its language is registered.
-/

namespace Lexicon

/-- A key that a table lacks goes last. -/
theorem assign_of_lookup_eq_none {α : Type} {key : String} {value : α}
    {entries : List (String × α)} (h : entries.lookup key = none) :
    assign key value entries = entries ++ [(key, value)] := by
  induction entries with
  | nil => rfl
  | cons first rest ih =>
    obtain ⟨k, v⟩ := first
    rw [lookup_cons_if] at h
    by_cases hKey : key = k
    · simp [hKey] at h
    · rw [if_neg hKey] at h
      have hOther : ¬ k = key := fun hSame => hKey hSame.symm
      rw [assign, if_neg hOther, ih h, List.cons_append]

namespace Registry

-- ---------------------------------------------------------------------------
-- Aliases
-- ---------------------------------------------------------------------------

/-- Aliases are entered up to the first one that cannot be, which is refused for what has been
entered by then. Nothing is refused if names are replaced. -/
theorem pointAll_refused {registry after : Registry} {key : String} {replace : Bool}
    {aliases : List String} {fault : RegistryFault}
    (h : registry.pointAll key replace aliases = (some fault, after)) :
    replace = false ∧ ∃ earlier byname later, aliases = earlier ++ byname :: later ∧
      registry.pointAll key replace earlier = (none, after) ∧
      languageKey byname ≠ key ∧ after.aliasFault? key byname = some fault := by
  induction aliases generalizing registry with
  | nil => simp [pointAll] at h
  | cons first rest ih =>
    obtain ⟨-, hPassed⟩ | ⟨hOther, hKept, found, hFound, hRefused⟩ | ⟨-, -, hEntered⟩ :=
      registry.alias_cases key replace first
    · rw [hPassed] at h
      obtain ⟨hKept, earlier, byname, later, rfl, hEarlier, hLast⟩ := ih h
      exact ⟨hKept, first :: earlier, byname, later, rfl, by rw [hPassed, hEarlier], hLast⟩
    · rw [hRefused] at h
      obtain ⟨rfl, rfl⟩ : found = fault ∧ registry = after := by simpa using h
      exact ⟨hKept, [], first, rest, rfl, rfl, hOther, hFound⟩
    · rw [hEntered] at h
      obtain ⟨hKept, earlier, byname, later, rfl, hEarlier, hLast⟩ := ih h
      exact ⟨hKept, first :: earlier, byname, later, rfl, by rw [hEntered, hEarlier], hLast⟩

-- ---------------------------------------------------------------------------
-- Calls
-- ---------------------------------------------------------------------------

/-- The registry in which a language has been entered, and none of its aliases yet. -/
def entered (registry : Registry) (key : String) (kind : GeneratorKind) : Registry :=
  { registry with kinds := assign key kind registry.kinds }

/-- A language that is registered already is passed over, unless names are replaced. Otherwise it
is entered, and its aliases after it. -/
theorem register_some (registry : Registry) (language : String) (kind : GeneratorKind)
    (aliases : List String) (replace : Bool) :
    registry.register language (some kind) aliases replace =
      if registry.hasLanguage (languageKey language) && !replace then (none, registry)
      else (registry.entered (languageKey language) kind).pointAll (languageKey language) replace
        aliases := rfl

/-- **What a refused call leaves behind.** The registry is as it was exactly if no generator was
given. Otherwise names are not replaced, the language was not registered before, and it is now,
behind all others. The aliases before the one that is refused have been entered too: the call
leaves what it would leave if it named no more than these, and then it would not be refused. -/
theorem register_refused {registry after : Registry} {language : String}
    {kind : Option GeneratorKind} {aliases : List String} {replace : Bool} {fault : RegistryFault}
    (h : registry.register language kind aliases replace = (some fault, after)) :
    (after = registry ↔ kind = none) ∧
      ∀ given, kind = some given →
        replace = false ∧ registry.hasLanguage (languageKey language) = false ∧
        after.kinds = registry.kinds ++ [(languageKey language, given)] ∧
        ∃ earlier byname later, aliases = earlier ++ byname :: later ∧
          registry.register language kind earlier replace = (none, after) ∧
          after.aliasFault? (languageKey language) byname = some fault := by
  cases kind with
  | none =>
    obtain ⟨-, rfl⟩ := Prod.mk.inj h
    exact ⟨iff_of_true rfl rfl, by simp⟩
  | some given =>
    rw [register_some] at h
    -- a call for a registered language is passed over, and not refused
    have hOpen : ¬ (registry.hasLanguage (languageKey language) && !replace) = true := by
      intro hPassed
      simp [hPassed] at h
    rw [if_neg hOpen] at h
    obtain ⟨rfl, earlier, byname, later, hAliases, hEarlier, -, hFault⟩ := pointAll_refused h
    have hNew : registry.hasLanguage (languageKey language) = false := by
      simpa using hOpen
    have hAbsent : registry.kinds.lookup (languageKey language) = none := by
      simpa [hasLanguage] using hNew
    have hKinds : after.kinds = registry.kinds ++ [(languageKey language, given)] := by
      have hSpec := (pointAll_spec (registry.entered (languageKey language) given)
        (languageKey language) false aliases).1
      rw [h] at hSpec
      rw [hSpec, entered, assign_of_lookup_eq_none hAbsent]
    have hChanged : after ≠ registry := by
      intro hSame
      have hLength := congrArg List.length hKinds
      simp [hSame] at hLength
    refine ⟨iff_of_false hChanged (by simp), fun other hOther => ?_⟩
    obtain rfl : given = other := Option.some.inj hOther
    refine ⟨rfl, hNew, hKinds, earlier, byname, later, hAliases, ?_, hFault⟩
    rw [register_some, if_neg hOpen, hEarlier]

/-- A registry that one language has been entered in, with one alias. -/
def single : Registry := callAll {} [.register "rust" (some .rust) ["rs"] false]

/-- The same registry after a call for another language that was refused at its second alias. -/
def halfway : Registry :=
  { kinds := [("rust", .rust), ("ada", .rust)], aliases := [("rs", "rust"), ("a", "ada")] }

theorem register_refused_ada :
    single.register "ada" (some .rust) ["a", "rust", "a95"] false =
      (some (.aliasIsLanguage "rust"), halfway) ∧
    (halfway = single ↔ some GeneratorKind.rust = none) ∧
    single.hasLanguage (languageKey "ada") = false ∧
    halfway.kinds = single.kinds ++ [(languageKey "ada", .rust)] ∧
    ∃ earlier byname later, ["a", "rust", "a95"] = earlier ++ byname :: later ∧
      single.register "ada" (some .rust) earlier false = (none, halfway) ∧
      halfway.aliasFault? (languageKey "ada") byname = some (.aliasIsLanguage "rust") := by
  have hRefused : single.register "ada" (some .rust) ["a", "rust", "a95"] false =
      (some (.aliasIsLanguage "rust"), halfway) := by decide +kernel
  obtain ⟨hSame, hLeft⟩ := register_refused hRefused
  obtain ⟨-, hNew, hKinds, hEarlier⟩ := hLeft .rust rfl
  exact ⟨hRefused, hSame, hNew, hKinds, hEarlier⟩

/-- **Refused, but entered.** The second alias is the name of a language, so the call is refused.
From then on its language is registered, with its first alias. Calling again without the alias that
is refused does not help: a language that is registered is passed over. -/
theorem refused_but_entered :
    single.register "ada" (some .rust) ["a", "rust", "a95"] false =
      (some (.aliasIsLanguage "rust"), halfway) ∧
    single.supports "ada" = false ∧ halfway.hasLanguage "ada" = true ∧
    single.supports "a" = false ∧ halfway.supports "a" = true ∧
    halfway.register "ada" (some .rust) ["a", "a95"] false = (none, halfway) := by
  decide +kernel

end Registry

end Lexicon
