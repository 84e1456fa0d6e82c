import Lexicon.Registry
import Lexicon.Proofs.Lookup
import Lexicon.Proofs.Text.Case

/-!
# Lexicon — the states of a registry

A registry holds two tables, which are entered one after the other, and a call may stop between
them. Still they fit together at all times: an alias leads to a language that is registered, and
a language is registered under the form in which names are compared.

* `Call`, `callAll`       — what can be done to a registry, and the registry after that.
* `alias_cases`           — passed over, refused or entered: what becomes of an alias.
* `Closed`                — how the tables fit together.
* `Closed.register`, `Closed.unregister` — every call keeps it so, also if it is refused.
* `Closed.resolve`        — a name that is supported stands for a registered language.
* `callAll_aliases_registered` — this holds after any calls.
-/

namespace Lexicon

/-- Names are compared in a form that is its own form. -/
theorem languageKey_languageKey (name : String) :
    languageKey (languageKey name) = languageKey name := by
  rw [languageKey, languageKey, String.toList_ofList, Text.lower_lower]

-- ---------------------------------------------------------------------------
-- Tables
-- ---------------------------------------------------------------------------

section Tables

variable {α : Type} {key : String} {value : α} {entries : List (String × α)}

theorem mem_assign {e : String × α} (h : e ∈ assign key value entries) :
    e = (key, value) ∨ e ∈ entries := by
  induction entries with
  | nil => exact Or.inl (List.mem_singleton.mp h)
  | cons first rest ih =>
    obtain ⟨k, v⟩ := first
    rw [assign] at h
    split at h
    · exact (List.mem_cons.mp h).imp_right (List.mem_cons_of_mem _)
    · rcases List.mem_cons.mp h with rfl | hRest
      · exact Or.inr (List.mem_cons_self ..)
      · exact (ih hRest).imp_right (List.mem_cons_of_mem _)

theorem lookup_assign (k : String) :
    (assign key value entries).lookup k = if k = key then some value else entries.lookup k := by
  induction entries with
  | nil => rw [assign, lookup_cons_if]
  | cons first rest ih =>
    obtain ⟨k', v⟩ := first
    rw [assign]
    split
    · rename_i hSame
      subst hSame
      rw [lookup_cons_if, lookup_cons_if]
      split <;> rfl
    · rename_i hOther
      rw [lookup_cons_if, lookup_cons_if, ih]
      split
      · rename_i hFirst
        rw [hFirst, if_neg hOther]
      · rfl

end Tables

namespace Registry

-- ---------------------------------------------------------------------------
-- Calls
-- ---------------------------------------------------------------------------

/-- What can be done to a registry. -/
inductive Call where
  | register (language : String) (kind : Option GeneratorKind) (aliases : List String)
      (replace : Bool)
  | unregister (language : String)

/-- The registry after a call, also if the call was refused. -/
def called (registry : Registry) : Call → Registry
  | .register language kind aliases replace =>
    (registry.register language kind aliases replace).2
  | .unregister language => registry.unregister language

/-- The registry after several calls. -/
def callAll (registry : Registry) (calls : List Call) : Registry := calls.foldl called registry

-- ---------------------------------------------------------------------------
-- The invariant
-- ---------------------------------------------------------------------------

/-- How the tables of a registry fit together. -/
structure Closed (registry : Registry) : Prop where
  keys : ∀ language, registry.hasLanguage language = true → languageKey language = language
  aliases : ∀ e ∈ registry.aliases, registry.hasLanguage e.2 = true

/-- **What becomes of the first alias**, whatever the others are: it is passed over as the name of
the language itself, or it is refused, which ends the matter, or it is entered. -/
theorem alias_cases (registry : Registry) (key : String) (replace : Bool) (first : String) :
    (languageKey first = key ∧ ∀ rest, registry.pointAll key replace (first :: rest) =
      registry.pointAll key replace rest) ∨
    (languageKey first ≠ key ∧ replace = false ∧ ∃ fault,
      registry.aliasFault? key first = some fault ∧
      ∀ rest, registry.pointAll key replace (first :: rest) = (some fault, registry)) ∨
    (languageKey first ≠ key ∧ (replace = false → registry.aliasFault? key first = none) ∧
      ∀ rest, registry.pointAll key replace (first :: rest) =
        (registry.point key first).pointAll key replace rest) := by
  by_cases hOwn : languageKey first = key
  · exact .inl ⟨hOwn, fun rest => by rw [pointAll, if_pos hOwn]⟩
  · cases replace with
    | true =>
      refine .inr (.inr ⟨hOwn, fun hKept => absurd hKept (by decide), fun rest => ?_⟩)
      rw [pointAll, if_neg hOwn, if_pos rfl]
    | false =>
      cases hTest : registry.aliasFault? key first with
      | some fault =>
        refine .inr (.inl ⟨hOwn, rfl, fault, rfl, fun rest => ?_⟩)
        rw [pointAll, if_neg hOwn, if_neg Bool.false_ne_true, hTest]
      | none =>
        refine .inr (.inr ⟨hOwn, fun _ => rfl, fun rest => ?_⟩)
        rw [pointAll, if_neg hOwn, if_neg Bool.false_ne_true, hTest]

/-- Entering aliases of a language leaves the languages alone, and adds nothing but aliases
of this one. -/
theorem pointAll_spec (registry : Registry) (key : String) (replace : Bool)
    (aliases : List String) :
    (registry.pointAll key replace aliases).2.kinds = registry.kinds ∧
      ∀ e ∈ (registry.pointAll key replace aliases).2.aliases,
        e.2 = key ∨ e ∈ registry.aliases := by
  induction aliases generalizing registry with
  | nil => exact ⟨rfl, fun _ he => Or.inr he⟩
  | cons byname rest ih =>
    obtain ⟨-, hPassed⟩ | ⟨-, -, fault, -, hRefused⟩ | ⟨-, -, hEntered⟩ :=
      registry.alias_cases key replace byname
    · rw [hPassed]
      exact ih registry
    · rw [hRefused]
      exact ⟨rfl, fun _ he => Or.inr he⟩
    · rw [hEntered]
      obtain ⟨hKinds, hAliases⟩ := ih (registry.point key byname)
      refine ⟨hKinds, fun e he => ?_⟩
      rcases hAliases e he with hKey | hPointed
      · exact Or.inl hKey
      · rcases mem_assign hPointed with rfl | hOld
        · exact Or.inl rfl
        · exact Or.inr hOld

theorem hasLanguage_assign (registry : Registry) (key : String) (kind : GeneratorKind)
    (k : String) :
    { registry with kinds := assign key kind registry.kinds }.hasLanguage k = true ↔
      k = key ∨ registry.hasLanguage k = true := by
  rw [hasLanguage, hasLanguage, lookup_assign]
  by_cases hKey : k = key
  · simp [hKey]
  · simp [hKey]

theorem hasLanguage_unregister (registry : Registry) (language k : String) :
    (registry.unregister language).hasLanguage k = true ↔
      k ≠ languageKey language ∧ registry.hasLanguage k = true := by
  rw [hasLanguage, hasLanguage, unregister, lookup_filter (· != languageKey language)]
  by_cases hKey : k = languageKey language
  · simp [hKey]
  · simp [hKey]

/-- A registered language is entered before its aliases, so the tables fit together wherever
the aliases stop. -/
theorem Closed.register {registry : Registry} (h : registry.Closed) (language : String)
    (kind : Option GeneratorKind) (aliases : List String) (replace : Bool) :
    (registry.register language kind aliases replace).2.Closed := by
  unfold Registry.register
  split
  · exact h
  · rename_i kind
    dsimp only
    split
    · exact h
    · generalize hEntered : ({ registry with
        kinds := assign (languageKey language) kind registry.kinds } : Registry) = entered
      have hLanguages : ∀ k, entered.hasLanguage k = true ↔
          k = languageKey language ∨ registry.hasLanguage k = true := by
        rw [← hEntered]
        exact hasLanguage_assign registry (languageKey language) kind
      have hOld : entered.aliases = registry.aliases := by rw [← hEntered]
      obtain ⟨hKinds, hAliases⟩ := pointAll_spec entered (languageKey language) replace aliases
      have hSame : ∀ k, (entered.pointAll (languageKey language) replace aliases).2.hasLanguage k =
          entered.hasLanguage k := by
        intro k
        rw [hasLanguage, hKinds, hasLanguage]
      refine ⟨fun k hk => ?_, fun e he => ?_⟩
      · rw [hSame, hLanguages] at hk
        rcases hk with rfl | hk
        · exact languageKey_languageKey language
        · exact h.keys k hk
      · rw [hSame, hLanguages]
        refine (hAliases e he).imp_right fun hBefore => ?_
        exact h.aliases e (hOld ▸ hBefore)

/-- A language goes together with the aliases that lead to it. -/
theorem Closed.unregister {registry : Registry} (h : registry.Closed) (language : String) :
    (registry.unregister language).Closed := by
  refine ⟨fun k hk => ?_, fun e he => ?_⟩
  · exact h.keys k ((hasLanguage_unregister registry language k).mp hk).2
  · obtain ⟨hOld, hOther⟩ := List.mem_filter.mp he
    rw [hasLanguage_unregister]
    exact ⟨bne_iff_ne.mp hOther, h.aliases e hOld⟩

/-- **Every call** keeps the tables fitting together. -/
theorem Closed.called {registry : Registry} (h : registry.Closed) (call : Call) :
    (registry.called call).Closed := by
  cases call with
  | register language kind aliases replace => exact h.register language kind aliases replace
  | unregister language => exact h.unregister language

theorem closed_empty : Closed {} := by
  constructor
  · intro language h
    cases h
  · intro e he
    cases he

theorem Closed.callAll {registry : Registry} (h : registry.Closed) (calls : List Call) :
    (registry.callAll calls).Closed := by
  induction calls generalizing registry with
  | nil => exact h
  | cons call rest ih => exact ih (h.called call)

-- ---------------------------------------------------------------------------
-- Finding
-- ---------------------------------------------------------------------------

/-- A name that is supported stands for a registered language. -/
theorem Closed.resolve {registry : Registry} (h : registry.Closed) {name : String}
    (hName : registry.supports name = true) :
    ∃ language, registry.resolve name = .ok language ∧ registry.hasLanguage language = true := by
  rw [supports, Bool.or_eq_true] at hName
  rw [Registry.resolve, find?]
  split
  · rename_i language hFound
    refine ⟨language, rfl, ?_⟩
    split at hFound
    · rename_i hOwn
      cases hFound
      exact hOwn
    · obtain ⟨before, after, hAliases, -⟩ := List.lookup_eq_some_iff.mp hFound
      refine h.aliases (languageKey name, language) ?_
      rw [hAliases]
      exact List.mem_append_right _ (List.mem_cons_self ..)
  · rename_i hNone
    split at hNone
    · cases hNone
    · rename_i hOther
      rw [hNone] at hName
      exact absurd (hName.resolve_right Bool.false_ne_true) hOther

/-- A registered language stands for itself. -/
theorem Closed.resolve_language {registry : Registry} (h : registry.Closed) {language : String}
    (hLanguage : registry.hasLanguage language = true) :
    registry.resolve language = .ok language := by
  rw [Registry.resolve, find?, h.keys language hLanguage, if_pos hLanguage]

/-- The kind of generator that a name stands for is the one registered for its language. -/
theorem kindOf_of_resolve {registry : Registry} {name language : String}
    (h : registry.resolve name = .ok language) (hLanguage : registry.hasLanguage language = true) :
    ∃ kind, registry.kinds.lookup language = some kind ∧ registry.kindOf name = .ok kind := by
  obtain ⟨kind, hKind⟩ := Option.isSome_iff_exists.mp hLanguage
  refine ⟨kind, hKind, ?_⟩
  simp only [kindOf, h, bind, Except.bind, hKind]
  rfl

/-- **No alias leads nowhere.** Whatever was registered and removed, with calls that were
refused among it, every alias leads to a registered language. A name that is supported therefore
stands for a language with a kind of generator, and this language stands for itself. -/
theorem callAll_aliases_registered (calls : List Call) :
    (∀ e ∈ (callAll {} calls).aliases, (callAll {} calls).hasLanguage e.2 = true) ∧
      ∀ name, (callAll {} calls).supports name = true →
        ∃ language kind, (callAll {} calls).resolve name = .ok language ∧
          (callAll {} calls).kinds.lookup language = some kind ∧
          (callAll {} calls).kindOf name = .ok kind ∧
          (callAll {} calls).resolve language = .ok language := by
  have hClosed : (callAll {} calls).Closed := closed_empty.callAll calls
  refine ⟨hClosed.aliases, fun name hName => ?_⟩
  obtain ⟨language, hResolve, hLanguage⟩ := hClosed.resolve hName
  obtain ⟨kind, hKind, hKindOf⟩ := kindOf_of_resolve hResolve hLanguage
  exact ⟨language, kind, hResolve, hKind, hKindOf, hClosed.resolve_language hLanguage⟩

/-- Calls of all sorts: a language whose last alias is refused, one that takes the alias of
another, one that is no generator, and one that is removed. -/
def contested : List Call :=
  [.register "Rust" (some .rust) ["RS", "r"] false,
   .register "ada" (some .rust) ["a", "rs"] false,
   .register "C" (some .rust) ["rust", "R"] true,
   .register "text" none ["t"] true,
   .unregister "ADA"]

theorem callAll_aliases_registered_contested :
    ("r", "c") ∈ (callAll {} contested).aliases ∧
    (callAll {} contested).hasLanguage "c" = true ∧
    (callAll {} contested).supports "RS" = true ∧
    ∃ language kind, (callAll {} contested).resolve "RS" = .ok language ∧
      (callAll {} contested).kinds.lookup language = some kind ∧
      (callAll {} contested).kindOf "RS" = .ok kind ∧
      (callAll {} contested).resolve language = .ok language := by
  have hAlias : ("r", "c") ∈ (callAll {} contested).aliases := by decide +kernel
  have hSupports : (callAll {} contested).supports "RS" = true := by decide +kernel
  obtain ⟨hAliases, hNames⟩ := callAll_aliases_registered contested
  exact ⟨hAlias, hAliases _ hAlias, hSupports, hNames "RS" hSupports⟩

end Registry

end Lexicon
