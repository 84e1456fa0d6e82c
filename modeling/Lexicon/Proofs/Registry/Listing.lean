import Mathlib.Data.List.Induction
import Lexicon.Proofs.Registry.Refused

/-!
# Lexicon — the aliases that are listed

A registry lists the aliases of each language, and it finds the language that a name stands for. The
two need not agree: a language that is registered under the name of an alias takes this name away
from the language that the alias is listed for. What a listed alias stands for is settled here, and
so is which calls bring the disagreement about.

* `Proper`                   — what holds of the aliases of a registry at all times.
* `Proper.resolve_alias`     — what an alias stands for.
* `Agrees`, `Usurps`         — every listed alias stands for its language; a call that ends this.
* `Proper.called_agrees_iff` — a call ends it exactly if it is of that sort.
* `callAll_agrees`           — calls of the other sort never end it.
* `callAll_aliases_resolve`  — all this after any calls.
* `alias_usurped`            — two calls after which listing and finding disagree.
-/

namespace Lexicon

section Keys

variable {α : Type} {key : String} {value : α} {entries : List (String × α)}

theorem mem_keys_assign {k : String} :
    k ∈ (assign key value entries).map Prod.fst ↔ k = key ∨ k ∈ entries.map Prod.fst := by
  rw [← lookup_isSome_iff, ← lookup_isSome_iff, lookup_assign]
  by_cases hKey : k = key
  · simp [hKey]
  · simp [hKey]

theorem nodup_keys_assign (h : (entries.map Prod.fst).Nodup) :
    ((assign key value entries).map Prod.fst).Nodup := by
  induction entries with
  | nil => exact List.nodup_singleton key
  | cons first rest ih =>
    obtain ⟨k, v⟩ := first
    obtain ⟨hFirst, hRest⟩ := List.nodup_cons.mp h
    rw [assign]
    by_cases hKey : k = key
    · rw [if_pos hKey, ← hKey]
      exact List.nodup_cons.mpr ⟨hFirst, hRest⟩
    · rw [if_neg hKey, List.map_cons, List.nodup_cons, mem_keys_assign]
      exact ⟨not_or.mpr ⟨hKey, hFirst⟩, ih hRest⟩

end Keys

namespace Registry

-- ---------------------------------------------------------------------------
-- Entering aliases
-- ---------------------------------------------------------------------------

/-- The names that are aliases. -/
def bynames (registry : Registry) : List String := registry.aliases.map Prod.fst

section Pointing

variable {registry : Registry} {key : String} {replace : Bool} {aliases : List String}

theorem mem_bynames {k : String} :
    k ∈ registry.bynames ↔ ∃ language, (k, language) ∈ registry.aliases := by
  simp [bynames]

/-- Aliases that are entered lead to their language. None is the name of the language itself, nor,
unless names are replaced, that of another one. -/
theorem mem_pointAll {e : String × String}
    (h : e ∈ (registry.pointAll key replace aliases).2.aliases) :
    e ∈ registry.aliases ∨ e.2 = key ∧ ∃ byname ∈ aliases, e.1 = languageKey byname ∧ e.1 ≠ key ∧
      (replace = false → registry.hasLanguage e.1 = false) := by
  induction aliases generalizing registry with
  | nil => exact Or.inl h
  | cons first rest ih =>
    obtain ⟨-, hPassed⟩ | ⟨-, -, fault, -, hRefused⟩ | ⟨hOther, hFree, hEntered⟩ :=
      registry.alias_cases key replace first
    · rw [hPassed] at h
      rcases ih h with hOld | ⟨hTarget, byname, hMem, hName⟩
      · exact Or.inl hOld
      · exact Or.inr ⟨hTarget, byname, List.mem_cons_of_mem _ hMem, hName⟩
    · rw [hRefused] at h
      exact Or.inl h
    · rw [hEntered] at h
      rcases ih h with hPointed | ⟨hTarget, byname, hMem, hName⟩
      · rcases mem_assign hPointed with rfl | hOld
        · refine Or.inr ⟨rfl, first, List.mem_cons_self .., rfl, hOther, fun hKept => ?_⟩
          -- an alias that is the name of a language would have been refused
          by_contra hLanguage
          have hFault := hFree hKept
          rw [aliasFault?, if_pos (by simpa using hLanguage)] at hFault
          cases hFault
        · exact Or.inl hOld
      · exact Or.inr ⟨hTarget, byname, List.mem_cons_of_mem _ hMem, hName⟩

theorem bynames_subset_pointAll :
    registry.bynames ⊆ (registry.pointAll key replace aliases).2.bynames := by
  induction aliases generalizing registry with
  | nil => exact List.Subset.refl _
  | cons first rest ih =>
    obtain ⟨-, hPassed⟩ | ⟨-, -, fault, -, hRefused⟩ | ⟨-, -, hEntered⟩ :=
      registry.alias_cases key replace first
    · rw [hPassed]
      exact ih
    · rw [hRefused]
      exact List.Subset.refl _
    · rw [hEntered]
      refine List.Subset.trans (fun k hk => ?_) ih
      exact mem_keys_assign.mpr (Or.inr hk)

theorem nodup_bynames_pointAll (h : registry.bynames.Nodup) :
    (registry.pointAll key replace aliases).2.bynames.Nodup := by
  induction aliases generalizing registry with
  | nil => exact h
  | cons first rest ih =>
    obtain ⟨-, hPassed⟩ | ⟨-, -, fault, -, hRefused⟩ | ⟨-, -, hEntered⟩ :=
      registry.alias_cases key replace first
    · rw [hPassed]
      exact ih h
    · rw [hRefused]
      exact h
    · rw [hEntered]
      exact ih (nodup_keys_assign h)

/-- If names are replaced, every alias is entered. -/
theorem mem_bynames_pointAll_replace {byname : String} (hMem : byname ∈ aliases)
    (hOther : languageKey byname ≠ key) :
    languageKey byname ∈ (registry.pointAll key true aliases).2.bynames := by
  induction aliases generalizing registry with
  | nil => cases hMem
  | cons first rest ih =>
    obtain ⟨hOwn, hPassed⟩ | ⟨-, hKept, -⟩ | ⟨-, -, hEntered⟩ :=
      registry.alias_cases key true first
    · rw [hPassed]
      refine ih ((List.mem_cons.mp hMem).resolve_left fun hFirst => ?_)
      exact hOther (hFirst ▸ hOwn)
    · cases hKept
    · rw [hEntered]
      rcases List.mem_cons.mp hMem with rfl | hRest
      · exact bynames_subset_pointAll (mem_keys_assign.mpr (Or.inl rfl))
      · exact ih hRest

end Pointing

-- ---------------------------------------------------------------------------
-- The invariant
-- ---------------------------------------------------------------------------

/-- What holds of the aliases of a registry at all times: they lead to languages, they are entered
in the form in which names are compared, each of them once, and none leads to itself. -/
structure Proper (registry : Registry) : Prop where
  closed : registry.Closed
  keys : ∀ e ∈ registry.aliases, languageKey e.1 = e.1
  others : ∀ e ∈ registry.aliases, e.1 ≠ e.2
  once : registry.bynames.Nodup

theorem Proper.register {registry : Registry} (h : registry.Proper) (language : String)
    (kind : Option GeneratorKind) (aliases : List String) (replace : Bool) :
    (registry.register language kind aliases replace).2.Proper := by
  cases kind with
  | none => exact h
  | some kind =>
    have hClosed := h.closed.register language (some kind) aliases replace
    rw [register_some] at hClosed ⊢
    split at hClosed
    · rename_i hPassed
      rw [if_pos hPassed]
      exact h
    · rename_i hOpen
      rw [if_neg hOpen]
      refine ⟨hClosed, fun e he => ?_, fun e he => ?_, nodup_bynames_pointAll h.once⟩
      · rcases mem_pointAll he with hOld | ⟨-, byname, -, hName, -⟩
        · exact h.keys e hOld
        · rw [hName, languageKey_languageKey]
      · rcases mem_pointAll he with hOld | ⟨hTarget, -, -, -, hOther, -⟩
        · exact h.others e hOld
        · rw [hTarget]
          exact hOther

theorem Proper.unregister {registry : Registry} (h : registry.Proper) (language : String) :
    (registry.unregister language).Proper := by
  have hSublist : (registry.unregister language).aliases.Sublist registry.aliases :=
    List.filter_sublist
  refine ⟨h.closed.unregister language, fun e he => ?_, fun e he => ?_, ?_⟩
  · exact h.keys e (hSublist.subset he)
  · exact h.others e (hSublist.subset he)
  · exact h.once.sublist (hSublist.map Prod.fst)

/-- **Every call** keeps it so. -/
theorem Proper.called {registry : Registry} (h : registry.Proper) (call : Call) :
    (registry.called call).Proper := by
  cases call with
  | register language kind aliases replace => exact h.register language kind aliases replace
  | unregister language => exact h.unregister language

theorem proper_empty : Proper {} := by
  refine ⟨closed_empty, ?_, ?_, List.nodup_nil⟩
  · simp
  · simp

theorem Proper.callAll {registry : Registry} (h : registry.Proper) (calls : List Call) :
    (registry.callAll calls).Proper := by
  induction calls generalizing registry with
  | nil => exact h
  | cons call rest ih => exact ih (h.called call)

-- ---------------------------------------------------------------------------
-- Listing and finding
-- ---------------------------------------------------------------------------

/-- The aliases that are listed for a language are those that lead to it. -/
theorem mem_aliasesOf {registry : Registry} {language byname : String} :
    byname ∈ registry.aliasesOf language ↔ (byname, languageKey language) ∈ registry.aliases := by
  simp [aliasesOf, sortNames]

/-- **What an alias stands for**: itself, if it is the name of a language, and otherwise the
language that it leads to. -/
theorem Proper.resolve_alias {registry : Registry} (h : registry.Proper) {byname language : String}
    (hAlias : (byname, language) ∈ registry.aliases) :
    registry.resolve byname =
      .ok (if registry.hasLanguage byname then byname else language) := by
  have hKey : languageKey byname = byname := h.keys (byname, language) hAlias
  have hLookup : registry.aliases.lookup byname = some language := lookup_of_mem h.once hAlias
  rw [resolve, find?, hKey, hLookup]
  by_cases hLanguage : registry.hasLanguage byname = true
  · simp [hLanguage]
  · simp [hLanguage]

/-- Does every alias that is listed for a registered language stand for this language? -/
def Agrees (registry : Registry) : Prop :=
  ∀ language, registry.hasLanguage language = true →
    ∀ byname ∈ registry.aliasesOf language, registry.resolve byname = .ok language

/-- Listing and finding agree exactly if no alias is the name of a registered language. -/
theorem Proper.agrees_iff {registry : Registry} (h : registry.Proper) :
    registry.Agrees ↔ ∀ k ∈ registry.bynames, registry.hasLanguage k = false := by
  constructor
  · intro hAgrees k hk
    obtain ⟨language, hAlias⟩ := mem_bynames.mp hk
    have hLanguage : registry.hasLanguage language = true := h.closed.aliases _ hAlias
    have hListed : k ∈ registry.aliasesOf language :=
      mem_aliasesOf.mpr (by rwa [h.closed.keys language hLanguage])
    have hFound := hAgrees language hLanguage k hListed
    rw [h.resolve_alias hAlias, Except.ok.injEq] at hFound
    by_contra hOwn
    rw [if_pos (by simpa using hOwn)] at hFound
    exact h.others _ hAlias hFound
  · intro hFree language hLanguage byname hListed
    rw [mem_aliasesOf, h.closed.keys language hLanguage] at hListed
    have hOwn := hFree byname (mem_bynames.mpr ⟨language, hListed⟩)
    rw [h.resolve_alias hListed, hOwn]
    rfl

-- ---------------------------------------------------------------------------
-- Calls that end the agreement
-- ---------------------------------------------------------------------------

/-- Does the call take a name away from the language that it stands for? It registers a language
under the name of an alias or, replacing names, points an alias that is the name of another
language. -/
def Usurps (registry : Registry) : Call → Prop
  | .register language kind aliases replace =>
    kind.isSome = true ∧
      ¬ (registry.hasLanguage (languageKey language) = true ∧ replace = false) ∧
      (languageKey language ∈ registry.bynames ∨
        replace = true ∧ ∃ byname ∈ aliases, languageKey byname ≠ languageKey language ∧
          registry.hasLanguage (languageKey byname) = true)
  | .unregister _ => False

theorem hasLanguage_entered (registry : Registry) (key : String) (kind : GeneratorKind)
    (k : String) :
    (registry.entered key kind).hasLanguage k = true ↔ k = key ∨ registry.hasLanguage k = true :=
  hasLanguage_assign registry key kind k

theorem hasLanguage_pointAll (registry : Registry) (key : String) (replace : Bool)
    (aliases : List String) (k : String) :
    (registry.pointAll key replace aliases).2.hasLanguage k = registry.hasLanguage k := by
  rw [hasLanguage, (pointAll_spec registry key replace aliases).1, hasLanguage]

/-- **Which calls end the agreement** of listing and finding: those that take a name away. It does
not matter whether they are refused. -/
theorem Proper.called_agrees_iff {registry : Registry} (h : registry.Proper)
    (hAgrees : registry.Agrees) (call : Call) :
    (registry.called call).Agrees ↔ ¬ registry.Usurps call := by
  rw [(h.called call).agrees_iff]
  rw [h.agrees_iff] at hAgrees
  cases call with
  | unregister language =>
    refine iff_of_true (fun k hk => ?_) id
    obtain ⟨target, hAlias⟩ := mem_bynames.mp hk
    have hOld := hAgrees k (mem_bynames.mpr ⟨target, (List.mem_filter.mp hAlias).1⟩)
    show (registry.unregister language).hasLanguage k = false
    by_contra hOwn
    have hLeft := (hasLanguage_unregister registry language k).mp (by simpa using hOwn)
    simp [hOld] at hLeft
  | register language kind aliases replace =>
    cases kind with
    | none => exact iff_of_true hAgrees fun hUsurps => by simpa using hUsurps.1
    | some kind =>
      rw [Registry.called, register_some]
      by_cases hPassed : (registry.hasLanguage (languageKey language) && !replace) = true
      · rw [if_pos hPassed]
        refine iff_of_true hAgrees fun hUsurps => hUsurps.2.1 ?_
        simpa using hPassed
      · rw [if_neg hPassed]
        have hOpen : ¬ (registry.hasLanguage (languageKey language) = true ∧ replace = false) := by
          simpa using hPassed
        constructor
        · rintro hFree ⟨-, -, hOwn | ⟨rfl, byname, hMem, hOther, hLanguage⟩⟩
          · -- the language has the name of an alias
            have hTaken := hFree _ (bynames_subset_pointAll hOwn)
            rw [hasLanguage_pointAll] at hTaken
            exact Bool.false_ne_true
              (hTaken.symm.trans ((hasLanguage_entered ..).mpr (Or.inl rfl)))
          · -- an alias has the name of a language
            have hTaken := hFree _ (mem_bynames_pointAll_replace hMem hOther)
            rw [hasLanguage_pointAll] at hTaken
            exact Bool.false_ne_true
              (hTaken.symm.trans ((hasLanguage_entered ..).mpr (Or.inr hLanguage)))
        · intro hNot k hk
          rw [hasLanguage_pointAll]
          by_contra hTaken
          have hLanguage : k = languageKey language ∨ registry.hasLanguage k = true :=
            (hasLanguage_entered ..).mp (by simpa using hTaken)
          obtain ⟨target, hAlias⟩ := mem_bynames.mp hk
          rcases mem_pointAll hAlias with hOld | ⟨-, byname, hMem, rfl, hOther, hKept⟩
          · have hByname : k ∈ registry.bynames := mem_bynames.mpr ⟨target, hOld⟩
            rcases hLanguage with rfl | hLanguage
            · exact hNot ⟨rfl, hOpen, Or.inl hByname⟩
            · simp [hAgrees k hByname] at hLanguage
          · cases replace with
            | false => exact hTaken (hKept rfl)
            | true =>
              have hKnown := hLanguage.resolve_left hOther
              exact hNot ⟨rfl, hOpen, Or.inr ⟨rfl, byname, hMem, hOther, hKnown⟩⟩

theorem callAll_concat (registry : Registry) (calls : List Call) (call : Call) :
    registry.callAll (calls ++ [call]) = (registry.callAll calls).called call := List.foldl_append

/-- As long as no call takes a name away, every listed alias stands for its language. -/
theorem callAll_agrees {calls : List Call}
    (h : ∀ earlier call later, calls = earlier ++ call :: later →
      ¬ (callAll {} earlier).Usurps call) : (callAll {} calls).Agrees := by
  induction calls using List.reverseRecOn with
  | nil => simp [Agrees, callAll, hasLanguage]
  | append_singleton earlier call ih =>
    have hEarlier : (callAll {} earlier).Agrees := by
      refine ih fun first other later hCalls => h first other (later ++ [call]) ?_
      rw [hCalls, List.append_assoc, List.cons_append]
    have hProper : (callAll {} earlier).Proper := proper_empty.callAll earlier
    rw [callAll_concat]
    exact (hProper.called_agrees_iff hEarlier call).mpr (h earlier call [] rfl)

/-- **The aliases that are listed.** After any calls, an alias that is listed for a language stands
for this language unless it is the name of a registered language itself, and then it stands for that
one, which is another. So all listed aliases stand for their languages exactly if none of them is
the name of a language, and a call ends this exactly if it takes a name away. -/
theorem callAll_aliases_resolve (calls : List Call) :
    (∀ language, (callAll {} calls).hasLanguage language = true →
      ∀ byname ∈ (callAll {} calls).aliasesOf language, byname ≠ language ∧
        (callAll {} calls).resolve byname =
          .ok (if (callAll {} calls).hasLanguage byname then byname else language)) ∧
      ((callAll {} calls).Agrees ↔
        ∀ k ∈ (callAll {} calls).bynames, (callAll {} calls).hasLanguage k = false) ∧
      ∀ call, (callAll {} calls).Agrees →
        ((callAll {} (calls ++ [call])).Agrees ↔ ¬ (callAll {} calls).Usurps call) := by
  have hProper : (callAll {} calls).Proper := proper_empty.callAll calls
  refine ⟨fun language hLanguage byname hListed => ?_, hProper.agrees_iff, fun call hAgrees => ?_⟩
  · rw [mem_aliasesOf, hProper.closed.keys language hLanguage] at hListed
    exact ⟨hProper.others _ hListed, hProper.resolve_alias hListed⟩
  · rw [callAll_concat]
    exact hProper.called_agrees_iff hAgrees call

/-- A language with an alias, and a second one that is registered under the name of this alias. -/
def rivals : List Call :=
  [.register "Rust" (some .rust) ["RS"] false, .register "rs" (some .rust) [] false]

theorem callAll_aliases_resolve_rivals :
    (callAll {} rivals).hasLanguage "rust" = true ∧
    "rs" ∈ (callAll {} rivals).aliasesOf "rust" ∧
    (callAll {} rivals).resolve "rs" =
      .ok (if (callAll {} rivals).hasLanguage "rs" then "rs" else "rust") ∧
    (callAll {} rivals.dropLast).Agrees ∧
    ((callAll {} rivals).Agrees ↔
      ¬ (callAll {} rivals.dropLast).Usurps (.register "rs" (some .rust) [] false)) := by
  have hLanguage : (callAll {} rivals).hasLanguage "rust" = true := by decide +kernel
  have hListed : "rs" ∈ (callAll {} rivals).aliasesOf "rust" := by decide +kernel
  obtain ⟨hFound, -, -⟩ := callAll_aliases_resolve rivals
  obtain ⟨-, hFree, hStep⟩ := callAll_aliases_resolve rivals.dropLast
  have hAgrees : (callAll {} rivals.dropLast).Agrees := hFree.mpr (by decide +kernel)
  exact ⟨hLanguage, hListed, (hFound "rust" hLanguage "rs" hListed).2, hAgrees, hStep _ hAgrees⟩

/-- **An alias that is taken away.** No call is refused, the alias is listed for its language, and
it stands for the other one. -/
theorem alias_usurped :
    (callAll {} rivals).hasLanguage "rust" = true ∧
    (callAll {} rivals).aliasesOf "rust" = ["rs"] ∧
    (callAll {} rivals).hasLanguage "rs" = true ∧
    (callAll {} rivals).resolve "rs" = .ok "rs" := by
  have hRegistry : callAll {} rivals =
      { kinds := [("rust", .rust), ("rs", .rust)], aliases := [("rs", "rust")] } := by
    decide +kernel
  rw [hRegistry]
  exact ⟨by decide +kernel, by decide +kernel, by decide +kernel, by rfl⟩

end Registry

end Lexicon
