import Mathlib.Data.List.Nodup
import Mathlib.Data.List.Perm.Subperm
import Lexicon.Naming.Identifier

/-!
# Lexicon — how identifiers are handed out

A name that is taken is tried again with the numbers 1, 2, 3 and so on, for as long as it
takes. `Settles` is this search without a bound. It ends for all taken names, and `unused`,
which looks at finitely many numbers only, returns what it ends with.

* `numbered_inj`          — different numbers make different names.
* `unused_settles`        — the search ends, and `unused` is its result.
* `Scope.Faithful`        — what is remembered is what a conversion yields;
                            `Scope.Faithful.converted` says that memory changes no name.
* `HandsOut`              — the identifiers of several wire names, each settled beside those
                            before it.
* `identifyAll_handsOut`  — a scope hands out identifiers this way.
* `identifyAll_eq`        — scopes with the same names in use hand out the same identifiers.
* `HandsOut.names_nodup`  — no name is handed out twice.
-/

namespace Lexicon.Naming

-- ---------------------------------------------------------------------------
-- Numbers
-- ---------------------------------------------------------------------------

theorem numbered_inj (name : String) {m n : Nat} (h : numbered name m = numbered name n) :
    m = n := by
  have hDigits : toString m = toString n := (String.append_right_inj _).mp h
  -- the number can be read off its digits
  calc m = Nat.ofDigitChars 10 (toString m).toList 0 := by
        rw [Nat.toString_eq_ofList_toDigits, String.toList_ofList, Nat.ofDigitChars_ten_toDigits]
    _ = Nat.ofDigitChars 10 (toString n).toList 0 := by rw [hDigits]
    _ = n := by
        rw [Nat.toString_eq_ofList_toDigits, String.toList_ofList, Nat.ofDigitChars_ten_toDigits]

/-- Among the first numbers, one more of them than there are taken names, one is free. -/
theorem exists_free_number (used : List String) (name : String) :
    ∃ k, k ≤ used.length ∧ numbered name (1 + k) ∉ used := by
  by_contra hTaken
  push Not at hTaken
  -- otherwise the numbered names would be more than the taken ones
  have hNodup : ((List.range (used.length + 1)).map fun k => numbered name (1 + k)).Nodup := by
    refine List.Nodup.map ?_ List.nodup_range
    intro i j h
    have := numbered_inj name h
    omega
  have hSubset : ((List.range (used.length + 1)).map fun k => numbered name (1 + k)) ⊆ used := by
    intro n hn
    obtain ⟨k, hk, rfl⟩ := List.mem_map.mp hn
    rw [List.mem_range] at hk
    exact hTaken k (by omega)
  have hLength := (hNodup.subperm hSubset).length_le
  rw [List.length_map, List.length_range] at hLength
  omega

-- ---------------------------------------------------------------------------
-- The search
-- ---------------------------------------------------------------------------

/-- `Settles used name n candidate result`: if `candidate` is free, it is the result; else
`name` is tried with the number `n`, and with the numbers after it. -/
inductive Settles (used : List String) (name : String) : Nat → String → String → Prop
  | free {n : Nat} {candidate : String} (hFree : candidate ∉ used) :
      Settles used name n candidate candidate
  | next {n : Nat} {candidate result : String} (hTaken : candidate ∈ used)
      (hNext : Settles used name (n + 1) (numbered name n) result) :
      Settles used name n candidate result

theorem Settles.not_mem {used : List String} {name candidate result : String} {n : Nat}
    (h : Settles used name n candidate result) : result ∉ used := by
  induction h with
  | free hFree => exact hFree
  | next _ _ ih => exact ih

/-- The search for a free name has one result. -/
theorem Settles.unique {used : List String} {name candidate result result' : String} {n : Nat}
    (h : Settles used name n candidate result) (h' : Settles used name n candidate result') :
    result = result' := by
  induction h with
  | free hFree =>
    cases h' with
    | free => rfl
    | next hTaken => exact absurd hTaken hFree
  | next hTaken _ ih =>
    cases h' with
    | free hFree => exact absurd hTaken hFree
    | next _ hNext => exact ih hNext

/-- The result is the candidate, or it has a number. -/
theorem Settles.eq_or_numbered {used : List String} {name candidate result : String} {n : Nat}
    (h : Settles used name n candidate result) :
    result = candidate ∨ ∃ k, result = numbered name k := by
  induction h with
  | free => exact Or.inl rfl
  | next _ _ ih => exact Or.inr (ih.elim (fun h => ⟨_, h⟩) id)

/-- The search from a number on, if a free one comes within reach. -/
theorem firstUnused_settles {used : List String} {name : String} {n count : Nat}
    (h : ∃ k, k ≤ count ∧ numbered name (n + k) ∉ used) :
    Settles used name (n + 1) (numbered name n) (firstUnused used name n count) := by
  induction count generalizing n with
  | zero =>
    obtain ⟨k, hk, hFree⟩ := h
    obtain rfl : k = 0 := by omega
    exact .free hFree
  | succ count ih =>
    rw [firstUnused]
    by_cases hTaken : used.contains (numbered name n) = true
    · rw [if_pos hTaken]
      rw [List.contains_iff_mem] at hTaken
      obtain ⟨k, hk, hFree⟩ := h
      cases k with
      | zero => exact absurd hTaken hFree
      | succ k =>
        have hReach : numbered name (n + 1 + k) ∉ used := by
          rwa [Nat.add_assoc, Nat.add_comm 1 k]
        exact .next hTaken (ih ⟨k, by omega, hReach⟩)
    · rw [if_neg hTaken]
      rw [List.contains_iff_mem] at hTaken
      exact .free hTaken

/-- **The search ends.** Whatever is taken, it ends with the name that `unused` returns. -/
theorem unused_settles (used : List String) (name : String) :
    Settles used name 1 name (unused used name) := by
  rw [unused]
  by_cases hTaken : used.contains name = true
  · rw [if_pos hTaken]
    rw [List.contains_iff_mem] at hTaken
    exact .next hTaken (firstUnused_settles (exists_free_number used name))
  · rw [if_neg hTaken]
    rw [List.contains_iff_mem] at hTaken
    exact .free hTaken

-- ---------------------------------------------------------------------------
-- Memory
-- ---------------------------------------------------------------------------

/-- What comes before the last mark is the same if the texts are and nothing behind the
mark is one. -/
theorem append_mark_inj {mark : Char} {a b x y : List Char} (hx : mark ∉ x) (hy : mark ∉ y)
    (h : a ++ mark :: x = b ++ mark :: y) : a = b ∧ x = y := by
  rcases List.append_eq_append_iff.mp h with ⟨c, hb, hc⟩ | ⟨c, ha, hc⟩
  · cases c with
    | nil => simp_all
    | cons d rest =>
      have : mark ∈ x := by
        rw [List.cons_append, List.cons.injEq] at hc
        rw [hc.2]
        simp
      exact absurd this hx
  · cases c with
    | nil => simp_all
    | cons d rest =>
      have : mark ∈ y := by
        rw [List.cons_append, List.cons.injEq] at hc
        rw [hc.2]
        simp
      exact absurd this hy

namespace Scope

/-- Different conversions are remembered under different keys. -/
theorem memoryKey_inj {name other : String} {style style' : Style}
    (h : memoryKey name style = memoryKey other style') : name = other ∧ style = style' := by
  have hChars := congrArg String.toList h
  simp only [memoryKey, String.toList_append, List.append_assoc] at hChars
  have hMark : ∀ style : Style, '_' ∉ style.name.toList := by
    intro style
    cases style <;> decide
  obtain ⟨hName, hStyle⟩ := append_mark_inj (hMark style) (hMark style') hChars
  refine ⟨String.toList_injective hName, ?_⟩
  have hSome : some style = some style' := by
    rw [← Style.ofName?_name style, ← Style.ofName?_name style', String.toList_injective hStyle]
  exact Option.some.inj hSome

/-- Everything remembered is what the conversion yields. -/
def Faithful (scope : Scope) : Prop :=
  ∀ entry ∈ scope.memory, ∃ name style,
    entry = (memoryKey name style, convert name style)

theorem faithful_of_memory_nil {scope : Scope} (h : scope.memory = []) : scope.Faithful := by
  intro entry hEntry
  rw [h] at hEntry
  cases hEntry

/-- A remembered conversion is the one that would be made. -/
theorem Faithful.converted {scope : Scope} (h : scope.Faithful) (name : String) (style : Style) :
    scope.converted name style = convert name style := by
  rw [Scope.converted]
  cases hFound : scope.memory.lookup (memoryKey name style) with
  | none => rfl
  | some result =>
    obtain ⟨before, after, hMemory, -⟩ := List.lookup_eq_some_iff.mp hFound
    have hMem : (memoryKey name style, result) ∈ scope.memory := by
      rw [hMemory]
      simp
    obtain ⟨other, style', hEntry⟩ := h _ hMem
    obtain ⟨hKey, rfl⟩ := Prod.mk.inj hEntry
    obtain ⟨rfl, rfl⟩ := memoryKey_inj hKey
    rfl

theorem Faithful.remember {scope : Scope} (h : scope.Faithful) (name : String) (style : Style) :
    (scope.remember name style (convert name style)).Faithful := by
  rw [Scope.remember]
  split
  · exact h
  · intro entry hEntry
    rcases List.mem_cons.mp hEntry with rfl | hOld
    · exact ⟨name, style, rfl⟩
    · exact h entry hOld

@[simp] theorem remember_used (scope : Scope) (name : String) (style : Style) (result : String) :
    (scope.remember name style result).used = scope.used := by
  rw [Scope.remember]
  split <;> rfl

@[simp] theorem remember_policy (scope : Scope) (name : String) (style : Style) (result : String) :
    (scope.remember name style result).policy = scope.policy := by
  rw [Scope.remember]
  split <;> rfl

/-- The identifier of a wire name is settled by the policy and the names in use. -/
theorem Faithful.identify_fst {scope : Scope} (h : scope.Faithful) (wireName : String)
    (style : Style) :
    (scope.identify wireName style).1 =
      { name := unused scope.used (scope.policy.permitted (convert wireName style)), wireName,
        escape := scope.policy.escapeFor
          (unused scope.used (scope.policy.permitted (convert wireName style))) } := by
  rw [Scope.identify, h.converted]

theorem Faithful.identify_used {scope : Scope} (h : scope.Faithful) (wireName : String)
    (style : Style) :
    (scope.identify wireName style).2.used =
      unused scope.used (scope.policy.permitted (convert wireName style)) :: scope.used := by
  rw [Scope.identify, h.converted]
  exact congrArg _ (remember_used ..)

/-- What is remembered with an identifier is what the conversion yields. -/
theorem Faithful.identify {scope : Scope} (h : scope.Faithful) (wireName : String)
    (style : Style) : (scope.identify wireName style).2.Faithful := by
  rw [Scope.identify, h.converted]
  exact h.remember wireName style

@[simp] theorem identify_policy (scope : Scope) (wireName : String) (style : Style) :
    (scope.identify wireName style).2.policy = scope.policy :=
  remember_policy ..

end Scope

-- ---------------------------------------------------------------------------
-- Several names
-- ---------------------------------------------------------------------------

/-- `HandsOut policy style used wireNames identifiers`: each wire name is converted, kept off
the forbidden words and settled beside the names in `used` and those handed out before it. -/
inductive HandsOut (policy : WordPolicy) (style : Style) :
    List String → List String → List Identifier → Prop
  | done {used : List String} : HandsOut policy style used [] []
  | next {used rest : List String} {wireName name : String} {others : List Identifier}
      (hName : Settles used (policy.permitted (convert wireName style)) 1
        (policy.permitted (convert wireName style)) name)
      (hRest : HandsOut policy style (name :: used) rest others) :
      HandsOut policy style used (wireName :: rest)
        ({ name, wireName, escape := policy.escapeFor name } :: others)

/-- **A scope settles every name.** What it has converted before makes no difference. -/
theorem identifyAll_handsOut {scope : Scope} (h : scope.Faithful) (style : Style)
    (wireNames : List String) :
    HandsOut scope.policy style scope.used wireNames (scope.identifyAll style wireNames).1 ∧
      (scope.identifyAll style wireNames).2.Faithful ∧
      (scope.identifyAll style wireNames).2.policy = scope.policy := by
  induction wireNames generalizing scope with
  | nil => exact ⟨.done, h, rfl⟩
  | cons wireName rest ih =>
    obtain ⟨hRest, hFaithful, hSame⟩ := ih (h.identify wireName style)
    rw [h.identify_used, Scope.identify_policy] at hRest
    rw [Scope.identify_policy] at hSame
    refine ⟨?_, hFaithful, hSame⟩
    have hHead := HandsOut.next (unused_settles ..) hRest
    rw [← h.converted] at hHead
    exact hHead

/-- Which identifiers are handed out is settled by the names in use. -/
theorem HandsOut.unique {policy : WordPolicy} {style : Style} {used wireNames : List String}
    {identifiers others : List Identifier} (h : HandsOut policy style used wireNames identifiers)
    (h' : HandsOut policy style used wireNames others) : identifiers = others := by
  induction h generalizing others with
  | done =>
    cases h'
    rfl
  | next hName _ ih =>
    cases h' with
    | next hName' hRest' =>
      obtain rfl := hName.unique hName'
      rw [ih hRest']

/-- Scopes with the same names in use hand out the same identifiers, whatever they remember. -/
theorem identifyAll_eq {scope other : Scope} (h : scope.Faithful) (h' : other.Faithful)
    (hPolicy : scope.policy = other.policy) (hUsed : scope.used = other.used) (style : Style)
    (wireNames : List String) :
    (scope.identifyAll style wireNames).1 = (other.identifyAll style wireNames).1 := by
  have hThis := (identifyAll_handsOut h style wireNames).1
  have hOther := (identifyAll_handsOut h' style wireNames).1
  rw [hPolicy, hUsed] at hThis
  exact hThis.unique hOther

/-- Every wire name gets an identifier, in order. -/
theorem HandsOut.wireNames_eq {policy : WordPolicy} {style : Style} {used wireNames : List String}
    {identifiers : List Identifier} (h : HandsOut policy style used wireNames identifiers) :
    identifiers.map Identifier.wireName = wireNames := by
  induction h with
  | done => rfl
  | next _ _ ih => rw [List.map_cons, ih]

/-- **No name is handed out twice**, nor is one that was taken before. -/
theorem HandsOut.names_nodup {policy : WordPolicy} {style : Style} {used wireNames : List String}
    {identifiers : List Identifier} (h : HandsOut policy style used wireNames identifiers) :
    (identifiers.map Identifier.name).Nodup ∧
      ∀ n ∈ identifiers.map Identifier.name, n ∉ used := by
  induction h with
  | done => exact ⟨List.nodup_nil, fun n hn => by cases hn⟩
  | next hName _ ih =>
    obtain ⟨hNodup, hFree⟩ := ih
    rw [List.map_cons]
    refine ⟨List.nodup_cons.mpr ⟨?_, hNodup⟩, ?_⟩
    · intro hAgain
      exact hFree _ hAgain (List.mem_cons_self ..)
    · intro n hn
      rcases List.mem_cons.mp hn with rfl | hRest
      · exact hName.not_mem
      · exact fun hUsed => hFree n hRest (List.mem_cons_of_mem _ hUsed)

/-- What is handed out is a permitted conversion, perhaps with a number, and its escape is
the one that its name asks for. -/
theorem HandsOut.mem {policy : WordPolicy} {style : Style} {used wireNames : List String}
    {identifiers : List Identifier} (h : HandsOut policy style used wireNames identifiers) :
    ∀ i ∈ identifiers, i.escape = policy.escapeFor i.name ∧
      (i.name = policy.permitted (convert i.wireName style) ∨
        ∃ k, i.name = numbered (policy.permitted (convert i.wireName style)) k) := by
  induction h with
  | done => intro i hi; cases hi
  | next hName _ ih =>
    intro i hi
    rcases List.mem_cons.mp hi with rfl | hRest
    · exact ⟨rfl, hName.eq_or_numbered⟩
    · exact ih i hRest

end Lexicon.Naming
