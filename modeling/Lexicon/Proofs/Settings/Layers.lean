import Lexicon.Proofs.Json.Keys
import Lexicon.Settings.Merge

/-!
# Lexicon — settings laid over each other

A mapping of settings has two layers: its entries, and those of its custom settings. What a
mapping laid over another one gives is told by looking up keys, in either layer; where keys
stand does not matter.

* `Fields.lookup_merge`           — a key of merged mappings.
* `Settings.inner`, `Nested`      — the custom settings of a mapping, and that they are a
                                    mapping themselves.
* `Settings.override_top`         — overriding hides entries of the same key, whatever they are,
                                    but for a mapping of custom settings.
* `Settings.Overlays`             — one mapping laid over another, in both layers.
* `Settings.override_overlays`    — where custom settings are mappings, overriding does not
                                    fail, and does just that.
* `Settings.gather_plain`         — a setting has the value of its entry, or else its default.
* `Settings.Gathers`, `gather_gathers` — the same with the custom settings: an entry that names
                                    no setting hides the custom one of the same name.
-/

namespace Lexicon

-- ---------------------------------------------------------------------------
-- Merged mappings
-- ---------------------------------------------------------------------------

theorem Fields.lookup_merge {changes : Fields} (hChanges : (changes.map Prod.fst).Nodup)
    (base : Fields) (k : String) :
    (Fields.merge base changes).lookup k = (changes.lookup k).or (base.lookup k) := by
  induction changes generalizing base with
  | nil => rfl
  | cons e rest ih =>
    obtain ⟨key, value⟩ := e
    obtain ⟨hHead, hTail⟩ := List.nodup_cons.mp hChanges
    have hMerge : Fields.merge base ((key, value) :: rest)
        = Fields.merge (Fields.put key value base) rest := rfl
    rw [hMerge, ih hTail, Fields.lookup_put, lookup_cons_if]
    split
    · -- no later entry sets the key again
      next hKey =>
      subst hKey
      rw [lookup_eq_none_of_not_mem hHead]
      rfl
    · rfl

theorem Fields.Keyed.filter {fields : Fields} (h : Fields.Keyed fields)
    (p : String × Value → Bool) : Fields.Keyed (fields.filter p) :=
  ⟨(List.filter_sublist.map _).nodup h.1, fun e he => h.2 e (List.mem_of_mem_filter he)⟩

namespace Settings

-- ---------------------------------------------------------------------------
-- The two layers
-- ---------------------------------------------------------------------------

/-- The custom settings of a mapping; none where they are absent or no mapping. -/
def inner (fields : Fields) : Fields :=
  match fields.lookup customName with
  | some (.mapping own) => own
  | _ => []

/-- The custom settings of a mapping, if it has any, are a mapping. -/
def Nested (fields : Fields) : Prop :=
  ∀ v, fields.lookup customName = some v → ∃ own, v = .mapping own

theorem inner_of_lookup {fields own : Fields}
    (h : fields.lookup customName = some (.mapping own)) : inner fields = own := by
  rw [inner, h]

theorem inner_of_none {fields : Fields} (h : fields.lookup customName = none) :
    inner fields = [] := by
  rw [inner, h]

/-- The custom settings are those that overriding looks for. -/
theorem Nested.getD {fields : Fields} (h : Nested fields) :
    (fields.lookup customName).getD (.mapping []) = .mapping (inner fields) := by
  cases hLookup : fields.lookup customName with
  | none =>
    rw [inner_of_none hLookup]
    rfl
  | some v =>
    obtain ⟨own, rfl⟩ := h v hLookup
    rw [inner_of_lookup hLookup]
    rfl

theorem inner_keyed {fields : Fields} (h : Fields.Keyed fields) : Fields.Keyed (inner fields) := by
  rw [inner]
  split
  · next own hLookup => exact (h.2 _ (mem_of_lookup hLookup)).entries
  · exact Fields.keyed_nil

-- ---------------------------------------------------------------------------
-- Overriding
-- ---------------------------------------------------------------------------

/-- Where no other entry has the key, a first entry and the others can be looked up apart. -/
theorem lookup_cons_apart {key : String} {rest : Fields} (h : key ∉ rest.map Prod.fst)
    (value : Value) (k : String) :
    List.lookup k ((key, value) :: rest)
      = (rest.lookup k).or (List.lookup k [(key, value)]) := by
  rw [lookup_cons_if, lookup_cons_if]
  split
  · next hk =>
    rw [hk, lookup_eq_none_of_not_mem h]
    rfl
  · exact Option.or_none.symm

theorem override_cons (base : Fields) (key : String) (value : Value) (rest : Fields) :
    override base ((key, value) :: rest)
      = overrideEntry base key value >>= fun fields => override fields rest := rfl

/-- One entry set over a mapping, unless it is a mapping of custom settings. -/
theorem overrideEntry_top {base fields : Fields} {key : String} {value : Value}
    (h : overrideEntry base key value = .ok fields) {k : String}
    (hk : k = customName → ∀ own, List.lookup k [(key, value)] ≠ some (.mapping own)) :
    fields.lookup k = (List.lookup k [(key, value)]).or (base.lookup k) := by
  have hPut : (Fields.put key value base).lookup k
      = (List.lookup k [(key, value)]).or (base.lookup k) := by
    rw [Fields.lookup_put, lookup_cons_if]
    split <;> rfl
  unfold overrideEntry at h
  split at h
  · next own =>
    split at h
    · next hKey =>
      obtain rfl : key = customName := eq_of_beq hKey
      have hNe : k ≠ customName := by
        rintro rfl
        exact hk rfl own List.lookup_cons_self
      split at h
      · cases h
        rw [Fields.lookup_put_of_ne hNe.symm, lookup_cons_if, if_neg hNe]
        rfl
      · cases h
    · cases h
      exact hPut
  · cases h
    exact hPut

/-- **What is laid over a mapping hides what has the same key**, but for a mapping of custom
settings. -/
theorem override_top {base changes fields : Fields} (hChanges : (changes.map Prod.fst).Nodup)
    (h : override base changes = .ok fields) {k : String}
    (hk : k = customName → ∀ own, changes.lookup k ≠ some (.mapping own)) :
    fields.lookup k = (changes.lookup k).or (base.lookup k) := by
  induction changes generalizing base with
  | nil =>
    cases h
    rfl
  | cons e rest ih =>
    obtain ⟨key, value⟩ := e
    obtain ⟨hHead, hTail⟩ := List.nodup_cons.mp hChanges
    rw [override_cons] at h
    obtain ⟨next, hEntry, h⟩ := exists_of_bind_ok h
    rw [lookup_cons_apart hHead] at hk ⊢
    have hRest : k = customName → ∀ own, rest.lookup k ≠ some (.mapping own) := by
      intro hEq own hOwn
      exact hk hEq own (by rw [hOwn, Option.some_or])
    have hFirst : k = customName → ∀ own, List.lookup k [(key, value)] ≠ some (.mapping own) := by
      intro hEq own hOwn
      refine hk hEq own ?_
      -- the others have no entry of this key
      obtain rfl : k = key := by simpa using mem_keys_of_lookup hOwn
      rw [lookup_eq_none_of_not_mem hHead, Option.none_or, hOwn]
    rw [ih hTail h hRest, overrideEntry_top hEntry hFirst, Option.or_assoc]

/-- `fields` is `changes` laid over `base`: what `changes` holds hides what `base` holds
under the same key, in each of the two layers. -/
structure Overlays (base changes fields : Fields) : Prop where
  keyed : Fields.Keyed fields
  nested : Nested fields
  top : ∀ k, k ≠ customName → fields.lookup k = (changes.lookup k).or (base.lookup k)
  custom : ∀ k, (inner fields).lookup k = ((inner changes).lookup k).or ((inner base).lookup k)

/-- One entry laid over a mapping. -/
theorem overrideEntry_overlays {base : Fields} (hBase : Fields.Keyed base) (hNested : Nested base)
    {key : String} {value : Value} (hValue : value.Keyed) (hEntry : Nested [(key, value)]) :
    ∃ fields, overrideEntry base key value = .ok fields ∧ Overlays base [(key, value)] fields := by
  have hOne : ∀ k : String, k ≠ key → List.lookup k [(key, value)] = none := by
    intro k hk
    rw [lookup_cons_if, if_neg hk]
    rfl
  have hSelf : List.lookup key [(key, value)] = some value := List.lookup_cons_self
  by_cases hKey : key = customName
  · -- the custom settings are merged
    subst hKey
    obtain ⟨changes, rfl⟩ := hEntry value hSelf
    cases hValue with
    | mapping hKeys hValues =>
      have hMerged : Fields.Keyed (Fields.merge (inner base) changes) :=
        (inner_keyed hBase).merge hValues
      have hCustom : (Fields.put customName (.mapping (Fields.merge (inner base) changes))
          base).lookup customName = some (.mapping (Fields.merge (inner base) changes)) := by
        rw [Fields.lookup_put_self]
      have hEntry : overrideEntry base customName (.mapping changes)
          = .ok (Fields.put customName (.mapping (Fields.merge (inner base) changes)) base) := by
        rw [overrideEntry, if_pos (beq_self_eq_true customName), hNested.getD]
      refine ⟨_, hEntry, ?_, ?_, fun k hk => overrideEntry_top hEntry fun hEq => absurd hEq hk, ?_⟩
      · exact hBase.put (.mapping hMerged.1 hMerged.2)
      · intro v hv
        exact ⟨_, Option.some.inj (hv.symm.trans hCustom)⟩
      · intro k
        rw [inner_of_lookup hCustom, inner_of_lookup hSelf, Fields.lookup_merge hKeys]
  · -- any other entry is set
    have hLookup := Fields.lookup_put_of_ne hKey value base
    have hEntry : overrideEntry base key value = .ok (Fields.put key value base) := by
      unfold overrideEntry
      split
      · rw [if_neg (by simpa using hKey)]
      · rfl
    refine ⟨_, hEntry, hBase.put hValue, ?_,
      fun k hk => overrideEntry_top hEntry fun hEq => absurd hEq hk, ?_⟩
    · intro v hv
      exact hNested v (hLookup ▸ hv)
    · intro k
      have hInner : inner (Fields.put key value base) = inner base := by
        rw [inner, inner, hLookup]
      rw [hInner, inner_of_none (hOne customName (Ne.symm hKey))]
      rfl

/-- A first entry and the others hold custom settings apart: only one of the two has any. -/
theorem lookup_inner_cons_apart {key : String} {rest : Fields} (h : key ∉ rest.map Prod.fst)
    (value : Value) (k : String) :
    (inner ((key, value) :: rest)).lookup k
      = ((inner rest).lookup k).or ((inner [(key, value)]).lookup k) := by
  by_cases hk : customName = key
  · have hRest : rest.lookup customName = none := lookup_eq_none_of_not_mem (hk ▸ h)
    have hAll : inner ((key, value) :: rest) = inner [(key, value)] := by
      rw [inner, inner, lookup_cons_apart h, hRest]
      rfl
    rw [inner_of_none hRest, hAll]
    rfl
  · have hEntry : List.lookup customName [(key, value)] = none := by
      rw [lookup_cons_if, if_neg hk]
      rfl
    have hAll : inner ((key, value) :: rest) = inner rest := by
      rw [inner, inner, lookup_cons_apart h, hEntry, Option.or_none]
    rw [hAll, inner_of_none hEntry]
    exact Option.or_none.symm

theorem Nested.of_cons {key : String} {value : Value} {rest : Fields}
    (hKey : key ∉ rest.map Prod.fst) (h : Nested ((key, value) :: rest)) :
    Nested [(key, value)] ∧ Nested rest := by
  constructor
  · intro v hv
    refine h v ?_
    rw [lookup_cons_if] at hv ⊢
    split at hv
    · next hk => rw [if_pos hk, hv]
    · cases hv
  · intro v hv
    refine h v ?_
    rw [lookup_cons_apart hKey, hv]
    rfl

/-- **Laying a mapping over another one does not fail, and hides entries in both layers.** -/
theorem override_overlays {base changes : Fields} (hBase : Fields.Keyed base)
    (hBaseNested : Nested base) (hChanges : Fields.Keyed changes) (hNested : Nested changes) :
    ∃ fields, override base changes = .ok fields ∧ Overlays base changes fields := by
  induction changes generalizing base with
  | nil => exact ⟨base, rfl, hBase, hBaseNested, fun _ _ => rfl, fun _ => rfl⟩
  | cons e rest ih =>
    obtain ⟨key, value⟩ := e
    obtain ⟨hHead, hTail⟩ := List.nodup_cons.mp hChanges.1
    obtain ⟨hEntryNested, hRestNested⟩ := hNested.of_cons hHead
    obtain ⟨next, hEntry, hNext⟩ := overrideEntry_overlays hBase hBaseNested
      (hChanges.2 (key, value) (List.mem_cons_self ..)) hEntryNested
    obtain ⟨fields, hOverride, hFields⟩ := ih hNext.keyed hNext.nested
      ⟨hTail, fun x hx => hChanges.2 x (List.mem_cons_of_mem _ hx)⟩ hRestNested
    have hAll : override base ((key, value) :: rest) = .ok fields := by
      rw [override_cons, hEntry, ok_bind, hOverride]
    refine ⟨fields, hAll, hFields.keyed, hFields.nested,
      fun k hk => override_top hChanges.1 hAll fun hEq => absurd hEq hk, ?_⟩
    intro k
    rw [hFields.custom, hNext.custom, lookup_inner_cons_apart hHead, Option.or_assoc]

-- ---------------------------------------------------------------------------
-- Gathering
-- ---------------------------------------------------------------------------

theorem isName_of_mem {k : String} (h : names.contains k = true) : isName k = true := by
  rw [isName, h, Bool.true_or]

theorem ne_customName_of_mem {k : String} (h : names.contains k = true) : k ≠ customName := by
  rintro rfl
  revert h
  decide

/-- Among the entries that name settings, those are found that are found among all. -/
theorem lookup_own {k : String} (h : isName k = true) (fields : Fields) :
    (fields.filter fun e => isName e.1).lookup k = fields.lookup k := by
  rw [lookup_filter, if_pos h]

/-- A setting has the value of its entry, or else its default. -/
theorem ofEntries_plain (fields : Fields) {k : String} (h : names.contains k = true) :
    (ofEntries fields).plain.lookup k
      = (fields.lookup k).or (({} : Settings).plain.lookup k) := by
  have hMem : k ∈ names := List.contains_iff_mem.mp h
  have hValue : ∀ (o : Option Value) (d : Value), some (o.getD d) = o.or (some d) := by
    intro o d
    cases o <;> rfl
  simp only [names, List.mem_cons, List.not_mem_nil, or_false] at hMem
  rcases hMem with rfl | rfl | rfl | rfl | rfl | rfl | rfl | rfl | rfl | rfl <;>
    exact hValue _ _

/-- **Whatever the custom settings are, a setting has the value of its entry or its default.** -/
theorem gather_plain {fields : Fields} {settings : Settings} (h : gather fields = .ok settings)
    {k : String} (hk : names.contains k = true) :
    settings.plain.lookup k = (fields.lookup k).or (({} : Settings).plain.lookup k) := by
  have hOwn := lookup_own (isName_of_mem hk) fields
  unfold gather at h
  dsimp only at h
  split at h
  · cases h
    rw [ofEntries_plain _ hk, hOwn]
  · have hPut : ∀ custom : Fields, (ofEntries (Fields.put customName (.mapping custom)
        (fields.filter fun e => isName e.1))).plain.lookup k
          = (fields.lookup k).or (({} : Settings).plain.lookup k) := by
      intro custom
      rw [ofEntries_plain _ hk, Fields.lookup_put_of_ne (Ne.symm (ne_customName_of_mem hk)),
        hOwn]
    split at h
    · obtain ⟨custom, _, h⟩ := exists_of_bind_ok h
      cases h
      exact hPut _
    · obtain ⟨custom, _, h⟩ := exists_of_bind_ok h
      cases h
      exact hPut _

/-- `settings` holds what `fields` gives: a setting has the value of its entry or else its
default, and a custom setting that of its entry or else that among the custom settings. -/
structure Gathers (fields : Fields) (settings : Settings) : Prop where
  plain : ∀ k, names.contains k = true →
    settings.plain.lookup k = (fields.lookup k).or (({} : Settings).plain.lookup k)
  custom : ∃ own, settings.custom = .mapping own ∧ Fields.Keyed own ∧
    ∀ k, own.lookup k =
      if isName k then (inner fields).lookup k
      else (fields.lookup k).or ((inner fields).lookup k)

/-- **A mapping whose custom settings are a mapping can be gathered.** -/
theorem gather_gathers {fields : Fields} (hKeyed : Fields.Keyed fields) (hNested : Nested fields) :
    ∃ settings, gather fields = .ok settings ∧ Gathers fields settings := by
  have hCustomOwn := lookup_own (show isName customName = true by decide) fields
  by_cases hExtra : (fields.filter fun e => !isName e.1).isEmpty = true
  · -- every entry names a setting
    have hGather : gather fields = .ok (ofEntries (fields.filter fun e => isName e.1)) := by
      rw [gather, if_pos hExtra]
      rfl
    have hNone : ∀ k, isName k = false → fields.lookup k = none := by
      intro k hk
      have hEmpty := lookup_filter (fun name => !isName name) fields k
      rw [List.isEmpty_iff.mp hExtra, hk] at hEmpty
      exact hEmpty.symm
    refine ⟨_, hGather, fun k hk => gather_plain hGather hk, inner fields, ?_,
      inner_keyed hKeyed, ?_⟩
    · show ((fields.filter fun e => isName e.1).lookup customName).getD (.mapping []) = _
      rw [hCustomOwn, hNested.getD]
    · intro k
      split
      · rfl
      · next hk =>
        rw [hNone k (by simpa using hk)]
        rfl
  · -- the other entries are laid over the custom settings
    have hExtraKeyed := hKeyed.filter fun e => !isName e.1
    have hMerged := (inner_keyed hKeyed).merge hExtraKeyed.2
    have hGather : gather fields = .ok (ofEntries (Fields.put customName
        (.mapping (Fields.merge (inner fields) (fields.filter fun e => !isName e.1)))
        (fields.filter fun e => isName e.1))) := by
      rw [gather, if_neg hExtra, hCustomOwn]
      cases hLookup : fields.lookup customName with
      | none =>
        rw [inner_of_none hLookup]
        rfl
      | some v =>
        obtain ⟨own, rfl⟩ := hNested v hLookup
        rw [inner_of_lookup hLookup]
        cases own <;> rfl
    refine ⟨_, hGather, fun k hk => gather_plain hGather hk,
      Fields.merge (inner fields) (fields.filter fun e => !isName e.1), ?_, hMerged, ?_⟩
    · show (List.lookup customName (Fields.put customName _ _)).getD _ = _
      rw [Fields.lookup_put_self]
      rfl
    · intro k
      rw [Fields.lookup_merge hExtraKeyed.1,
        lookup_filter (fun name => !isName name) fields k]
      cases isName k <;> rfl

end Settings

end Lexicon
