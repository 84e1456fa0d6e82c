import Lexicon.Proofs.Json.Keys
import Lexicon.Settings.File

/-!
# Lexicon — keys in settings files

A settings file may write a key twice, in either of the two formats. What has been read
holds it once.

* `Yaml.FlowKeyed`, `Yaml.BlockKeyed` — what a bound of steps reads is keyed, for each of the
                                       readers that call each other.
* `Yaml.read_keyed`                  — a YAML text is read as a keyed value.
* `Settings.fromFile_settings_keyed` — the settings in a file are a keyed mapping.
-/

namespace Lexicon

namespace Yaml

/-- Entries whose values are keyed make a keyed mapping, whatever their keys. -/
theorem mapping_ofList_keyed {entries : Fields} (h : ∀ e ∈ entries, e.2.Keyed) :
    (Value.mapping (Fields.ofList entries)).Keyed :=
  .mapping (Fields.ofList_keyed h).1 (Fields.ofList_keyed h).2

-- ---------------------------------------------------------------------------
-- Scalars
-- ---------------------------------------------------------------------------

theorem plainValue?_keyed {text : List Char} {v : Value} (h : plainValue? text = some v) :
    v.Keyed := by
  unfold plainValue? at h
  split at h
  · cases h
    exact .null
  · cases h
    exact .bool
  · cases h
    exact .int
  · cases h
    exact .float
  · cases h
  · cases h
    exact .text

theorem readScalar_keyed {inFlow : Bool} {indent : Int} {cursor next : Cursor} {v : Value}
    (h : readScalar inFlow indent cursor = some (v, next)) : v.Keyed := by
  unfold readScalar at h
  dsimp only at h
  split at h
  · obtain ⟨⟨text, after⟩, _, h⟩ := Option.bind_eq_some_iff.mp h
    cases h
    exact .text
  · obtain ⟨⟨text, after⟩, _, h⟩ := Option.bind_eq_some_iff.mp h
    cases h
    exact .text
  · split at h
    · obtain ⟨⟨text, after⟩, _, h⟩ := Option.bind_eq_some_iff.mp h
      obtain ⟨value, hValue, h⟩ := Option.bind_eq_some_iff.mp h
      cases h
      exact plainValue?_keyed hValue
    · cases h

-- ---------------------------------------------------------------------------
-- Brackets
-- ---------------------------------------------------------------------------

/-- What is read inside of brackets within a bound of steps is keyed. -/
structure FlowKeyed (fuel : Nat) : Prop where
  flow : ∀ {cursor next v}, readFlow fuel cursor = some (v, next) → v.Keyed
  pair : ∀ {cursor next v value?}, readFlowPair fuel cursor = some (v, value?, next) →
    v.Keyed ∧ ∀ value, value? = some value → value.Keyed
  items : ∀ {cursor next vs}, readFlowItems fuel cursor = some (vs, next) → ∀ v ∈ vs, v.Keyed
  entries : ∀ {cursor next es}, readFlowEntries fuel cursor = some (es, next) →
    ∀ e ∈ es, e.2.Keyed
  value : ∀ {cursor next v}, readFlowValue fuel cursor = some (v, next) → v.Keyed

variable {fuel : Nat}

theorem FlowKeyed.readFlow (ih : FlowKeyed fuel) {cursor next : Cursor} {v : Value}
    (h : readFlow (fuel + 1) cursor = some (v, next)) : v.Keyed := by
  unfold Yaml.readFlow at h
  split at h
  · cases h
  · split at h
    · obtain ⟨⟨items, after⟩, hItems, h⟩ := Option.bind_eq_some_iff.mp h
      cases h
      exact .list (ih.items hItems)
    · obtain ⟨⟨entries, after⟩, hEntries, h⟩ := Option.bind_eq_some_iff.mp h
      cases h
      exact mapping_ofList_keyed (ih.entries hEntries)
    · exact readScalar_keyed h

theorem FlowKeyed.readFlowPair (ih : FlowKeyed fuel) {cursor next : Cursor} {v : Value}
    {value? : Option Value} (h : readFlowPair (fuel + 1) cursor = some (v, value?, next)) :
    v.Keyed ∧ ∀ value, value? = some value → value.Keyed := by
  unfold Yaml.readFlowPair at h
  split at h
  · obtain ⟨⟨key, after⟩, hKey, h⟩ := Option.bind_eq_some_iff.mp h
    dsimp only at h
    split at h
    · obtain ⟨⟨value, after'⟩, hValue, h⟩ := Option.bind_eq_some_iff.mp h
      cases h
      refine ⟨ih.value hKey, ?_⟩
      rintro _ ⟨⟩
      exact ih.value hValue
    · cases h
      refine ⟨ih.value hKey, ?_⟩
      rintro _ ⟨⟩
      exact .null
  · obtain ⟨⟨item, after⟩, hItem, h⟩ := Option.bind_eq_some_iff.mp h
    dsimp only at h
    split at h
    · obtain ⟨⟨value, after'⟩, hValue, h⟩ := Option.bind_eq_some_iff.mp h
      cases h
      refine ⟨ih.flow hItem, ?_⟩
      rintro _ ⟨⟩
      exact ih.value hValue
    · cases h
      refine ⟨ih.flow hItem, ?_⟩
      rintro _ ⟨⟩

/-- What follows an item inside of brackets: others, or the closing bracket. -/
theorem FlowKeyed.afterItem (ih : FlowKeyed fuel) {item : Value} (hItem : item.Keyed)
    {after next : Cursor} {vs : List Value}
    (h : (match after.rest with
      | ',' :: _ => do
        let (items, final) ← Yaml.readFlowItems fuel (after.skip 1).next
        return (item :: items, final)
      | ']' :: _ => return ([item], after.skip 1)
      | _ => none) = some (vs, next)) : ∀ v ∈ vs, v.Keyed := by
  split at h
  · obtain ⟨⟨items, final⟩, hItems, h⟩ := Option.bind_eq_some_iff.mp h
    cases h
    exact List.forall_mem_cons.mpr ⟨hItem, ih.items hItems⟩
  · cases h
    exact List.forall_mem_singleton.mpr hItem
  · cases h

theorem FlowKeyed.readFlowItems (ih : FlowKeyed fuel) {cursor next : Cursor} {vs : List Value}
    (h : readFlowItems (fuel + 1) cursor = some (vs, next)) : ∀ v ∈ vs, v.Keyed := by
  unfold Yaml.readFlowItems at h
  split at h
  · cases h
    intro v hv
    cases hv
  · obtain ⟨⟨first, value?, after⟩, hPair, h⟩ := Option.bind_eq_some_iff.mp h
    obtain ⟨hFirst, hValue⟩ := ih.pair hPair
    cases value? with
    | none =>
      obtain ⟨item, hItem, h⟩ := Option.bind_eq_some_iff.mp h
      cases hItem
      exact ih.afterItem hFirst h
    | some value =>
      obtain ⟨item, hItem, h⟩ := Option.bind_eq_some_iff.mp h
      obtain ⟨key, _, rfl⟩ := Option.map_eq_some_iff.mp hItem
      refine ih.afterItem (.mapping (by simp) ?_) h
      exact List.forall_mem_singleton.mpr (hValue value rfl)

theorem FlowKeyed.readFlowEntries (ih : FlowKeyed fuel) {cursor next : Cursor} {es : Fields}
    (h : readFlowEntries (fuel + 1) cursor = some (es, next)) : ∀ e ∈ es, e.2.Keyed := by
  unfold Yaml.readFlowEntries at h
  split at h
  · cases h
    intro e he
    cases he
  · obtain ⟨⟨item, value?, after⟩, hPair, h⟩ := Option.bind_eq_some_iff.mp h
    dsimp only at h
    obtain ⟨key, _, h⟩ := Option.bind_eq_some_iff.mp h
    have hValue : (value?.getD .null).Keyed := by
      cases value? with
      | none => exact .null
      | some value => exact (ih.pair hPair).2 value rfl
    split at h
    · obtain ⟨⟨entries, final⟩, hEntries, h⟩ := Option.bind_eq_some_iff.mp h
      cases h
      exact List.forall_mem_cons.mpr ⟨hValue, ih.entries hEntries⟩
    · cases h
      exact List.forall_mem_singleton.mpr hValue
    · cases h

theorem FlowKeyed.readFlowValue (ih : FlowKeyed fuel) {cursor next : Cursor} {v : Value}
    (h : readFlowValue (fuel + 1) cursor = some (v, next)) : v.Keyed := by
  unfold Yaml.readFlowValue at h
  split at h
  · split at h
    · cases h
      exact .null
    · obtain ⟨⟨value, after⟩, hValue, h⟩ := Option.bind_eq_some_iff.mp h
      cases h
      exact ih.flow hValue
  · cases h

theorem flow_keyed (fuel : Nat) : FlowKeyed fuel := by
  induction fuel with
  | zero =>
    refine ⟨?_, ?_, ?_, ?_, ?_⟩
    · intro _ _ _ h
      rw [readFlow] at h
      cases h
    · intro _ _ _ _ h
      rw [readFlowPair] at h
      cases h
    · intro _ _ _ h
      rw [readFlowItems] at h
      cases h
    · intro _ _ _ h
      rw [readFlowEntries] at h
      cases h
    · intro _ _ _ h
      rw [readFlowValue] at h
      cases h
  | succ fuel ih =>
    exact ⟨ih.readFlow, ih.readFlowPair, ih.readFlowItems, ih.readFlowEntries, ih.readFlowValue⟩

-- ---------------------------------------------------------------------------
-- Blocks
-- ---------------------------------------------------------------------------

theorem readInline_keyed {indent : Int} {cursor next : Cursor} {v : Value}
    (h : readInline indent cursor = some (v, next)) : v.Keyed := by
  unfold readInline at h
  split at h
  · exact (flow_keyed _).flow h
  · exact (flow_keyed _).flow h
  · exact readScalar_keyed h

/-- What is read in blocks within a bound of steps is keyed. -/
structure BlockKeyed (fuel : Nat) : Prop where
  node : ∀ {indent fresh cursor next v}, readNode fuel indent fresh cursor = some (v, next) →
    v.Keyed
  below : ∀ {column line fresh underKey cursor next v},
    readBelow fuel column line fresh underKey cursor = some (v, next) → v.Keyed
  items : ∀ {column underKey cursor next vs},
    readItems fuel column underKey cursor = some (vs, next) → ∀ v ∈ vs, v.Keyed
  entries : ∀ {column cursor next es}, readEntries fuel column cursor = some (es, next) →
    ∀ e ∈ es, e.2.Keyed

theorem BlockKeyed.readNode (ih : BlockKeyed fuel) {indent : Int} {fresh : Bool}
    {cursor next : Cursor} {v : Value}
    (h : readNode (fuel + 1) indent fresh cursor = some (v, next)) : v.Keyed := by
  unfold Yaml.readNode at h
  split at h
  · split at h
    · obtain ⟨⟨items, after⟩, hItems, h⟩ := Option.bind_eq_some_iff.mp h
      cases h
      exact .list (ih.items hItems)
    · cases h
  · split at h
    · split at h
      · obtain ⟨⟨entries, after⟩, hEntries, h⟩ := Option.bind_eq_some_iff.mp h
        cases h
        exact mapping_ofList_keyed (ih.entries hEntries)
      · cases h
    · obtain ⟨⟨value, after⟩, hValue, h⟩ := Option.bind_eq_some_iff.mp h
      dsimp only at h
      split at h
      · split at h
        · obtain ⟨⟨entries, after'⟩, hEntries, h⟩ := Option.bind_eq_some_iff.mp h
          cases h
          exact mapping_ofList_keyed (ih.entries hEntries)
        · cases h
      · split at h
        · cases h
          exact readInline_keyed hValue
        · cases h

theorem BlockKeyed.readBelow (ih : BlockKeyed fuel) {column line : Nat} {fresh underKey : Bool}
    {cursor next : Cursor} {v : Value}
    (h : readBelow (fuel + 1) column line fresh underKey cursor = some (v, next)) : v.Keyed := by
  unfold Yaml.readBelow at h
  dsimp only at h
  split at h
  · cases h
    exact .null
  · split at h
    · exact ih.node h
    · split at h
      · exact ih.node h
      · split at h
        · obtain ⟨⟨items, after⟩, hItems, h⟩ := Option.bind_eq_some_iff.mp h
          cases h
          exact .list (ih.items hItems)
        · cases h
          exact .null

theorem BlockKeyed.readItems (ih : BlockKeyed fuel) {column : Nat} {underKey : Bool}
    {cursor next : Cursor} {vs : List Value}
    (h : readItems (fuel + 1) column underKey cursor = some (vs, next)) : ∀ v ∈ vs, v.Keyed := by
  unfold Yaml.readItems at h
  obtain ⟨⟨item, after⟩, hBelow, h⟩ := Option.bind_eq_some_iff.mp h
  have hItem := ih.below hBelow
  dsimp only at h
  split at h
  · cases h
    exact List.forall_mem_singleton.mpr hItem
  · split at h
    · obtain ⟨⟨items, final⟩, hItems, h⟩ := Option.bind_eq_some_iff.mp h
      cases h
      exact List.forall_mem_cons.mpr ⟨hItem, ih.items hItems⟩
    · split at h
      · cases h
        exact List.forall_mem_singleton.mpr hItem
      · cases h

/-- What follows an entry of a block: others, or the end of the block. -/
theorem BlockKeyed.afterEntry (ih : BlockKeyed fuel) {column : Nat} {key value : Value}
    (hValue : value.Keyed) {after next : Cursor} {es : Fields}
    (h : (do
      let name ← keyText? key
      if after.atEnd || after.column < column then return ([(name, value)], after)
      else if after.column == column && !after.atDash '-' then
        let (entries, final) ← Yaml.readEntries fuel column after
        return ((name, value) :: entries, final)
      else none) = some (es, next)) : ∀ e ∈ es, e.2.Keyed := by
  obtain ⟨name, _, h⟩ := Option.bind_eq_some_iff.mp h
  split at h
  · cases h
    exact List.forall_mem_singleton.mpr hValue
  · split at h
    · obtain ⟨⟨entries, final⟩, hEntries, h⟩ := Option.bind_eq_some_iff.mp h
      cases h
      exact List.forall_mem_cons.mpr ⟨hValue, ih.entries hEntries⟩
    · cases h

theorem BlockKeyed.readEntries (ih : BlockKeyed fuel) {column : Nat} {cursor next : Cursor}
    {es : Fields} (h : readEntries (fuel + 1) column cursor = some (es, next)) :
    ∀ e ∈ es, e.2.Keyed := by
  unfold Yaml.readEntries at h
  dsimp only at h
  split at h
  · -- a key behind a question mark, with a value or without
    obtain ⟨⟨key, after⟩, _, h⟩ := Option.bind_eq_some_iff.mp h
    dsimp only at h
    split at h
    · obtain ⟨⟨value, after'⟩, hBelow, h⟩ := Option.bind_eq_some_iff.mp h
      exact ih.afterEntry (ih.below hBelow) h
    · exact ih.afterEntry .null h
  · obtain ⟨⟨key, after⟩, _, h⟩ := Option.bind_eq_some_iff.mp h
    dsimp only at h
    split at h
    · obtain ⟨⟨value, after'⟩, hBelow, h⟩ := Option.bind_eq_some_iff.mp h
      exact ih.afterEntry (ih.below hBelow) h
    · cases h

theorem block_keyed (fuel : Nat) : BlockKeyed fuel := by
  induction fuel with
  | zero =>
    refine ⟨?_, ?_, ?_, ?_⟩
    · intro _ _ _ _ _ h
      rw [readNode] at h
      cases h
    · intro _ _ _ _ _ _ _ h
      rw [readBelow] at h
      cases h
    · intro _ _ _ _ _ h
      rw [readItems] at h
      cases h
    · intro _ _ _ _ h
      rw [readEntries] at h
      cases h
  | succ fuel ih => exact ⟨ih.readNode, ih.readBelow, ih.readItems, ih.readEntries⟩

/-- **A YAML text is read as a keyed value.** -/
theorem read_keyed {text : List Char} {v : Value} (h : read text = some v) : v.Keyed := by
  unfold read at h
  split at h
  · cases h
  · have hDone : ∀ {value : Value} {next : Cursor}, value.Keyed →
        (if (skipEnds text.length next).rest.isEmpty then some value else none) = some v →
        v.Keyed := by
      intro value next hValue hEnd
      split at hEnd
      · cases hEnd
        exact hValue
      · cases hEnd
    dsimp only at h
    generalize (if text.head? == some byteOrderMark then text.tail else text) = body at h
    split at h
    · split at h
      · exact hDone .null h
      · obtain ⟨⟨value, next⟩, hNode, h⟩ := Option.bind_eq_some_iff.mp h
        exact hDone ((block_keyed _).node hNode) h
    · split at h
      · exact hDone .null h
      · split at h
        · cases h
        · obtain ⟨⟨value, next⟩, hNode, h⟩ := Option.bind_eq_some_iff.mp h
          exact hDone ((block_keyed _).node hNode) h

end Yaml

-- ---------------------------------------------------------------------------
-- Files
-- ---------------------------------------------------------------------------

namespace Settings

theorem readText_keyed {text : List Char} {v : Value} (h : readText text = some v) :
    v.Keyed := by
  unfold readText at h
  split at h
  · next value hJson =>
    cases h
    exact Json.read_keyed hJson
  · exact Yaml.read_keyed h

theorem fieldsIn_keyed {path : String} {text : List Char} {fields : Fields}
    (h : fieldsIn path text = .ok fields) : Fields.Keyed fields := by
  unfold fieldsIn at h
  split at h
  · cases h
  · cases h
    exact Fields.keyed_nil
  · next entries hRead =>
    cases h
    exact (readText_keyed hRead).entries
  · cases h

/-- **The settings in a file are a keyed mapping.** -/
theorem fromFile_settings_keyed {files : Source.Tree} {location : Source.Location}
    {fields : Fields} (h : fromFile files location = .ok fields) : Fields.Keyed fields := by
  unfold fromFile at h
  dsimp only at h
  split at h
  · cases h
  · cases h
  · split at h
    · cases h
    · exact fieldsIn_keyed h

end Settings

end Lexicon
