import Lexicon.Json.Reader
import Lexicon.Proofs.Fallible
import Lexicon.Proofs.Lookup

/-!
# Lexicon — values whose keys occur once

The entries of a mapping are a list of pairs, and as a list they could hold a key twice.
A mapping that has been read never does: of a key that a text repeats, one entry is kept.

* `Value.Keyed`                  — every key occurs once, at every depth.
* `Fields.Keyed.put`, `Fields.Keyed.merge`, `Fields.ofList_keyed` — setting keys keeps one
  entry for each.
* `Json.readText_keyed`, `Json.read_keyed` — a JSON text is read as a keyed value.
-/

namespace Lexicon

-- ---------------------------------------------------------------------------
-- Values
-- ---------------------------------------------------------------------------

/-- Every key of every mapping in the value occurs once. -/
inductive Value.Keyed : Value → Prop
  | null : Keyed .null
  | bool {b : Bool} : Keyed (.bool b)
  | int {n : Int} : Keyed (.int n)
  | float {x : Double} : Keyed (.float x)
  | text {s : String} : Keyed (.text s)
  | list {items : List Value} (hItems : ∀ v ∈ items, Keyed v) : Keyed (.list items)
  | mapping {entries : Fields} (hKeys : (entries.map Prod.fst).Nodup)
      (hValues : ∀ e ∈ entries, Keyed e.2) : Keyed (.mapping entries)

/-- The entries of a keyed mapping. -/
def Fields.Keyed (fields : Fields) : Prop :=
  (fields.map Prod.fst).Nodup ∧ ∀ e ∈ fields, e.2.Keyed

theorem Fields.keyed_nil : Fields.Keyed [] := ⟨List.nodup_nil, fun _ he => by cases he⟩

theorem Value.Keyed.entries {fields : Fields} (h : (Value.mapping fields).Keyed) :
    Fields.Keyed fields := by
  cases h with
  | mapping hKeys hValues => exact ⟨hKeys, hValues⟩

theorem Fields.mem_keys_put (key : String) (value : Value) (fields : Fields) (k : String) :
    k ∈ (Fields.put key value fields).map Prod.fst ↔ k = key ∨ k ∈ fields.map Prod.fst := by
  induction fields with
  | nil => simp [Fields.put]
  | cons e rest ih =>
    obtain ⟨k', v'⟩ := e
    rw [Fields.put]
    split
    · next hKey =>
      subst hKey
      simp
    · rw [List.map_cons, List.mem_cons, ih, List.map_cons, List.mem_cons]
      exact or_left_comm

/-- Setting a key keeps the others once. -/
theorem Fields.Keyed.put {key : String} {value : Value} {fields : Fields}
    (hFields : Fields.Keyed fields) (hValue : value.Keyed) :
    Fields.Keyed (Fields.put key value fields) := by
  induction fields with
  | nil => exact ⟨List.nodup_singleton key, by simpa [Fields.put] using hValue⟩
  | cons e rest ih =>
    obtain ⟨k, v⟩ := e
    obtain ⟨hKeys, hValues⟩ := hFields
    obtain ⟨hHead, hTail⟩ := List.nodup_cons.mp hKeys
    have hRest := ih ⟨hTail, fun x hx => hValues x (List.mem_cons_of_mem _ hx)⟩
    rw [Fields.put]
    split
    · next hKey =>
      subst hKey
      refine ⟨hKeys, ?_⟩
      intro x hx
      rcases List.mem_cons.mp hx with rfl | hx
      · exact hValue
      · exact hValues x (List.mem_cons_of_mem _ hx)
    · next hKey =>
      refine ⟨List.nodup_cons.mpr ⟨?_, hRest.1⟩, ?_⟩
      · rw [Fields.mem_keys_put, not_or]
        exact ⟨hKey, hHead⟩
      · intro x hx
        rcases List.mem_cons.mp hx with rfl | hx
        · exact hValues _ (List.mem_cons_self ..)
        · exact hRest.2 x hx

/-- Setting many keys keeps each of them once, however often the changes repeat a key. -/
theorem Fields.Keyed.merge {base changes : Fields} (hBase : Fields.Keyed base)
    (hChanges : ∀ e ∈ changes, e.2.Keyed) : Fields.Keyed (Fields.merge base changes) := by
  induction changes generalizing base with
  | nil => exact hBase
  | cons e rest ih =>
    exact ih (hBase.put (hChanges e (List.mem_cons_self ..)))
      fun x hx => hChanges x (List.mem_cons_of_mem _ hx)

/-- A list of entries makes a keyed mapping, however often it repeats a key. -/
theorem Fields.ofList_keyed {entries : Fields} (h : ∀ e ∈ entries, e.2.Keyed) :
    Fields.Keyed (Fields.ofList entries) :=
  Fields.Keyed.merge Fields.keyed_nil h

-- ---------------------------------------------------------------------------
-- Reading
-- ---------------------------------------------------------------------------

namespace Json

theorem readNumber_keyed {text rest : List Char} {v : Value}
    (h : readNumber text = some (v, rest)) : v.Keyed := by
  unfold readNumber at h
  dsimp only at h
  split at h
  · cases h
  · -- with and without an exponent
    split at h
    all_goals
      split at h
      · cases h
        exact .int
      · cases h
        exact .float

theorem readScalar_keyed {text rest : List Char} {v : Value}
    (h : readScalar text = .ok (v, rest)) : v.Keyed := by
  have hWords : ∀ e ∈ words, e.2.Keyed := by
    intro e he
    simp only [words, List.mem_cons, List.not_mem_nil, or_false] at he
    rcases he with rfl | rfl | rfl | rfl | rfl | rfl
    · exact .null
    · exact .bool
    · exact .bool
    · exact .float
    · exact .float
    · exact .float
  unfold readScalar at h
  split at h
  · next found hFound =>
    obtain ⟨e, he, hDrop⟩ := List.exists_of_findSome?_eq_some hFound
    obtain ⟨_, _, rfl⟩ := Option.map_eq_some_iff.mp hDrop
    cases h
    exact hWords e he
  · split at h
    · next found hNumber =>
      cases h
      exact readNumber_keyed hNumber
    · cases h

/-- What is read, value by value, item by item and entry by entry, is keyed. The
induction is on the bound of nested steps. -/
theorem readValue_keyed (fuel : Nat) :
    (∀ text v rest, readValue fuel text = .ok (v, rest) → v.Keyed) ∧
    (∀ text items rest, readItems fuel text = .ok (items, rest) → ∀ v ∈ items, v.Keyed) ∧
    (∀ text entries rest, readEntries fuel text = .ok (entries, rest) →
      ∀ e ∈ entries, e.2.Keyed) := by
  induction fuel with
  | zero =>
    refine ⟨?_, ?_, ?_⟩
    · intro text v rest h
      rw [readValue] at h
      cases h
    · intro text items rest h
      rw [readItems] at h
      cases h
    · intro text entries rest h
      rw [readEntries] at h
      cases h
  | succ fuel ih =>
    obtain ⟨ihValue, ihItems, ihEntries⟩ := ih
    refine ⟨?_, ?_, ?_⟩
    · intro text v rest h
      unfold readValue at h
      split at h
      · obtain ⟨⟨s, r⟩, _, h⟩ := exists_of_bind_ok h
        cases h
        exact .text
      · split at h
        · cases h
          exact .mapping List.nodup_nil (by simp)
        · obtain ⟨⟨entries, r⟩, hEntries, h⟩ := exists_of_bind_ok h
          cases h
          have hKeyed := Fields.ofList_keyed (ihEntries _ _ _ hEntries)
          exact .mapping hKeyed.1 hKeyed.2
      · split at h
        · cases h
          exact .list (by simp)
        · obtain ⟨⟨items, r⟩, hItems, h⟩ := exists_of_bind_ok h
          cases h
          exact .list (ihItems _ _ _ hItems)
      · exact readScalar_keyed h
    · intro text items rest h
      unfold readItems at h
      obtain ⟨⟨item, r⟩, hItem, h⟩ := exists_of_bind_ok h
      dsimp only at h
      split at h
      · cases h
        intro v hv
        rw [List.mem_singleton.mp hv]
        exact ihValue _ _ _ hItem
      · obtain ⟨⟨others, r'⟩, hOthers, h⟩ := exists_of_bind_ok h
        cases h
        intro v hv
        rcases List.mem_cons.mp hv with rfl | hv
        · exact ihValue _ _ _ hItem
        · exact ihItems _ _ _ hOthers v hv
      · cases h
    · intro text entries rest h
      unfold readEntries at h
      split at h
      · obtain ⟨⟨key, r⟩, _, h⟩ := exists_of_bind_ok h
        dsimp only at h
        split at h
        · obtain ⟨⟨value, r'⟩, hValue, h⟩ := exists_of_bind_ok h
          dsimp only at h
          split at h
          · cases h
            intro e he
            rw [List.mem_singleton.mp he]
            exact ihValue _ _ _ hValue
          · obtain ⟨⟨others, r''⟩, hOthers, h⟩ := exists_of_bind_ok h
            cases h
            intro e he
            rcases List.mem_cons.mp he with rfl | he
            · exact ihValue _ _ _ hValue
            · exact ihEntries _ _ _ hOthers e he
          · cases h
        · cases h
      · cases h

/-- **A JSON text is read as a keyed value.** -/
theorem readText_keyed {text : String} {v : Value} (h : readText text = .ok v) : v.Keyed := by
  unfold readText at h
  dsimp only at h
  split at h
  · next value hWhole =>
    cases h
    obtain ⟨⟨v', rest⟩, hValue, h⟩ := exists_of_bind_ok hWhole
    dsimp only at h
    split at h
    · cases h
      exact (readValue_keyed _).1 _ _ _ hValue
    · cases h
  · cases h

theorem read_keyed {text : String} {v : Value} (h : read text = .ok v) : v.Keyed := by
  unfold read at h
  split at h
  · cases h
  · exact readText_keyed h

end Json

end Lexicon
