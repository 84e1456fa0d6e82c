import Lexicon.Proofs.Encoding.Utf8
import Lexicon.Proofs.Json.Roundtrip

/-!
# Lexicon — line ends in JSON

Files are read with all line ends made line feeds. A JSON text that has been written is not
changed by that, as it has no carriage return: those in strings are escaped.

* `Json.return_not_mem` — no carriage return is written.
* `Json.fileText_write` — a file that a value has been written to holds just its text.
-/

namespace Lexicon.Json

theorem return_not_mem_digits {cs : List Char} (h : Digits cs) : '\r' ∉ cs := by
  intro hMem
  have hDigit := h '\r' hMem
  cases hDigit

theorem return_not_mem_sign (negative : Bool) : '\r' ∉ signText negative := by
  cases negative <;> decide

theorem return_not_mem_append {as bs : List Char} (ha : '\r' ∉ as) (hb : '\r' ∉ bs) :
    '\r' ∉ as ++ bs := by
  rw [List.mem_append, not_or]
  exact ⟨ha, hb⟩

theorem return_not_mem_cons {c : Char} {cs : List Char} (hc : c ≠ '\r') (h : '\r' ∉ cs) :
    '\r' ∉ c :: cs := by
  rw [List.mem_cons, not_or]
  exact ⟨Ne.symm hc, h⟩

theorem return_not_mem_escapeChar (c : Char) : '\r' ∉ escapeChar c := by
  unfold escapeChar
  split
  · decide
  split
  · decide
  split
  · decide
  split
  · decide
  next hReturn =>
  split
  · decide
  split
  · decide
  split
  · decide
  split
  · next hControl =>
    generalize c.toNat = n at hControl
    revert n
    decide
  · exact return_not_mem_cons hReturn List.not_mem_nil

theorem return_not_mem_exponentText (e : Int) : '\r' ∉ Double.exponentText e := by
  have hDigits := return_not_mem_digits (digits_toDigits e.natAbs)
  unfold Double.exponentText Double.digitsOf
  refine return_not_mem_append ?_ ?_
  · split <;> decide
  · split
    · exact return_not_mem_cons (by decide) hDigits
    · exact hDigits

theorem return_not_mem_layout {ds : List Char} (h : '\r' ∉ ds) (scale : Int) :
    '\r' ∉ Double.layout ds scale := by
  have hZeros : ∀ k, '\r' ∉ List.replicate k '0' :=
    fun k => return_not_mem_digits (digits_replicate k)
  have hExponent := return_not_mem_exponentText
  unfold Double.layout
  dsimp only
  split
  · split
    · exact return_not_mem_append (return_not_mem_append (by decide) (hZeros _)) h
    · split
      · exact return_not_mem_append (return_not_mem_append h (hZeros _)) (by decide)
      · refine return_not_mem_append (return_not_mem_append ?_ (by decide)) ?_
        · exact fun hMem => h (List.mem_of_mem_take hMem)
        · exact fun hMem => h (List.mem_of_mem_drop hMem)
  · split
    · next d _ =>
      rw [List.mem_singleton] at h
      exact return_not_mem_cons (Ne.symm h) (hExponent _)
    · next d rest _ _ =>
      rw [List.mem_cons, not_or] at h
      exact return_not_mem_cons (Ne.symm h.1)
        (return_not_mem_cons (by decide) (return_not_mem_append h.2 (hExponent _)))
    · exact List.not_mem_nil

theorem return_not_mem_double (x : Double) : '\r' ∉ x.text := by
  cases x with
  | nan => decide
  | infinite negative => cases negative <;> decide
  | finite negative m e =>
    show '\r' ∉ signText negative ++ if m = 0 then _ else _
    refine return_not_mem_append (return_not_mem_sign negative) ?_
    split
    · decide
    · refine return_not_mem_layout ?_ _
      obtain ⟨k, hSplit, -, -⟩ := trimZeros_eq (Double.digitsOf (Double.shortest m e).1)
        Nat.toDigits_ne_nil (Double.shortest m e).2
      intro hMem
      have hAll := return_not_mem_digits (digits_toDigits (Double.shortest m e).1)
      refine hAll ?_
      show '\r' ∈ Double.digitsOf (Double.shortest m e).1
      rw [hSplit]
      exact List.mem_append_left _ hMem

theorem return_not_mem_newLine (depth : Nat) : '\r' ∉ (newLine depth).toList := by
  rw [toList_newLine]
  refine return_not_mem_cons (by decide) fun hMem => ?_
  cases (List.mem_replicate.mp hMem).2

theorem return_not_mem_string (s : String) : '\r' ∉ (writeString s).toList := by
  rw [toList_writeString]
  refine return_not_mem_cons (by decide) (return_not_mem_append ?_ (by decide))
  intro hMem
  obtain ⟨c, _, hChar⟩ := List.mem_flatMap.mp hMem
  exact return_not_mem_escapeChar c hChar

/-- What is put between commas has no carriage return if its parts have none. -/
theorem return_not_mem_joined {parts : List String} (h : ∀ part ∈ parts, '\r' ∉ part.toList) :
    '\r' ∉ (",".intercalate parts).toList := by
  induction parts with
  | nil => decide
  | cons part parts ih =>
    have hPart := h part (List.mem_cons_self ..)
    cases parts with
    | nil => rwa [toList_intercalate_one]
    | cons next parts =>
      rw [toList_intercalate_cons]
      exact return_not_mem_append hPart (return_not_mem_cons (by decide)
        (ih fun p hp => h p (List.mem_cons_of_mem _ hp)))

theorem return_not_mem_items {items : List Value}
    (h : ∀ v ∈ items, ∀ depth, '\r' ∉ (writeAt depth v).toList) (depth : Nat) :
    ∀ part ∈ writeItems depth items, '\r' ∉ part.toList := by
  induction items with
  | nil =>
    intro part hPart
    rw [writeItems] at hPart
    cases hPart
  | cons v items ih =>
    rw [writeItems]
    refine List.forall_mem_cons.mpr ⟨?_, ih fun u hu => h u (List.mem_cons_of_mem _ hu)⟩
    rw [String.toList_append]
    exact return_not_mem_append (return_not_mem_newLine _) (h v (List.mem_cons_self ..) _)

theorem return_not_mem_entries {entries : Fields}
    (h : ∀ e ∈ entries, ∀ depth, '\r' ∉ (writeAt depth e.2).toList) (depth : Nat) :
    ∀ part ∈ writeEntries depth entries, '\r' ∉ part.toList := by
  induction entries with
  | nil =>
    intro part hPart
    rw [writeEntries] at hPart
    cases hPart
  | cons e entries ih =>
    obtain ⟨key, v⟩ := e
    rw [writeEntries]
    refine List.forall_mem_cons.mpr ⟨?_, ih fun u hu => h u (List.mem_cons_of_mem _ hu)⟩
    rw [String.toList_append, String.toList_append, String.toList_append]
    exact return_not_mem_append (return_not_mem_append (return_not_mem_append
      (return_not_mem_newLine _) (return_not_mem_string key)) (by decide))
      (h (key, v) (List.mem_cons_self ..) _)

/-- **No carriage return is written.** -/
theorem return_not_mem {v : Value} (h : v.Storable) (depth : Nat) :
    '\r' ∉ (writeAt depth v).toList := by
  induction h generalizing depth with
  | null =>
    rw [writeAt]
    decide
  | @bool b =>
    cases b with
    | true =>
      rw [writeAt]
      decide
    | false =>
      rw [writeAt]
      decide
  | @int n =>
    rw [writeAt, toList_toString]
    exact return_not_mem_append (return_not_mem_sign _) (return_not_mem_digits (digits_toDigits _))
  | @float x hNumber hRegular =>
    rw [writeAt]
    cases x with
    | nan => exact absurd rfl hNumber
    | infinite negative => cases negative <;> decide
    | finite negative m e =>
      show '\r' ∉ (String.ofList (Double.finite negative m e).text).toList
      rw [String.toList_ofList]
      exact return_not_mem_double _
  | @text s =>
    rw [writeAt]
    exact return_not_mem_string s
  | @list items hItems ih =>
    by_cases hNil : items = []
    · subst hNil
      rw [writeAt]
      decide
    · rw [writeAt_list depth hNil]
      refine return_not_mem_cons (by decide) (return_not_mem_append ?_
        (return_not_mem_append (return_not_mem_newLine depth) (by decide)))
      exact return_not_mem_joined (return_not_mem_items ih _)
  | @mapping entries hKeys hValues ih =>
    by_cases hNil : entries = []
    · subst hNil
      rw [writeAt]
      decide
    · rw [writeAt_mapping depth hNil]
      refine return_not_mem_cons (by decide) (return_not_mem_append ?_
        (return_not_mem_append (return_not_mem_newLine depth) (by decide)))
      exact return_not_mem_joined (return_not_mem_entries ih _)

/-- **A file that a value has been written to holds just its text.** -/
theorem fileText_write {v : Value} (h : v.Storable) :
    Encoding.fileText (Encoding.Utf8.encode (write v)) = .ok (write v).toList :=
  Encoding.fileText_encode (return_not_mem h 0)

end Lexicon.Json
