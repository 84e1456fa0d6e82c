import Lexicon.Json.Reader
import Lexicon.Json.Writer

/-!
# Lexicon — strings in JSON, written and read

A string is written between quotes, with escapes for what may not stand there. Read back, each
character comes from its own escape.

* `Json.readString_unicode`, `readString_escaped`, `readString_plain` — the three forms that a
                              character may have.
* `Json.readString_escapeChar` — one character is read back.
* `Json.readString_write`   — a string is read back, up to its closing quote.
-/

namespace Lexicon.Json

-- ---------------------------------------------------------------------------
-- Strings
-- ---------------------------------------------------------------------------

/-- An escape of a code point, when something follows it. -/
theorem readString_unicode {a b c d : Char} {n : Nat} (hHex : hex4? a b c d = some n)
    (hHalf : isHighHalf n = false) (opening : Nat) {rest : List Char} (hRest : rest ≠ []) :
    readString opening ('\\' :: 'u' :: a :: b :: c :: d :: rest)
      = consChar (codePoint n) (readString opening rest) := by
  conv =>
    lhs
    rw [readString.eq_def]
  split
  · next h => cases h
  · next h => cases h
  · next h =>
    cases h
    dsimp only
    rw [hHex]
    dsimp only
    rw [hHalf]
    rfl
  · next h =>
    cases h
    rw [hHex]
  · next r hNo hShort h =>
    cases h
    obtain ⟨next, tail, rfl⟩ := List.exists_cons_of_ne_nil hRest
    exact absurd rfl (hShort a b c d next tail)
  · next h => cases h
  · next hLetter h =>
    cases h
    exact (hLetter rfl).elim
  · next hSlash h =>
    cases h
    exact (hSlash _ _ rfl rfl).elim

/-- An escape of one letter. -/
theorem readString_escaped {c d : Char} (hc : escaped? c = some d) (opening : Nat)
    (rest : List Char) :
    readString opening ('\\' :: c :: rest) = consChar d (readString opening rest) := by
  have hLetter : c ≠ 'u' := by
    rintro rfl
    cases hc
  conv =>
    lhs
    rw [readString.eq_def]
  split
  · next h => cases h
  · next h => cases h
  · next h =>
    cases h
    exact absurd rfl hLetter
  · next h =>
    cases h
    exact absurd rfl hLetter
  · next h =>
    cases h
    exact absurd rfl hLetter
  · next h => cases h
  · next h =>
    cases h
    rw [hc]
  · next hSlash h =>
    cases h
    exact (hSlash _ _ rfl rfl).elim

/-- A character that stands for itself. -/
theorem readString_plain {c : Char} (hQuote : c ≠ '"') (hSlash : c ≠ '\\')
    (hControl : ¬ c.toNat < 0x20) (opening : Nat) (rest : List Char) :
    readString opening (c :: rest) = consChar c (readString opening rest) := by
  conv =>
    lhs
    rw [readString.eq_def]
  split
  · next h => cases h
  · next h =>
    cases h
    exact absurd rfl hQuote
  · next h =>
    cases h
    exact absurd rfl hSlash
  · next h =>
    cases h
    exact absurd rfl hSlash
  · next h =>
    cases h
    exact absurd rfl hSlash
  · next h =>
    cases h
    exact absurd rfl hSlash
  · next h =>
    cases h
    exact absurd rfl hSlash
  · next h =>
    cases h
    rw [if_neg hControl]

/-- The digits of a control character. -/
theorem hexDigits_control : ∀ n < 32, ∃ a b c d,
    hexDigits 4 n = [a, b, c, d] ∧ hex4? a b c d = some n ∧ isHighHalf n = false ∧
      isLowHalf n = false := by
  intro n hn
  refine ⟨_, _, _, _, rfl, ?_⟩
  revert n
  decide

/-- One character is read back from what is written for it. -/
theorem readString_escapeChar (c : Char) (opening : Nat) {rest : List Char} (hRest : rest ≠ []) :
    readString opening (escapeChar c ++ rest) = consChar c (readString opening rest) := by
  unfold escapeChar
  split
  · next h =>
    subst h
    exact readString_escaped rfl opening rest
  split
  · next h =>
    subst h
    exact readString_escaped rfl opening rest
  split
  · next h =>
    subst h
    exact readString_escaped rfl opening rest
  split
  · next h =>
    subst h
    exact readString_escaped rfl opening rest
  split
  · next h =>
    subst h
    exact readString_escaped rfl opening rest
  split
  · next h =>
    subst h
    exact readString_escaped rfl opening rest
  split
  · next h =>
    subst h
    exact readString_escaped rfl opening rest
  split
  · next hControl =>
    obtain ⟨h₁, h₂, h₃, h₄, hDigits, hHex, hHigh, hLow⟩ := hexDigits_control c.toNat hControl
    have hChar : codePoint c.toNat = c := by
      rw [codePoint, hHigh, hLow]
      exact Char.ofNat_toNat c
    rw [hDigits]
    show readString opening ('\\' :: 'u' :: h₁ :: h₂ :: h₃ :: h₄ :: rest) = _
    rw [readString_unicode hHex hHigh opening hRest, hChar]
  · next hQuote hSlash _ _ _ _ _ hControl =>
    exact readString_plain hQuote hSlash hControl opening rest

/-- **A string is read back**, up to its closing quote. -/
theorem readString_write (opening : Nat) (cs rest : List Char) :
    readString opening (cs.flatMap escapeChar ++ '"' :: rest) = .ok (cs, rest) := by
  induction cs with
  | nil => rw [List.flatMap_nil, List.nil_append, readString]
  | cons c cs ih =>
    rw [List.flatMap_cons, List.append_assoc, readString_escapeChar c opening (by simp), ih]
    rfl

theorem toList_writeString (s : String) :
    (writeString s).toList = '"' :: (s.toList.flatMap escapeChar ++ ['"']) := by
  rw [writeString, String.toList_ofList]
  rfl

end Lexicon.Json
