import Lexicon.Json.Reader
import Lexicon.Json.Writer
import Lexicon.Proofs.Number.Shortest

/-!
# Lexicon — numbers in JSON, written and read

Every number that is written is read as it was, an integer from its digits and a double from
the shortest decimal that reads back to it, in each of the layouts.

* `Json.Stops`             — what may follow a value in a text that has been written.
* `Json.readNumber_int`    — an integer is read back.
* `Json.readNumber_layout` — the layout of a decimal is read as that decimal.
* `Json.readNumber_double` — a finite double is read back.
-/

namespace Lexicon.Json

open Lexicon.Double

-- ---------------------------------------------------------------------------
-- Digits
-- ---------------------------------------------------------------------------

/-- The text consists of decimal digits. -/
def Digits (cs : List Char) : Prop := ∀ c ∈ cs, c.isDigit = true

theorem digits_toDigits (n : Nat) : Digits (Nat.toDigits 10 n) :=
  fun _ hc => Nat.isDigit_of_mem_toDigits (by decide) (by decide) hc

theorem Digits.append {as bs : List Char} (ha : Digits as) (hb : Digits bs) : Digits (as ++ bs) := by
  intro c hc
  rcases List.mem_append.mp hc with hc | hc
  · exact ha c hc
  · exact hb c hc

theorem digits_replicate (k : Nat) : Digits (List.replicate k '0') := by
  intro c hc
  rw [(List.mem_replicate.mp hc).2]
  rfl

theorem digitsValue_eq (cs : List Char) : digitsValue cs = Nat.ofDigitChars 10 cs 0 := by
  rw [digitsValue, Nat.ofDigitChars_eq_foldl]
  congr 1
  funext n c
  rw [Nat.mul_comm]
  rfl

theorem digitsValue_toDigits (n : Nat) : digitsValue (Nat.toDigits 10 n) = n := by
  rw [digitsValue_eq, Nat.ofDigitChars_ten_toDigits]

/-- Zeros behind a number multiply it. -/
theorem digitsValue_zeros (cs : List Char) (k : Nat) :
    digitsValue (cs ++ List.replicate k '0') = digitsValue cs * 10 ^ k := by
  rw [digitsValue_eq, digitsValue_eq, Nat.ofDigitChars_append, Nat.ofDigitChars_replicate_zero,
    Nat.mul_comm]

/-- Zeros before a number do not count. -/
theorem digitsValue_leading (k : Nat) (cs : List Char) :
    digitsValue (List.replicate k '0' ++ cs) = digitsValue cs := by
  rw [digitsValue_eq, digitsValue_eq, Nat.ofDigitChars_append, Nat.ofDigitChars_replicate_zero,
    Nat.mul_zero]

/-- The digits of a number that is not zero begin with another digit than zero. -/
theorem head_toDigits {n : Nat} (hn : 0 < n) {rest : List Char}
    (h : Nat.toDigits 10 n = '0' :: rest) : False := by
  induction n using Nat.strongRecOn generalizing rest with
  | _ n ih =>
    by_cases hSmall : n < 10
    · rw [Nat.toDigits_of_lt_base hSmall] at h
      have hZero : ∀ d, d < 10 → 0 < d → d.digitChar ≠ '0' := by decide
      exact hZero n hSmall hn (List.cons.inj h).1
    · rw [Nat.toDigits_of_base_le (by decide) (by omega)] at h
      cases hQuot : Nat.toDigits 10 (n / 10) with
      | nil => exact Nat.toDigits_ne_nil hQuot
      | cons c cs =>
        rw [hQuot] at h
        obtain ⟨rfl, -⟩ := List.cons.inj h
        exact ih (n / 10) (by omega) (by omega) hQuot

-- ---------------------------------------------------------------------------
-- What follows
-- ---------------------------------------------------------------------------

/-- What follows a value in a text that has been written: nothing, a comma or a new line. -/
def Stops (rest : List Char) : Prop := ∀ c tail, rest = c :: tail → c = ',' ∨ c = '\n'

theorem stops_nil : Stops [] := fun _ _ h => by cases h

theorem stops_comma (tail : List Char) : Stops (',' :: tail) := by
  intro c tail' h
  cases h
  exact .inl rfl

theorem stops_newline (tail : List Char) : Stops ('\n' :: tail) := by
  intro c tail' h
  cases h
  exact .inr rfl

/-- The text does not go on with a digit. -/
def NoDigit (rest : List Char) : Prop := ∀ c tail, rest = c :: tail → c.isDigit = false

theorem noDigit_cons {c : Char} (h : c.isDigit = false) (tail : List Char) : NoDigit (c :: tail) := by
  intro c' tail' hEq
  cases hEq
  exact h

theorem Stops.noDigit {rest : List Char} (h : Stops rest) : NoDigit rest := by
  intro c tail hEq
  rcases h c tail hEq with rfl | rfl <;> rfl

theorem NoDigit.takeWhile {rest : List Char} (h : NoDigit rest) {ds : List Char} (hds : Digits ds) :
    (ds ++ rest).takeWhile Char.isDigit = ds := by
  rw [List.takeWhile_append_of_pos hds]
  cases rest with
  | nil => exact List.append_nil ds
  | cons c tail => rw [List.takeWhile_cons_of_neg (by rw [h c tail rfl]; decide), List.append_nil]

theorem NoDigit.dropWhile {rest : List Char} (h : NoDigit rest) {ds : List Char} (hds : Digits ds) :
    (ds ++ rest).dropWhile Char.isDigit = rest := by
  rw [List.dropWhile_append_of_pos hds]
  cases rest with
  | nil => rfl
  | cons c tail => rw [List.dropWhile_cons_of_neg (by rw [h c tail rfl]; decide)]

-- ---------------------------------------------------------------------------
-- Parts of a number
-- ---------------------------------------------------------------------------

/-- Digits that do not begin with a zero are the whole part. -/
theorem takeWhole_digits {ds rest : List Char} (hNil : ds ≠ []) (hHead : ∀ tail, ds ≠ '0' :: tail)
    (hds : Digits ds) (hRest : NoDigit rest) : takeWhole (ds ++ rest) = some (ds, rest) := by
  obtain ⟨d, ds, rfl⟩ := List.exists_cons_of_ne_nil hNil
  have hDigit : d.isDigit = true := hds d (List.mem_cons_self ..)
  have hTail : Digits ds := fun c hc => hds c (List.mem_cons_of_mem _ hc)
  show takeWhole (d :: (ds ++ rest)) = _
  unfold takeWhole
  split
  · next hEq =>
    obtain ⟨rfl, -⟩ := List.cons.inj hEq
    exact absurd rfl (hHead ds)
  · next c tail hNe hEq =>
    cases hEq
    rw [if_pos hDigit, hRest.takeWhile hTail, hRest.dropWhile hTail]
  · next hEq => cases hEq

theorem takeFraction_digits {ds rest : List Char} (hNil : ds ≠ []) (hds : Digits ds)
    (hRest : NoDigit rest) : takeFraction ('.' :: (ds ++ rest)) = some (ds, rest) := by
  obtain ⟨d, ds, rfl⟩ := List.exists_cons_of_ne_nil hNil
  simp only [takeFraction, hRest.takeWhile hds, hRest.dropWhile hds]

theorem takeFraction_none {rest : List Char} (h : ∀ tail, rest ≠ '.' :: tail) :
    takeFraction rest = none := by
  unfold takeFraction
  split
  · next tail => exact absurd rfl (h tail)
  · rfl

theorem Stops.takeFraction {rest : List Char} (h : Stops rest) : takeFraction rest = none := by
  refine takeFraction_none fun tail hEq => ?_
  rcases h '.' tail hEq with hc | hc <;> cases hc

theorem Stops.takeExponent {rest : List Char} (h : Stops rest) : takeExponent rest = none := by
  cases rest with
  | nil => rfl
  | cons c tail =>
    rcases h c tail rfl with rfl | rfl <;> rfl

/-- An exponent that has been written is read back. -/
theorem takeExponent_exponentText (e : Int) {rest : List Char} (hRest : NoDigit rest) :
    takeExponent (exponentText e ++ rest) = some (e, rest) := by
  -- the digits, with a zero before them where there is only one
  obtain ⟨ds, hText, hDigits, hValue, hNil⟩ : ∃ ds, exponentText e
      = (if e < 0 then ['e', '-'] else ['e', '+']) ++ ds ∧ Digits ds ∧
        digitsValue ds = e.natAbs ∧ ds ≠ [] := by
    refine ⟨_, rfl, ?_, ?_, ?_⟩
    · split
      · exact Digits.append (digits_replicate 1) (digits_toDigits _)
      · exact digits_toDigits _
    · split
      · exact (digitsValue_leading 1 _).trans (digitsValue_toDigits _)
      · exact digitsValue_toDigits _
    · split
      · exact List.cons_ne_nil _ _
      · exact Nat.toDigits_ne_nil
  obtain ⟨d, ds, rfl⟩ := List.exists_cons_of_ne_nil hNil
  have hTake : (d :: (ds ++ rest)).takeWhile Char.isDigit = d :: ds := hRest.takeWhile hDigits
  have hDrop : (d :: (ds ++ rest)).dropWhile Char.isDigit = rest := hRest.dropWhile hDigits
  rw [hText]
  split
  · next hNeg =>
    simp only [List.cons_append, List.nil_append, takeExponent, hTake, hDrop]
    show some (-(digitsValue (d :: ds) : Int), rest) = _
    rw [hValue]
    congr 2
    omega
  · next hPos =>
    simp only [List.cons_append, List.nil_append, takeExponent, hTake, hDrop]
    show some ((digitsValue (d :: ds) : Int), rest) = _
    rw [hValue]
    congr 2
    omega

-- ---------------------------------------------------------------------------
-- Numbers
-- ---------------------------------------------------------------------------

/-- The sign of a number. -/
def signText (negative : Bool) : List Char := if negative then ['-'] else []

/-- What is read behind a sign: the whole part, then a fraction and an exponent if they are
there. -/
theorem readNumber_sign (negative : Bool) {body whole rest : List Char}
    (hWhole : takeWhole body = some (whole, rest)) :
    readNumber (signText negative ++ body) =
      let (fraction, rest') := (takeFraction rest).getD ([], rest)
      let (exponent?, rest'') := match takeExponent rest' with
        | some (e, r) => (some e, r)
        | none => (none, rest')
      if fraction.isEmpty && exponent?.isNone then
        some (.int (if negative then -(digitsValue whole : Int) else digitsValue whole), rest'')
      else
        some (.float (ofDecimal negative (digitsValue (whole ++ fraction))
          (exponent?.getD 0 - (fraction.length : Int))), rest'') := by
  have hBody : ∀ tail, body ≠ '-' :: tail := by
    rintro tail rfl
    cases hWhole
  unfold readNumber
  split
  next negative' unsigned hSplit =>
  have hParts : negative' = negative ∧ unsigned = body := by
    cases negative with
    | true =>
      cases hSplit
      exact ⟨rfl, rfl⟩
    | false =>
      split at hSplit
      · next tail hEq => exact absurd hEq (hBody tail)
      · cases hSplit
        exact ⟨rfl, rfl⟩
  obtain ⟨rfl, rfl⟩ := hParts
  split
  · next hNone =>
    rw [hWhole] at hNone
    cases hNone
  · next hSome =>
    rw [hWhole] at hSome
    cases hSome
    rfl

/-- The digits of a number are its whole part. -/
theorem takeWhole_toDigits (n : Nat) {rest : List Char} (hRest : NoDigit rest) :
    takeWhole (Nat.toDigits 10 n ++ rest) = some (Nat.toDigits 10 n, rest) := by
  rcases Nat.eq_zero_or_pos n with rfl | hPos
  · rfl
  · refine takeWhole_digits Nat.toDigits_ne_nil ?_ (digits_toDigits n) hRest
    exact fun tail hEq => head_toDigits hPos hEq

theorem toList_toString (n : Int) :
    (toString n).toList = signText (n < 0) ++ Nat.toDigits 10 n.natAbs := by
  cases n with
  | ofNat m =>
    show (toString m).toList = _
    rw [Nat.toString_eq_ofList_toDigits, String.toList_ofList]
    rfl
  | negSucc m =>
    have hSign : decide (Int.negSucc m < 0) = true := decide_eq_true (Int.negSucc_lt_zero m)
    show ("-" ++ toString (m + 1)).toList = _
    rw [hSign, Nat.toString_eq_ofList_toDigits, String.toList_append,
      @String.toList_ofList (Nat.toDigits 10 (m + 1))]
    rfl

/-- **An integer is read back.** -/
theorem readNumber_int (n : Int) {rest : List Char} (hRest : Stops rest) :
    readNumber ((toString n).toList ++ rest) = some (.int n, rest) := by
  have hSign : (if decide (n < 0) = true then -(n.natAbs : Int) else n.natAbs) = n := by
    by_cases hNeg : n < 0
    · rw [if_pos (decide_eq_true hNeg)]
      omega
    · rw [if_neg (by simpa using hNeg)]
      omega
  rw [toList_toString, List.append_assoc,
    readNumber_sign _ (takeWhole_toDigits n.natAbs hRest.noDigit), hRest.takeFraction]
  dsimp only [Option.getD_none]
  rw [hRest.takeExponent]
  show some (Value.int (if _ then _ else _), rest) = _
  rw [digitsValue_toDigits, hSign]

/-- A number with a fraction is read as the decimal that its digits write. -/
theorem readNumber_fraction (negative : Bool) {body whole fraction rest rest' : List Char}
    (hWhole : takeWhole body = some (whole, rest))
    (hFraction : takeFraction rest = some (fraction, rest')) (hNil : fraction ≠ [])
    (hExponent : takeExponent rest' = none) :
    readNumber (signText negative ++ body) = some (.float (ofDecimal negative
      (digitsValue (whole ++ fraction)) (-(fraction.length : Int))), rest') := by
  rw [readNumber_sign negative hWhole, hFraction]
  dsimp only [Option.getD_some]
  rw [hExponent]
  dsimp only [Option.getD_none]
  rw [List.isEmpty_eq_false_iff.mpr hNil, Int.zero_sub]
  rfl

/-- A number with an exponent is read as the decimal that its digits and the exponent write,
whether it has a fraction or not. -/
theorem readNumber_exponent (negative : Bool) {body whole fraction rest rest' rest'' : List Char}
    {exponent : Int} (hWhole : takeWhole body = some (whole, rest))
    (hFraction : (takeFraction rest).getD ([], rest) = (fraction, rest'))
    (hExponent : takeExponent rest' = some (exponent, rest'')) :
    readNumber (signText negative ++ body) = some (.float (ofDecimal negative
      (digitsValue (whole ++ fraction)) (exponent - (fraction.length : Int))), rest'') := by
  rw [readNumber_sign negative hWhole, hFraction]
  dsimp only
  rw [hExponent]
  dsimp only [Option.getD_some]
  rw [Option.isNone_some, Bool.and_false]
  rfl

theorem noDigit_exponentText (e : Int) (rest : List Char) : NoDigit (exponentText e ++ rest) := by
  unfold exponentText
  split
  · exact noDigit_cons rfl _
  · exact noDigit_cons rfl _

theorem takeFraction_exponentText (e : Int) (rest : List Char) :
    takeFraction (exponentText e ++ rest) = none := by
  refine takeFraction_none fun tail hEq => ?_
  unfold exponentText at hEq
  split at hEq
  · cases hEq
  · cases hEq

section Layout

variable {ds rest : List Char}

/-- Below one there are zeros behind the point. -/
theorem readNumber_below (negative : Bool) (hNil : ds ≠ []) (hDigits : Digits ds) (zeros : Nat)
    (hRest : Stops rest) :
    readNumber (signText negative ++ (['0', '.'] ++ List.replicate zeros '0' ++ ds ++ rest))
      = some (.float (ofDecimal negative (digitsValue ds) (-((zeros + ds.length : Nat) : Int))),
          rest) := by
  have hText : ['0', '.'] ++ List.replicate zeros '0' ++ ds ++ rest
      = '0' :: '.' :: (List.replicate zeros '0' ++ ds ++ rest) := by simp
  have hValue : digitsValue (['0'] ++ (List.replicate zeros '0' ++ ds)) = digitsValue ds :=
    digitsValue_leading (zeros + 1) ds
  rw [hText, readNumber_fraction negative rfl
    (takeFraction_digits (by simp [hNil]) ((digits_replicate zeros).append hDigits) hRest.noDigit)
    (by simp [hNil]) hRest.takeExponent, hValue, List.length_append, List.length_replicate]

/-- An integer has zeros before the point. -/
theorem readNumber_above (negative : Bool) (hNil : ds ≠ []) (hHead : ∀ tail, ds ≠ '0' :: tail)
    (hDigits : Digits ds) (hPos : 0 < digitsValue ds) (zeros : Nat) (hRest : Stops rest) :
    readNumber (signText negative ++ (ds ++ List.replicate zeros '0' ++ ['.', '0'] ++ rest))
      = some (.float (ofDecimal negative (digitsValue ds) zeros), rest) := by
  have hText : ds ++ List.replicate zeros '0' ++ ['.', '0'] ++ rest
      = (ds ++ List.replicate zeros '0') ++ '.' :: (['0'] ++ rest) := by simp
  have hWhole : takeWhole ((ds ++ List.replicate zeros '0') ++ '.' :: (['0'] ++ rest))
      = some (ds ++ List.replicate zeros '0', '.' :: (['0'] ++ rest)) := by
    refine takeWhole_digits (by simp [hNil]) ?_ (hDigits.append (digits_replicate zeros))
      (noDigit_cons rfl _)
    intro tail hEq
    obtain ⟨d, ds, rfl⟩ := List.exists_cons_of_ne_nil hNil
    obtain ⟨rfl, -⟩ := List.cons.inj hEq
    exact hHead ds rfl
  -- the zero behind the point is one more digit
  have hValue : digitsValue (ds ++ List.replicate zeros '0' ++ ['0'])
      = digitsValue ds * 10 ^ (zeros + 1) := by
    rw [← digitsValue_zeros ds (zeros + 1), List.replicate_succ', List.append_assoc]
  have hScale : -((['0'] : List Char).length : Int) + ((zeros + 1 : Nat) : Int) = zeros := by
    show -(1 : Int) + ((zeros + 1 : Nat) : Int) = zeros
    omega
  rw [hText, readNumber_fraction negative hWhole
    (takeFraction_digits (by simp) (digits_replicate 1) hRest.noDigit) (by simp)
    hRest.takeExponent, hValue, ofDecimal_shift negative hPos, hScale]

/-- In between, the point is among the digits. -/
theorem readNumber_among (negative : Bool) (hHead : ∀ tail, ds ≠ '0' :: tail) (hDigits : Digits ds)
    {point : Nat} (hPoint : 0 < point) (hLess : point < ds.length) (hRest : Stops rest) :
    readNumber (signText negative ++ (ds.take point ++ ['.'] ++ ds.drop point ++ rest))
      = some (.float (ofDecimal negative (digitsValue ds) (-((ds.length - point : Nat) : Int))),
          rest) := by
  have hText : ds.take point ++ ['.'] ++ ds.drop point ++ rest
      = ds.take point ++ '.' :: (ds.drop point ++ rest) := by simp
  have hWhole : takeWhole (ds.take point ++ '.' :: (ds.drop point ++ rest))
      = some (ds.take point, '.' :: (ds.drop point ++ rest)) := by
    refine takeWhole_digits ?_ ?_ (fun c hc => hDigits c (List.mem_of_mem_take hc))
      (noDigit_cons rfl _)
    · rw [← List.length_pos_iff, List.length_take]
      omega
    · intro tail hEq
      obtain ⟨p, rfl⟩ : ∃ p, point = p + 1 := ⟨point - 1, by omega⟩
      obtain ⟨d, ds, rfl⟩ := List.exists_cons_of_length_pos (Nat.lt_trans hPoint hLess)
      obtain ⟨rfl, -⟩ := List.cons.inj hEq
      exact hHead ds rfl
  have hFraction : ds.drop point ≠ [] := by
    rw [← List.length_pos_iff, List.length_drop]
    omega
  rw [hText, readNumber_fraction negative hWhole
    (takeFraction_digits hFraction (fun c hc => hDigits c (List.mem_of_mem_drop hc))
      hRest.noDigit) hFraction hRest.takeExponent, List.take_append_drop, List.length_drop]

/-- With an exponent there is a point where there are several digits. -/
theorem readNumber_exponential (negative : Bool) {d : Char} (hHead : d ≠ '0')
    (hDigits : Digits (d :: ds)) (e : Int) (hRest : Stops rest) :
    readNumber (signText negative ++
        (d :: (if ds.isEmpty then [] else '.' :: ds) ++ exponentText e ++ rest))
      = some (.float (ofDecimal negative (digitsValue (d :: ds)) (e - (ds.length : Int))),
          rest) := by
  have hTake := takeExponent_exponentText e hRest.noDigit
  have hOne : ∀ tail, [d] ≠ '0' :: tail := fun tail hEq => hHead (List.cons.inj hEq).1
  have hDigit : Digits [d] := List.forall_mem_singleton.mpr (hDigits d (List.mem_cons_self ..))
  rw [List.append_assoc]
  cases ds with
  | nil =>
    have hWhole : takeWhole ([d] ++ (exponentText e ++ rest))
        = some ([d], exponentText e ++ rest) :=
      takeWhole_digits (by simp) hOne hDigit (noDigit_exponentText e rest)
    have hFraction : (takeFraction (exponentText e ++ rest)).getD ([], exponentText e ++ rest)
        = ([], exponentText e ++ rest) := by
      rw [takeFraction_exponentText]
      rfl
    exact readNumber_exponent negative hWhole hFraction hTake
  | cons c cs =>
    have hMore : Digits (c :: cs) := fun x hx => hDigits x (List.mem_cons_of_mem _ hx)
    have hWhole : takeWhole ([d] ++ '.' :: (c :: cs ++ (exponentText e ++ rest)))
        = some ([d], '.' :: (c :: cs ++ (exponentText e ++ rest))) :=
      takeWhole_digits (by simp) hOne hDigit (noDigit_cons rfl _)
    have hFraction : (takeFraction ('.' :: (c :: cs ++ (exponentText e ++ rest)))).getD
        ([], '.' :: (c :: cs ++ (exponentText e ++ rest)))
        = (c :: cs, exponentText e ++ rest) := by
      rw [takeFraction_digits (by simp) hMore (noDigit_exponentText e rest)]
      rfl
    exact readNumber_exponent negative hWhole hFraction hTake

/-- **The layout of a decimal is read as that decimal**, whether it is positional or not. -/
theorem readNumber_layout (negative : Bool) (hNil : ds ≠ [])
    (hHead : ∀ tail, ds ≠ '0' :: tail) (hDigits : Digits ds) (hPos : 0 < digitsValue ds)
    (scale : Int) (hRest : Stops rest) :
    readNumber (signText negative ++ (layout ds scale ++ rest))
      = some (.float (ofDecimal negative (digitsValue ds) scale), rest) := by
  have hLength : 0 < ds.length := List.length_pos_iff.mpr hNil
  unfold layout
  dsimp only
  split
  · split
    · have hScale : -(((-((ds.length : Int) + scale)).toNat + ds.length : Nat) : Int) = scale := by
        omega
      rw [readNumber_below negative hNil hDigits _ hRest, hScale]
    · split
      · have hScale : (scale.toNat : Int) = scale := Int.toNat_of_nonneg (by omega)
        rw [readNumber_above negative hNil hHead hDigits hPos _ hRest, hScale]
      · have hScale : -((ds.length - ((ds.length : Int) + scale).toNat : Nat) : Int) = scale := by
          omega
        rw [readNumber_among negative hHead hDigits (by omega) (by omega) hRest, hScale]
  · obtain ⟨d, ds, rfl⟩ := List.exists_cons_of_ne_nil hNil
    have hFirst : d ≠ '0' := fun hZero => hHead ds (hZero ▸ rfl)
    have hScale : ((d :: ds).length : Int) + scale - 1 - (ds.length : Int) = scale := by
      rw [List.length_cons]
      omega
    have hRead := readNumber_exponential negative hFirst hDigits
      (((d :: ds).length : Int) + scale - 1) hRest
    rw [hScale] at hRead
    cases ds <;> exact hRead

end Layout

-- ---------------------------------------------------------------------------
-- Doubles
-- ---------------------------------------------------------------------------

/-- Moving zeros into the power of ten takes only zeros from the digits, and not all digits. -/
theorem trimZeros_eq (ds : List Char) (hNil : ds ≠ []) (scale : Int) :
    ∃ k, ds = (trimZeros ds scale).1 ++ List.replicate k '0' ∧
      (trimZeros ds scale).2 = scale + k ∧ (trimZeros ds scale).1 ≠ [] := by
  unfold trimZeros
  dsimp only
  split
  · exact ⟨0, (List.append_nil ds).symm, (Int.add_zero scale).symm, hNil⟩
  · next hSome =>
    have hZeros : ds.reverse.takeWhile (· == '0')
        = List.replicate (ds.reverse.takeWhile (· == '0')).length '0' :=
      List.eq_replicate_of_mem fun c hc => eq_of_beq (List.all_eq_true.mp List.all_takeWhile c hc)
    have hParts := @List.takeWhile_append_dropWhile Char (· == '0') ds.reverse
    rw [hZeros] at hParts
    generalize (ds.reverse.takeWhile (· == '0')).length = k at hSome hParts
    obtain ⟨front, rfl⟩ : ∃ front, ds = front ++ List.replicate k '0' := by
      refine ⟨(ds.reverse.dropWhile (· == '0')).reverse, ?_⟩
      have hReverse := congrArg List.reverse hParts
      rw [List.reverse_append, List.reverse_replicate, List.reverse_reverse] at hReverse
      exact hReverse.symm
    have hCount : (front ++ List.replicate k '0').length - k = front.length := by
      rw [List.length_append, List.length_replicate, Nat.add_sub_cancel]
    rw [hCount, List.take_left]
    refine ⟨k, rfl, rfl, ?_⟩
    rintro rfl
    exact hSome (by simp)

/-- **A finite double is read back.** -/
theorem readNumber_double {negative : Bool} {m : Nat} {e : Int}
    (hRegular : (finite negative m e).Regular) {rest : List Char} (hRest : Stops rest) :
    readNumber ((finite negative m e).text ++ rest) = some (.float (finite negative m e), rest) := by
  rcases Nat.eq_zero_or_pos m with rfl | hPos
  · obtain ⟨-, rfl⟩ | ⟨hNonzero, -⟩ := hRegular
    · have hWhole : takeWhole ('0' :: '.' :: (['0'] ++ rest)) = some (['0'], '.' :: (['0'] ++ rest)) :=
        rfl
      show readNumber (signText negative ++ ['0', '.', '0'] ++ rest) = _
      rw [List.append_assoc]
      exact readNumber_fraction negative hWhole
        (takeFraction_digits (by simp) (digits_replicate 1) hRest.noDigit) (by simp)
        hRest.takeExponent
    · exact absurd hNonzero (Nat.lt_irrefl 0)
  · have hShortest : 0 < (shortest m e).1 := shortest_pos hRegular hPos
    obtain ⟨k, hSplit, hScale, hNil⟩ := trimZeros_eq (digitsOf (shortest m e).1)
      Nat.toDigits_ne_nil (shortest m e).2
    have hText : (finite negative m e).text ++ rest
        = signText negative ++ (layout (trimZeros (digitsOf (shortest m e).1) (shortest m e).2).1
            (trimZeros (digitsOf (shortest m e).1) (shortest m e).2).2 ++ rest) := by
      show (signText negative ++ if m = 0 then _ else _) ++ rest = _
      rw [if_neg (Nat.ne_of_gt hPos), List.append_assoc]
    rw [hText, hScale]
    generalize (trimZeros (digitsOf (shortest m e).1) (shortest m e).2).1 = ds at hSplit hNil
    -- the digits are those of the shortest decimal, without the zeros at its end
    have hDigits : Digits ds := by
      intro c hc
      refine digits_toDigits (shortest m e).1 c ?_
      show c ∈ digitsOf (shortest m e).1
      rw [hSplit]
      exact List.mem_append_left _ hc
    have hHead : ∀ tail, ds ≠ '0' :: tail := by
      rintro tail rfl
      exact head_toDigits hShortest hSplit
    have hValue : digitsValue ds * 10 ^ k = (shortest m e).1 := by
      rw [← digitsValue_zeros, ← hSplit]
      exact digitsValue_toDigits _
    have hValuePos : 0 < digitsValue ds := by
      refine Nat.pos_of_ne_zero fun hZero => ?_
      rw [hZero, Nat.zero_mul] at hValue
      omega
    rw [readNumber_layout negative hNil hHead hDigits hValuePos _ hRest,
      ← ofDecimal_shift negative hValuePos, hValue, shortest_reads hRegular hPos]

end Lexicon.Json
