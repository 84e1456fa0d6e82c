import Mathlib.Tactic.Ring
import Lexicon.Number.Double

/-!
# Lexicon — rounding of fractions

A fraction is rounded in units that are a power of two. Which power that is and what the
rounding gives depend on the value of the fraction alone, and a value that can be held exactly
is left as it is.

* `Double.Regular`              — a double as it is held: the mantissa as large as possible.
* `Double.roundDiv_congr`       — equal fractions are rounded to the same integer.
* `Double.Fits`                 — the unit under which a fraction has 53 bits; `Fits.unique`,
                                  `unitExponent_fits`.
* `Double.ofFraction_congr`     — equal fractions are rounded to the same double.
* `Double.ofFraction_exact`     — a regular double is what its own value is rounded to.

Exponents are counted from the least one, so that all of them are natural numbers.
-/

namespace Lexicon.Double

-- ---------------------------------------------------------------------------
-- Division
-- ---------------------------------------------------------------------------

theorem roundDiv_mul (num den : Nat) {k : Nat} (hk : 0 < k) :
    roundDiv (num * k) (den * k) = roundDiv num den := by
  have hQuot : num * k / (den * k) = num / den := Nat.mul_div_mul_right num den hk
  have hRest : 2 * (num * k % (den * k)) = 2 * (num % den) * k := by
    rw [Nat.mul_mod_mul_right, Nat.mul_assoc]
  have hBelow : 2 * (num % den) * k < den * k ↔ 2 * (num % den) < den :=
    Nat.mul_lt_mul_right hk
  have hAbove : den * k < 2 * (num % den) * k ↔ den < 2 * (num % den) :=
    Nat.mul_lt_mul_right hk
  simp only [roundDiv, hQuot, hRest, hBelow, hAbove]

/-- Equal fractions are rounded to the same integer. -/
theorem roundDiv_congr {num den num' den' : Nat} (hDen : 0 < den) (hDen' : 0 < den')
    (h : num * den' = num' * den) : roundDiv num den = roundDiv num' den' :=
  calc roundDiv num den
    _ = roundDiv (num * den') (den * den') := (roundDiv_mul num den hDen').symm
    _ = roundDiv (num' * den) (den' * den) := by rw [h, Nat.mul_comm den den']
    _ = roundDiv num' den' := roundDiv_mul num' den' hDen

theorem roundDiv_exact (m : Nat) {den : Nat} (hDen : 0 < den) : roundDiv (m * den) den = m := by
  have hQuot : m * den / den = m := Nat.mul_div_cancel m hDen
  simp only [roundDiv, hQuot, Nat.mul_mod_left, Nat.mul_zero, if_pos hDen]

-- ---------------------------------------------------------------------------
-- Units
-- ---------------------------------------------------------------------------

/-- What the least power of two is one part of. -/
def leastDenominator : Nat := 2 ^ minExponent.natAbs

theorem leastDenominator_eq {a b : Nat} (h : a + b = 1074) : leastDenominator = 2 ^ a * 2 ^ b := by
  have hExponent : minExponent.natAbs = a + b := h.symm
  rw [leastDenominator, hExponent, Nat.pow_add]

/-- A numerator in units of the least power of two. -/
def scaled (num : Nat) : Nat := num * leastDenominator

/-- The exponent that is `steps` above the least one. -/
def exponentOf (steps : Nat) : Int := (steps : Int) - 1074

theorem exists_exponentOf {e : Int} (h : minExponent ≤ e) : ∃ steps, e = exponentOf steps := by
  refine ⟨(e + 1074).toNat, ?_⟩
  unfold exponentOf minExponent at *
  omega

/-- The fraction in units of some power has the value that the units say. -/
theorem inUnits_cross (num : Nat) {den : Nat} (hDen : 0 < den) (steps : Nat) :
    0 < (inUnits num den (exponentOf steps)).2 ∧
    (inUnits num den (exponentOf steps)).1 * (den * 2 ^ steps)
      = scaled num * (inUnits num den (exponentOf steps)).2 := by
  unfold inUnits scaled
  split
  · next hNeg =>
    have hSteps : (-exponentOf steps).toNat + steps = 1074 := by
      unfold exponentOf at *
      omega
    refine ⟨hDen, ?_⟩
    show num * 2 ^ (-exponentOf steps).toNat * (den * 2 ^ steps) = num * leastDenominator * den
    rw [leastDenominator_eq hSteps]
    ring
  · next hPos =>
    have hSteps : steps = minExponent.natAbs + (exponentOf steps).toNat := by
      unfold exponentOf minExponent at *
      omega
    have hPow : 2 ^ steps = leastDenominator * 2 ^ (exponentOf steps).toNat := by
      rw [leastDenominator, ← Nat.pow_add, ← hSteps]
    refine ⟨Nat.mul_pos hDen (Nat.two_pow_pos _), ?_⟩
    show num * (den * 2 ^ steps) = num * leastDenominator * (den * 2 ^ (exponentOf steps).toNat)
    rw [hPow]
    ring

/-- In the unit that is `steps` above the least one, the fraction stays below `2 ^ 53`, and
the unit cannot be smaller. -/
structure Fits (num den steps : Nat) : Prop where
  below : scaled num < den * 2 ^ (53 + steps)
  above : steps = 0 ∨ den * 2 ^ (52 + steps) ≤ scaled num

theorem Fits.le {num den a b : Nat} (ha : Fits num den a) (hb : Fits num den b) : b ≤ a := by
  by_contra hLt
  obtain hZero | hAbove := hb.above
  · omega
  · have hPow : den * 2 ^ (53 + a) ≤ den * 2 ^ (52 + b) :=
      Nat.mul_le_mul_left den (Nat.pow_le_pow_right (by decide) (by omega))
    exact absurd ha.below (Nat.not_lt.mpr (Nat.le_trans hPow hAbove))

theorem Fits.unique {num den a b : Nat} (ha : Fits num den a) (hb : Fits num den b) : a = b :=
  Nat.le_antisymm (hb.le ha) (ha.le hb)

/-- Whether a unit fits depends on the value of the fraction only. -/
theorem Fits.congr {num den num' den' steps : Nat} (hDen : 0 < den) (hDen' : 0 < den')
    (h : num * den' = num' * den) (hFits : Fits num den steps) : Fits num' den' steps := by
  have hScaled : scaled num * den' = scaled num' * den := by
    show num * leastDenominator * den' = num' * leastDenominator * den
    rw [Nat.mul_right_comm, h, Nat.mul_right_comm]
  constructor
  · refine Nat.lt_of_mul_lt_mul_right (a := den) ?_
    calc scaled num' * den
      _ = scaled num * den' := hScaled.symm
      _ < den * 2 ^ (53 + steps) * den' := Nat.mul_lt_mul_of_pos_right hFits.below hDen'
      _ = den' * 2 ^ (53 + steps) * den := by ring
  · refine hFits.above.imp_right fun hAbove => ?_
    refine Nat.le_of_mul_le_mul_right ?_ hDen
    calc den' * 2 ^ (52 + steps) * den
      _ = den * 2 ^ (52 + steps) * den' := by ring
      _ ≤ scaled num * den' := Nat.mul_le_mul_right den' hAbove
      _ = scaled num' * den := hScaled

-- ---------------------------------------------------------------------------
-- The unit that is chosen
-- ---------------------------------------------------------------------------

/-- The number of binary digits, none for zero. -/
def bitCount (n : Nat) : Nat := if n = 0 then 0 else Nat.log2 n + 1

theorem lt_two_pow_bitCount (n : Nat) : n < 2 ^ bitCount n := by
  unfold bitCount
  split
  · next h => rw [h]; decide
  · exact Nat.lt_log2_self

theorem two_pow_le_of_bitCount {n bits : Nat} (h : bitCount n = bits + 1) : 2 ^ bits ≤ n := by
  unfold bitCount at h
  split at h
  · omega
  · next hn =>
    have hBits : Nat.log2 n = bits := by omega
    rw [← hBits]
    exact Nat.log2_self_le hn

/-- The guess is not too large: under it there are at least 53 bits, unless it is the least
exponent. -/
theorem guess_above {num den : Nat} (hNum : 0 < num) {guess : Nat}
    (h : exponentOf guess = max minExponent ((Nat.log2 num : Int) - (Nat.log2 den : Int) - 53)) :
    guess = 0 ∨ den * 2 ^ (52 + guess) ≤ scaled num := by
  by_cases hZero : guess = 0
  · exact .inl hZero
  · have hGuess : Nat.log2 den + 1 + (52 + guess) = Nat.log2 num + minExponent.natAbs := by
      unfold minExponent exponentOf at *
      omega
    refine .inr ?_
    calc den * 2 ^ (52 + guess)
      _ ≤ 2 ^ (Nat.log2 den + 1) * 2 ^ (52 + guess) :=
          Nat.mul_le_mul_right _ (Nat.le_of_lt Nat.lt_log2_self)
      _ = 2 ^ Nat.log2 num * leastDenominator := by
          rw [← Nat.pow_add, hGuess, Nat.pow_add, leastDenominator]
      _ ≤ num * leastDenominator := Nat.mul_le_mul_right _ (Nat.log2_self_le (by omega))

/-- **The unit that is chosen fits.** -/
theorem unitExponent_fits {num den : Nat} (hNum : 0 < num) (hDen : 0 < den) :
    ∃ steps, unitExponent num den = exponentOf steps ∧ Fits num den steps := by
  obtain ⟨guess, hGuess⟩ := exists_exponentOf
    (Int.le_max_left minExponent ((Nat.log2 num : Int) - (Nat.log2 den : Int) - 53))
  obtain ⟨hPos, hCross⟩ := inUnits_cross num hDen guess
  have hAbove := guess_above hNum hGuess.symm
  have hUnit : unitExponent num den =
      if 53 < bitCount ((inUnits num den (exponentOf guess)).1
          / (inUnits num den (exponentOf guess)).2)
      then exponentOf guess + ((bitCount ((inUnits num den (exponentOf guess)).1
          / (inUnits num den (exponentOf guess)).2) : Int) - 53)
      else exponentOf guess := by
    unfold unitExponent
    rw [hGuess]
    rfl
  rw [hUnit]
  generalize (inUnits num den (exponentOf guess)).1 = n at *
  generalize (inUnits num den (exponentOf guess)).2 = d at *
  have hBelow : scaled num < den * 2 ^ (bitCount (n / d) + guess) := by
    have hQuot : n < 2 ^ bitCount (n / d) * d :=
      (Nat.div_lt_iff_lt_mul hPos).mp (lt_two_pow_bitCount (n / d))
    refine Nat.lt_of_mul_lt_mul_right (a := d) ?_
    calc scaled num * d
      _ = n * (den * 2 ^ guess) := hCross.symm
      _ < 2 ^ bitCount (n / d) * d * (den * 2 ^ guess) :=
          Nat.mul_lt_mul_of_pos_right hQuot (Nat.mul_pos hDen (Nat.two_pow_pos guess))
      _ = den * 2 ^ (bitCount (n / d) + guess) * d := by rw [Nat.pow_add]; ring
  by_cases hBits : 53 < bitCount (n / d)
  · -- the guess is raised by the bits that are too many
    obtain ⟨extra, hExtra⟩ : ∃ extra, bitCount (n / d) = 52 + extra + 1 :=
      ⟨bitCount (n / d) - 53, by omega⟩
    refine ⟨guess + extra, ?_, ?_, .inr ?_⟩
    · rw [if_pos hBits, hExtra]
      unfold exponentOf
      omega
    · rw [hExtra] at hBelow
      rwa [show 53 + (guess + extra) = 52 + extra + 1 + guess by omega]
    · have hQuot : 2 ^ (52 + extra) * d ≤ n :=
        (Nat.le_div_iff_mul_le hPos).mp (two_pow_le_of_bitCount hExtra)
      refine Nat.le_of_mul_le_mul_right ?_ hPos
      calc den * 2 ^ (52 + (guess + extra)) * d
        _ = 2 ^ (52 + extra) * d * (den * 2 ^ guess) := by
            rw [show 52 + (guess + extra) = 52 + extra + guess by omega, Nat.pow_add]; ring
        _ ≤ n * (den * 2 ^ guess) := Nat.mul_le_mul_right _ hQuot
        _ = scaled num * d := hCross
  · refine ⟨guess, by rw [if_neg hBits], ?_, hAbove⟩
    refine Nat.lt_of_lt_of_le hBelow (Nat.mul_le_mul_left den ?_)
    exact Nat.pow_le_pow_right (by decide) (by omega)

-- ---------------------------------------------------------------------------
-- Rounding
-- ---------------------------------------------------------------------------

/-- In a unit that fits, the mantissa is the rounded quotient. -/
theorem ofFraction_eq (negative : Bool) {num den steps : Nat} (hNum : 0 < num) (hDen : 0 < den)
    (hFits : Fits num den steps) :
    ofFraction negative num den =
      if roundDiv (scaled num) (den * 2 ^ steps) = 2 ^ 53 then
        if maxExponent < exponentOf steps + 1 then infinite negative
        else finite negative (2 ^ 52) (exponentOf steps + 1)
      else if maxExponent < exponentOf steps then infinite negative
      else finite negative (roundDiv (scaled num) (den * 2 ^ steps)) (exponentOf steps) := by
  obtain ⟨chosen, hChosen, hChosenFits⟩ := unitExponent_fits hNum hDen
  obtain rfl := hFits.unique hChosenFits
  obtain ⟨hPos, hCross⟩ := inUnits_cross num hDen steps
  have hRound : roundDiv (inUnits num den (exponentOf steps)).1
      (inUnits num den (exponentOf steps)).2 = roundDiv (scaled num) (den * 2 ^ steps) :=
    roundDiv_congr hPos (Nat.mul_pos hDen (Nat.two_pow_pos steps)) hCross
  unfold ofFraction
  rw [if_neg (Nat.ne_of_gt hNum), hChosen]
  dsimp only
  rw [hRound]
  have hCarryBit : Nat.pow 2 53 = 2 ^ 53 := rfl
  rw [hCarryBit]
  by_cases hCarry : roundDiv (scaled num) (den * 2 ^ steps) = 2 ^ 53
  · rw [if_pos hCarry, if_pos hCarry]
    rfl
  · rw [if_neg hCarry, if_neg hCarry]

/-- **Equal fractions are rounded to the same double.** -/
theorem ofFraction_congr (negative : Bool) {num den num' den' : Nat} (hDen : 0 < den)
    (hDen' : 0 < den') (h : num * den' = num' * den) :
    ofFraction negative num den = ofFraction negative num' den' := by
  rcases Nat.eq_zero_or_pos num with rfl | hNum
  · have hZero : num' = 0 := by
      rw [Nat.zero_mul] at h
      exact (Nat.mul_eq_zero.mp h.symm).resolve_right (Nat.ne_of_gt hDen)
    rw [hZero]
    rfl
  · have hNum' : 0 < num' := by
      refine Nat.pos_of_ne_zero ?_
      rintro rfl
      rw [Nat.zero_mul] at h
      exact absurd h (Nat.ne_of_gt (Nat.mul_pos hNum hDen'))
    obtain ⟨steps, -, hFits⟩ := unitExponent_fits hNum hDen
    have hScaled : scaled num * (den' * 2 ^ steps) = scaled num' * (den * 2 ^ steps) := by
      show num * leastDenominator * (den' * 2 ^ steps) = num' * leastDenominator * (den * 2 ^ steps)
      calc num * leastDenominator * (den' * 2 ^ steps)
        _ = num * den' * leastDenominator * 2 ^ steps := by ring
        _ = num' * leastDenominator * (den * 2 ^ steps) := by rw [h]; ring
    rw [ofFraction_eq negative hNum hDen hFits,
      ofFraction_eq negative hNum' hDen' (hFits.congr hDen hDen' h),
      roundDiv_congr (Nat.mul_pos hDen (Nat.two_pow_pos steps))
        (Nat.mul_pos hDen' (Nat.two_pow_pos steps)) hScaled]

-- ---------------------------------------------------------------------------
-- Regular doubles
-- ---------------------------------------------------------------------------

/-- A double as it is held: zero has the least exponent, and of another finite value the
mantissa is the largest below `2 ^ 53` that an exponent of at least `-1074` admits. -/
def Regular : Double → Prop
  | finite _ mantissa exponent =>
    mantissa = 0 ∧ exponent = minExponent ∨
    0 < mantissa ∧ mantissa < 2 ^ 53 ∧ minExponent ≤ exponent ∧ exponent ≤ maxExponent ∧
      (exponent = minExponent ∨ 2 ^ 52 ≤ mantissa)
  | _ => True

/-- **A regular double is what a fraction of its own value is rounded to.** -/
theorem ofFraction_exact {negative : Bool} {m : Nat} {e : Int} (hRegular : (finite negative m e).Regular)
    (hPos : 0 < m) {steps num den : Nat} (hSteps : e = exponentOf steps) (hDen : 0 < den)
    (h : scaled num = m * (den * 2 ^ steps)) : ofFraction negative num den = finite negative m e := by
  obtain ⟨rfl, -⟩ | ⟨-, hMantissa, -, hMax, hLeast⟩ := hRegular
  · omega
  have hNum : 0 < num := by
    refine Nat.pos_of_ne_zero ?_
    rintro rfl
    have hZero : scaled 0 = 0 := Nat.zero_mul _
    rw [hZero] at h
    exact absurd h.symm (Nat.ne_of_gt
      (Nat.mul_pos hPos (Nat.mul_pos hDen (Nat.two_pow_pos steps))))
  have hFits : Fits num den steps := by
    constructor
    · calc scaled num
        _ = m * (den * 2 ^ steps) := h
        _ < 2 ^ 53 * (den * 2 ^ steps) :=
            Nat.mul_lt_mul_of_pos_right hMantissa (Nat.mul_pos hDen (Nat.two_pow_pos steps))
        _ = den * 2 ^ (53 + steps) := by rw [Nat.pow_add]; ring
    · obtain hMin | hLow := hLeast
      · left
        unfold exponentOf minExponent at *
        omega
      · right
        calc den * 2 ^ (52 + steps)
          _ = 2 ^ 52 * (den * 2 ^ steps) := by rw [Nat.pow_add]; ring
          _ ≤ m * (den * 2 ^ steps) := Nat.mul_le_mul_right _ hLow
          _ = scaled num := h.symm
  have hRound : roundDiv (scaled num) (den * 2 ^ steps) = m := by
    rw [h, roundDiv_exact m (Nat.mul_pos hDen (Nat.two_pow_pos steps))]
  rw [ofFraction_eq negative hNum hDen hFits, hRound, if_neg (Nat.ne_of_lt hMantissa), hSteps,
    if_neg (by rw [← hSteps]; exact Int.not_lt.mpr hMax)]

end Lexicon.Double
