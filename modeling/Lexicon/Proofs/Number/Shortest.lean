import Lexicon.Proofs.Number.Rounding

/-!
# Lexicon — shortest decimals

The digits that are chosen for a double read back to it: either they were found by trying, or
they are all digits of the value, which is then not rounded.

* `Double.ofDecimal_shift`  — zeros at the end may be moved into the power of ten.
* `Double.ofDecimal_sign`   — the sign does not take part in rounding.
* `Double.allDigits_reads`  — all digits of a value read back to it.
* `Double.shortest_reads`   — so do the digits that are chosen.
-/

namespace Lexicon.Double

-- ---------------------------------------------------------------------------
-- Counting digits
-- ---------------------------------------------------------------------------

theorem digitCount_pos (n : Nat) : 0 < digitCount n := Nat.length_toDigits_pos

theorem digitCount_le_iff {n k : Nat} (hk : 0 < k) : digitCount n ≤ k ↔ n < 10 ^ k :=
  Nat.length_toDigits_le_iff (by decide) hk

theorem lt_digitCount_iff {n k : Nat} (hk : 0 < k) : k < digitCount n ↔ 10 ^ k ≤ n := by
  rw [← Nat.not_le, digitCount_le_iff hk, Nat.not_lt]

/-- A zero at the end is one digit more. -/
theorem digitCount_ten_mul {n : Nat} (hn : 0 < n) : digitCount (n * 10) = digitCount n + 1 := by
  have hQuot : n * 10 / 10 = n := Nat.mul_div_cancel n (by decide)
  rw [digitCount, digitCount, Nat.toDigits_of_base_le (by decide) (by omega), hQuot,
    List.length_append]
  rfl

theorem digitCount_mul_pow {n : Nat} (hn : 0 < n) (k : Nat) :
    digitCount (n * 10 ^ k) = digitCount n + k := by
  induction k with
  | zero => rw [Nat.pow_zero, Nat.mul_one, Nat.add_zero]
  | succ k ih =>
    have hPos : 0 < n * 10 ^ k := Nat.mul_pos hn (Nat.pow_pos (by decide))
    rw [Nat.pow_succ, ← Nat.mul_assoc, digitCount_ten_mul hPos, ih, Nat.add_assoc]

-- ---------------------------------------------------------------------------
-- Decimals
-- ---------------------------------------------------------------------------

/-- A decimal within the range is a fraction. -/
theorem ofDecimal_neg (negative : Bool) {digits : Nat} (k : Nat) (hDigits : 0 < digits) (hk : 0 < k)
    (hHigh : digitCount digits ≤ 400 + k) (hLow : k ≤ 400 + digitCount digits) :
    ofDecimal negative digits (-(k : Int)) = ofFraction negative digits (10 ^ k) := by
  unfold ofDecimal
  rw [if_neg (by omega), if_neg (by omega), if_neg (by omega), if_pos (by omega)]
  have hAbs : (- -(k : Int)).toNat = k := by omega
  rw [hAbs]
  rfl

theorem ofDecimal_nonneg (negative : Bool) {digits : Nat} (k : Nat) (hDigits : 0 < digits)
    (hHigh : digitCount digits + k ≤ 400) :
    ofDecimal negative digits (k : Int) = ofFraction negative (digits * 10 ^ k) 1 := by
  unfold ofDecimal
  rw [if_neg (by omega), if_neg (by omega), if_neg (by omega), if_neg (by omega)]
  rfl

/-- **Zeros at the end may be moved into the power of ten.** -/
theorem ofDecimal_shift (negative : Bool) {digits : Nat} (hDigits : 0 < digits) (k : Nat)
    (scale : Int) :
    ofDecimal negative (digits * 10 ^ k) scale = ofDecimal negative digits (scale + k) := by
  have hTen : ∀ n, 0 < 10 ^ n := fun n => Nat.pow_pos (by decide)
  have hLong : digits * 10 ^ k ≠ 0 := Nat.ne_of_gt (Nat.mul_pos hDigits (hTen k))
  have hCount : (digitCount (digits * 10 ^ k) : Int) + scale
      = (digitCount digits : Int) + (scale + k) := by
    rw [digitCount_mul_pow hDigits]
    omega
  unfold ofDecimal
  rw [if_neg hLong, if_neg (Nat.ne_of_gt hDigits), hCount]
  split
  · rfl
  split
  · rfl
  by_cases hNeg : scale < 0
  · by_cases hSum : scale + k < 0
    · -- both are fractions
      rw [if_pos hNeg, if_pos hSum]
      refine ofFraction_congr negative (hTen _) (hTen _) ?_
      show digits * 10 ^ k * 10 ^ (-(scale + k)).toNat = digits * 10 ^ (-scale).toNat
      rw [Nat.mul_assoc, ← Nat.pow_add]
      congr 2
      omega
    · rw [if_pos hNeg, if_neg hSum]
      refine ofFraction_congr negative (hTen _) Nat.one_pos ?_
      show digits * 10 ^ k * 1 = digits * 10 ^ (scale + k).toNat * 10 ^ (-scale).toNat
      rw [Nat.mul_one, Nat.mul_assoc, ← Nat.pow_add]
      congr 2
      omega
  · rw [if_neg hNeg, if_neg (by omega)]
    refine ofFraction_congr negative Nat.one_pos Nat.one_pos ?_
    show digits * 10 ^ k * 10 ^ scale.toNat * 1 = digits * 10 ^ (scale + k).toNat * 1
    rw [Nat.mul_one, Nat.mul_one, Nat.mul_assoc, ← Nat.pow_add]
    congr 2
    omega

theorem bounded_sign {m m' : Nat} {e e' : Int}
    (h : (if maxExponent < e' then infinite false else finite false m' e') = finite false m e)
    (negative : Bool) :
    (if maxExponent < e' then infinite negative else finite negative m' e')
      = finite negative m e := by
  split at h
  · cases h
  · next hMax =>
    cases h
    rw [if_neg hMax]

theorem ofFraction_sign {num den m : Nat} {e : Int}
    (h : ofFraction false num den = finite false m e) (negative : Bool) :
    ofFraction negative num den = finite negative m e := by
  unfold ofFraction at h ⊢
  split
  · next hZero =>
    rw [if_pos hZero] at h
    cases h
    rfl
  · next hZero =>
    rw [if_neg hZero] at h
    exact bounded_sign h negative

/-- The sign does not take part in rounding. -/
theorem ofDecimal_sign {digits m : Nat} {scale e : Int}
    (h : ofDecimal false digits scale = finite false m e) (negative : Bool) :
    ofDecimal negative digits scale = finite negative m e := by
  unfold ofDecimal at h ⊢
  split
  · next h₁ =>
    rw [if_pos h₁] at h
    cases h
    rfl
  · next h₁ =>
    rw [if_neg h₁] at h
    split
    · next h₂ =>
      rw [if_pos h₂] at h
      cases h
    · next h₂ =>
      rw [if_neg h₂] at h
      split
      · next h₃ =>
        rw [if_pos h₃] at h
        cases h
        rfl
      · next h₃ =>
        rw [if_neg h₃] at h
        split
        · next h₄ =>
          rw [if_pos h₄] at h
          exact ofFraction_sign h negative
        · next h₄ =>
          rw [if_neg h₄] at h
          exact ofFraction_sign h negative

-- ---------------------------------------------------------------------------
-- All digits
-- ---------------------------------------------------------------------------

theorem five_pow_mul_two_pow (k : Nat) : 5 ^ k * 2 ^ k = 10 ^ k := (Nat.mul_pow 5 2 k).symm

theorem two_pow_le_five_pow {j c : Nat} (h : j ≤ 2 * c) : 2 ^ j ≤ 5 ^ c :=
  calc 2 ^ j
    _ ≤ 2 ^ (2 * c) := Nat.pow_le_pow_right (by decide) h
    _ = 4 ^ c := Nat.pow_mul 2 2 c
    _ ≤ 5 ^ c := Nat.pow_le_pow_left (by decide) c

/-- A value below one has so many digits that its power of ten is within the range. -/
theorem digitCount_five_pow {m k : Nat} (hPos : 0 < m) (hk : k ≤ 1074) :
    k ≤ 400 + digitCount (m * 5 ^ k) := by
  by_cases hSmall : k ≤ 401
  · have hOne := digitCount_pos (m * 5 ^ k)
    omega
  · obtain ⟨j, c, rfl, hc⟩ : ∃ j c, k = j + c ∧ c = 401 := ⟨k - 401, 401, by omega, rfl⟩
    have hLow : 10 ^ j ≤ m * 5 ^ (j + c) :=
      calc 10 ^ j
        _ = 5 ^ j * 2 ^ j := (five_pow_mul_two_pow j).symm
        _ ≤ 5 ^ j * 5 ^ c := Nat.mul_le_mul_left _ (two_pow_le_five_pow (by omega))
        _ = 5 ^ (j + c) := (Nat.pow_add 5 j c).symm
        _ ≤ m * 5 ^ (j + c) := Nat.le_mul_of_pos_left _ hPos
    have hCount := (lt_digitCount_iff (by omega)).mpr hLow
    omega

theorem mul_five_pow_lt {m k c : Nat} (hMantissa : m < 2 ^ 53) (hc : 16 ≤ c) :
    m * 5 ^ k < 10 ^ (c + k) :=
  calc m * 5 ^ k
    _ < 2 ^ 53 * 5 ^ k := Nat.mul_lt_mul_of_pos_right hMantissa (Nat.pow_pos (by decide))
    _ ≤ 10 ^ c * 10 ^ k := by
        refine Nat.mul_le_mul ?_ (Nat.pow_le_pow_left (by decide) k)
        exact Nat.le_trans (show 2 ^ 53 ≤ 10 ^ 16 by decide) (Nat.pow_le_pow_right (by decide) hc)
    _ = 10 ^ (c + k) := (Nat.pow_add 10 c k).symm

theorem mul_two_pow_lt {m k c : Nat} (hMantissa : m < 2 ^ 53) (hk : 53 + k ≤ 3 * c) :
    m * 2 ^ k < 10 ^ c :=
  calc m * 2 ^ k
    _ < 2 ^ 53 * 2 ^ k := Nat.mul_lt_mul_of_pos_right hMantissa (Nat.two_pow_pos k)
    _ = 2 ^ (53 + k) := (Nat.pow_add 2 53 k).symm
    _ ≤ 2 ^ (3 * c) := Nat.pow_le_pow_right (by decide) hk
    _ = 8 ^ c := Nat.pow_mul 2 3 c
    _ ≤ 10 ^ c := Nat.pow_le_pow_left (by decide) c

/-- **All digits of a value read back to it.** -/
theorem allDigits_reads {m : Nat} {e : Int} (hRegular : (finite false m e).Regular) (hPos : 0 < m) :
    ofDecimal false (allDigits m e).1 (allDigits m e).2 = finite false m e := by
  obtain ⟨rfl, -⟩ | ⟨-, hMantissa, hMin, hMax, -⟩ := id hRegular
  · omega
  obtain ⟨steps, hSteps⟩ := exists_exponentOf hMin
  unfold maxExponent at hMax
  unfold allDigits
  split
  · next hNeg =>
    obtain ⟨k, hk, hSum⟩ : ∃ k : Nat, e = -(k : Int) ∧ k + steps = 1074 := by
      refine ⟨(-e).toNat, by omega, ?_⟩
      unfold exponentOf at hSteps
      omega
    have hAbs : (-e).toNat = k := by omega
    show ofDecimal false (m * 5 ^ (-e).toNat) e = _
    rw [hAbs]
    have hDigits : 0 < m * 5 ^ k := Nat.mul_pos hPos (Nat.pow_pos (by decide))
    have hFraction : ofDecimal false (m * 5 ^ k) e = ofFraction false (m * 5 ^ k) (10 ^ k) := by
      rw [hk]
      refine ofDecimal_neg false k hDigits (by omega) ?_ ?_
      · exact (digitCount_le_iff (by omega)).mpr (mul_five_pow_lt hMantissa (by omega))
      · exact digitCount_five_pow hPos (by omega)
    rw [hFraction]
    refine ofFraction_exact hRegular hPos hSteps (Nat.pow_pos (by decide)) ?_
    rw [scaled, leastDenominator_eq hSum, ← five_pow_mul_two_pow k]
    ring
  · next hNonneg =>
    obtain ⟨k, rfl⟩ : ∃ k : Nat, e = (k : Int) := ⟨e.toNat, by omega⟩
    show ofDecimal false (m * 2 ^ k) ((0 : Nat) : Int) = _
    have hDigits : 0 < m * 2 ^ k := Nat.mul_pos hPos (Nat.two_pow_pos k)
    have hCount : digitCount (m * 2 ^ k) ≤ 400 :=
      (digitCount_le_iff (by decide)).mpr (mul_two_pow_lt hMantissa (by omega))
    rw [ofDecimal_nonneg false 0 hDigits hCount]
    refine ofFraction_exact hRegular hPos hSteps Nat.one_pos ?_
    have hPow : 2 ^ steps = leastDenominator * 2 ^ k := by
      rw [leastDenominator, ← Nat.pow_add]
      congr 1
      unfold exponentOf minExponent at *
      omega
    rw [scaled, hPow]
    ring

-- ---------------------------------------------------------------------------
-- The digits that are chosen
-- ---------------------------------------------------------------------------

theorem shortestFrom_reads {value : Double} {num den : Nat} {point : Int} {fuel length : Nat}
    {found : Nat × Int} (h : shortestFrom value num den point fuel length = some found) :
    ofDecimal false found.1 found.2 = value := by
  induction fuel generalizing length with
  | zero => cases h
  | succ fuel ih =>
    unfold shortestFrom at h
    dsimp only at h
    split at h
    · next d hFind =>
      cases h
      have hReads := List.find?_some hFind
      exact eq_of_beq hReads
    · exact ih h

/-- **The digits that are chosen for a double read back to it.** -/
theorem shortest_reads {negative : Bool} {m : Nat} {e : Int}
    (hRegular : (finite negative m e).Regular) (hPos : 0 < m) :
    ofDecimal negative (shortest m e).1 (shortest m e).2 = finite negative m e := by
  refine ofDecimal_sign ?_ negative
  unfold shortest
  rw [if_neg (Nat.ne_of_gt hPos)]
  dsimp only
  cases hSearch : shortestFrom (finite false m e) (fraction m e).1 (fraction m e).2
      (decimalPoint (fraction m e).1 (fraction m e).2) 17 1 with
  | some found => exact shortestFrom_reads hSearch
  | none => exact allDigits_reads hRegular hPos

/-- The digits of a value that is not zero are not zero. -/
theorem shortest_pos {m : Nat} {e : Int} (hRegular : (finite false m e).Regular) (hPos : 0 < m) :
    0 < (shortest m e).1 := by
  refine Nat.pos_of_ne_zero fun hZero => ?_
  have hReads := shortest_reads hRegular hPos
  rw [hZero] at hReads
  have hNull : ofDecimal false 0 (shortest m e).2 = finite false 0 minExponent := rfl
  rw [hNull] at hReads
  cases hReads
  omega

end Lexicon.Double
