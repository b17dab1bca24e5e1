import ClearingHouse.Proofs.Binary64.Scientific
import ClearingHouse.Proofs.Binary64.Written

/-!
# Decimals above the largest amount

What a number attracts lies below what a larger number attracts, so no rounding takes a
quantity past a number that is not larger.  A decimal is rounded up to three times before it
is a number.  Above the largest amount, and a little below it, this leads to a number that
is above the largest amount, and so is the shortest decimal for it.
-/

namespace ClearingHouse.Binary64

variable {number other : Binary64} {quantity : ℚ}

/-! ## Order -/

theorem quantity_lt_upper (number : Binary64) : number.quantity < number.upper := by
  rw [upper_eq, quantity]
  gcongr
  linarith

theorem lower_lt_quantity (notZero : 0 < number.significand) :
    number.lower < number.quantity := by
  have positive : 0 < number.reach := by
    rw [reach]
    split_ifs <;> norm_num
  rw [lower_eq notZero, quantity]
  gcongr
  linarith

/-- A number with a larger exponent attracts only what is larger. -/
theorem IsNormal.upper_le_lower_of_exponent (isNormal : number.IsNormal)
    (otherNormal : other.IsNormal) (less : number.exponent < other.exponent) :
    number.upper ≤ other.lower := by
  have notLeast : -1074 < other.exponent := lt_of_le_of_lt isNormal.atLeast less
  have isFull := otherNormal.full notLeast
  have isSmall : (number.significand : ℚ) + 1 ≤ 2 ^ 53 := by exact_mod_cast isNormal.small
  have reaches : (2 : ℚ) ^ 52 - 1 / 4 ≤ other.significand - other.reach := by
    rcases isFull.eq_or_lt with isLeast | isMore
    · have isNarrow : other.isNarrow = true := by
        simp [Binary64.isNarrow, ← isLeast, notLeast]
      rw [reach, if_pos isNarrow, ← isLeast]
      push_cast
      exact le_refl _
    · have isMore : (2 : ℚ) ^ 52 + 1 ≤ other.significand := by exact_mod_cast isMore
      have := other.reach_le
      linarith
  have twice : 2 * (2 : ℚ) ^ number.exponent ≤ 2 ^ other.exponent := by
    calc 2 * (2 : ℚ) ^ number.exponent = 2 ^ (number.exponent + 1) := by
          rw [zpow_add₀ (by norm_num), zpow_one, mul_comm]
      _ ≤ 2 ^ other.exponent := by
          gcongr
          · norm_num
          · omega
  rw [upper_eq, lower_eq (Nat.lt_of_lt_of_le (by decide) isFull)]
  calc (number.significand + 1 / 2) * (2 : ℚ) ^ number.exponent
      ≤ (2 ^ 53 - 1 / 2) * 2 ^ number.exponent := by
        gcongr
        linarith
    _ = (2 ^ 52 - 1 / 4) * (2 * 2 ^ number.exponent) := by ring
    _ ≤ (2 ^ 52 - 1 / 4) * 2 ^ other.exponent := by
        gcongr
    _ ≤ (other.significand - other.reach) * 2 ^ other.exponent := by gcongr

/-- A larger number attracts only what is larger. -/
theorem IsNormal.upper_le_lower (isNormal : number.IsNormal) (otherNormal : other.IsNormal)
    (less : number.quantity < other.quantity) : number.upper ≤ other.lower := by
  rcases lt_trichotomy number.exponent other.exponent with smaller | same | larger
  · exact isNormal.upper_le_lower_of_exponent otherNormal smaller
  · rw [quantity, quantity, same, mul_lt_mul_iff_left₀ (by positivity)] at less
    have less : number.significand < other.significand := by exact_mod_cast less
    have next : (number.significand : ℚ) + 1 ≤ other.significand := by exact_mod_cast less
    have := other.reach_le
    rw [upper_eq, lower_eq (Nat.zero_lt_of_lt less), same]
    gcongr
    linarith
  -- With the larger exponent the number would be the larger one.
  · have isFull := isNormal.full (lt_of_le_of_lt otherNormal.atLeast larger)
    have above := other.quantity_lt_upper
    have apart := otherNormal.upper_le_lower_of_exponent isNormal larger
    have below := lower_lt_quantity (Nat.lt_of_lt_of_le (by decide) isFull)
    exact absurd less (not_lt.mpr (above.le.trans (apart.trans below.le)))

/-- Rounding takes nothing past a number that attracts less. -/
theorem Attracts.quantity_le (attracts : number.Attracts quantity)
    (isNormal : number.IsNormal) (otherNormal : other.IsNormal)
    (above : other.lower < quantity) : other.quantity ≤ number.quantity := by
  by_contra less
  have apart := isNormal.upper_le_lower otherNormal (not_le.mp less)
  have notAbove := attracts.le_upper
  linarith

/-- A quantity has one number at most. -/
theorem IsNormal.eq_of_quantity (isNormal : number.IsNormal) (otherNormal : other.IsNormal)
    (sameSign : number.negative = other.negative)
    (same : number.quantity = other.quantity) : number = other := by
  have apart : ∀ {first second : Binary64}, first.IsNormal → second.IsNormal →
      first.quantity = second.quantity → ¬ first.exponent < second.exponent := by
    intro first second firstNormal secondNormal same less
    have isFull := secondNormal.full (lt_of_le_of_lt firstNormal.atLeast less)
    have above := first.quantity_lt_upper
    have between := firstNormal.upper_le_lower_of_exponent secondNormal less
    have below := lower_lt_quantity (Nat.lt_of_lt_of_le (by decide) isFull)
    linarith
  have sameExponent : number.exponent = other.exponent :=
    le_antisymm (not_lt.mp (apart otherNormal isNormal same.symm))
      (not_lt.mp (apart isNormal otherNormal same))
  rw [quantity, quantity, sameExponent, mul_left_inj' (by positivity)] at same
  have sameSignificand : number.significand = other.significand := by exact_mod_cast same
  cases number
  cases other
  simp_all

/-! ## Numbers above the largest amount -/

/-- The least number above the largest amount. -/
def leastLarge (negative : Bool) : Binary64 := ⟨negative, 5764607523034235, 5⟩

theorem isNormal_leastLarge (negative : Bool) : (leastLarge negative).IsNormal :=
  ⟨by simp [leastLarge], by simp [leastLarge], by simp [leastLarge]⟩

theorem quantity_leastLarge (negative : Bool) :
    (leastLarge negative).quantity = 184467440737095520 := by
  norm_num [leastLarge, quantity]

theorem lower_leastLarge (negative : Bool) :
    (leastLarge negative).lower = 184467440737095504 := by
  norm_num [leastLarge, lower, isNarrow]

/-- The shortest decimal for a number above the largest amount is above it too. -/
theorem IsNormal.le_shown (isNormal : number.IsNormal)
    (large : 184467440737095520 ≤ number.quantity) : 184467440737095520 ≤ number.shown := by
  rw [← quantity_leastLarge number.negative] at large
  have leastNormal := isNormal_leastLarge number.negative
  rcases large.eq_or_lt with isLeast | isMore
  · have same := leastNormal.eq_of_quantity isNormal rfl isLeast
    have isShown : ∀ negative, (leastLarge negative).shown = 184467440737095520 := by
      intro negative
      have isShortest : (leastLarge negative).shortest = (18446744073709552, 1) := by
        cases negative <;> decide +kernel
      rw [shown, isShortest]
      norm_num [leastLarge, isZero]
    rw [← same]
    exact (isShown _).ge
  · have apart := leastNormal.upper_le_lower isNormal isMore
    have above := (leastLarge number.negative).quantity_lt_upper
    have notZero : 0 < number.significand := by
      refine quantity_pos (lt_trans ?_ isMore)
      rw [quantity_leastLarge]
      norm_num
    have isZero : number.isZero = false := by
      rw [Binary64.isZero, beq_eq_false_iff_ne]
      exact Nat.ne_of_gt notZero
    obtain ⟨attracts, -⟩ := isNormal.shortest notZero
    rw [shown, isZero, if_neg (by decide), ← quantity_leastLarge number.negative]
    have notBelow := attracts.lower_le
    linarith

/-! ## Decimals -/

/-- Rounding a whole number takes it past no number that attracts less. -/
theorem le_quantity_of_rounded {negative : Bool} {whole : Nat} (positive : 0 < whole)
    (made : rounded negative whole 1 = some number) (otherNormal : other.IsNormal)
    (above : other.lower < whole) : other.quantity ≤ number.quantity := by
  obtain ⟨-, isNormal, attracts⟩ := rounded_eq_some positive Nat.one_pos made
  rw [Nat.cast_one, div_one] at attracts
  exact attracts.quantity_le isNormal otherNormal above

theorem one_le_of_rounded {negative : Bool} {whole : Nat} (positive : 0 < whole)
    (made : rounded negative whole 1 = some number) : 1 ≤ number.quantity := by
  have isNormal : (⟨false, 2 ^ 52, -52⟩ : Binary64).IsNormal :=
    ⟨by simp, by simp, by simp⟩
  have isOne : (⟨false, 2 ^ 52, -52⟩ : Binary64).quantity = 1 := by norm_num [quantity]
  have notMore : (1 : ℚ) ≤ whole := by exact_mod_cast positive
  have above : (⟨false, 2 ^ 52, -52⟩ : Binary64).lower < whole := by
    refine lt_of_lt_of_le (lower_lt_quantity (by norm_num)) ?_
    rwa [isOne]
  rw [← isOne]
  exact le_quantity_of_rounded positive made isNormal above

/-- Once its digits are rounded, a decimal is not taken past a number that attracts less
than the least such digits. -/
theorem lt_of_rounded_of_le {negative : Bool} {significand least : Nat} {exponent : ℤ}
    {bound : ℚ} (other : Binary64) (made : rounded negative significand 1 = some number)
    (positive : 0 < least) (atLeast : least ≤ significand) (otherNormal : other.IsNormal)
    (above : other.lower < least) (large : bound < other.quantity * 10 ^ exponent) :
    bound < number.quantity * 10 ^ exponent := by
  have atLeastQ : (least : ℚ) ≤ significand := by exact_mod_cast atLeast
  have notLess := le_quantity_of_rounded (Nat.lt_of_lt_of_le positive atLeast) made
    otherNormal (lt_of_lt_of_le above atLeastQ)
  calc bound < other.quantity * 10 ^ exponent := large
    _ ≤ number.quantity * 10 ^ exponent := by gcongr

theorem neg_two_le_of_large {significand : Nat} {exponent : ℤ} (small : significand < 2 ^ 64)
    (large : ((2 : ℚ) ^ 64 - 11) / 100 < significand * 10 ^ exponent) : -2 ≤ exponent := by
  by_contra less
  have smallQ : (significand : ℚ) < 2 ^ 64 := by exact_mod_cast small
  have isTiny : (10 : ℚ) ^ exponent ≤ 10 ^ (-3 : ℤ) := by
    gcongr
    · norm_num
    · omega
  have isLess : (significand : ℚ) * 10 ^ exponent ≤ 2 ^ 64 * 10 ^ (-3 : ℤ) := by gcongr
  norm_num at isLess large
  linarith

/-- Once its digits are rounded, a decimal above the largest amount is still attracted by a
number above it.  Digits that fill fifty-four bits or more leave few exponents, and for each
of these the least digits there can be are known. -/
theorem lt_of_rounded {negative : Bool} {significand : Nat} {exponent : ℤ}
    (small : significand < 2 ^ 64)
    (large : ((2 : ℚ) ^ 64 - 11) / 100 < significand * 10 ^ exponent)
    (made : rounded negative significand 1 = some number) :
    184467440737095504 < number.quantity * 10 ^ exponent := by
  have positive : 0 < significand := by
    rw [Nat.pos_iff_ne_zero]
    rintro rfl
    norm_num at large
  by_cases short : significand < 2 ^ 53
  -- Such digits are held exactly.
  · rw [quantity_of_rounded positive short made]
    refine lt_trans ?_ large
    norm_num
  have atLeast := neg_two_le_of_large small large
  obtain rfl | rfl | rfl | rfl | isLarge :
      exponent = -2 ∨ exponent = -1 ∨ exponent = 0 ∨ exponent = 1 ∨ 2 ≤ exponent := by omega
  -- Just below `2 ^ 64`, to which the digits are rounded up.
  · have least : 18446744073709551605 ≤ significand := by
      norm_num at large
      have atLeast : (18446744073709551605 : ℚ) ≤ significand := by linarith
      exact_mod_cast atLeast
    refine lt_of_rounded_of_le ⟨false, 2 ^ 52, 12⟩ made (by decide) least
      ⟨by decide, by decide, by decide⟩ ?_ ?_ <;> norm_num [lower, quantity, isNarrow]
  · have least : 1844674407370955161 ≤ significand := by
      norm_num at large
      have isMore : (1844674407370955160 : ℚ) < significand := by linarith
      exact_mod_cast isMore
    refine lt_of_rounded_of_le ⟨false, 7205759403792794, 8⟩ made (by decide) least
      ⟨by decide, by decide, by decide⟩ ?_ ?_ <;> norm_num [lower, quantity, isNarrow]
  · have least : 184467440737095517 ≤ significand := by
      norm_num at large
      have isMore : (184467440737095516 : ℚ) < significand := by linarith
      exact_mod_cast isMore
    refine lt_of_rounded_of_le (leastLarge false) made (by decide) least
      (isNormal_leastLarge false) ?_ ?_ <;> norm_num [lower_leastLarge, quantity_leastLarge]
  · have least : 18446744073709552 ≤ significand := by
      norm_num at large
      have isMore : (18446744073709551 : ℚ) < significand := by linarith
      exact_mod_cast isMore
    refine lt_of_rounded_of_le ⟨false, 4611686018427388, 2⟩ made (by decide) least
      ⟨by decide, by decide, by decide⟩ ?_ ?_ <;> norm_num [lower, quantity, isNarrow]
  · have isMore : (10 : ℚ) ^ (2 : ℤ) ≤ 10 ^ exponent := by
      gcongr
      norm_num
    -- With fifty-four bits the decimal is more than twice the largest amount.
    refine lt_of_rounded_of_le ⟨false, 2 ^ 52, 1⟩ made (by decide) (not_lt.mp short)
      ⟨by decide, by decide, by decide⟩ ?_ ?_
    · norm_num [lower, isNarrow]
    · norm_num [quantity] at isMore ⊢
      linarith

/-- A scaling by a large power of ten leads to a large number, or to none at all. -/
theorem large_of_scaledByTen? {scaled : Binary64} {exponent : ℤ} (notLess : 1 ≤ number.quantity)
    (many : 22 < exponent) (made : number.scaledByTen? exponent = some scaled) :
    184467440737095520 ≤ scaled.quantity := by
  have isNormal : (⟨false, 2 ^ 52, 18⟩ : Binary64).IsNormal :=
    ⟨by decide, by decide, by decide⟩
  have isHuge : (⟨false, 2 ^ 52, 18⟩ : Binary64).quantity = 2 ^ 70 := by norm_num [quantity]
  have positive : 0 < number.quantity := by linarith
  rw [scaledByTen?] at made
  split at made
  · simp only [Option.bind_eq_bind, Option.bind_eq_some_iff] at made
    obtain ⟨power, isPower, made⟩ := made
    rw [if_pos (by omega)] at made
    have isMore : 10 ^ 23 ≤ 10 ^ exponent.natAbs :=
      Nat.pow_le_pow_right (by decide) (by omega)
    have isMore : ((10 ^ 23 : ℕ) : ℚ) ≤ (10 ^ exponent.natAbs : ℕ) := by exact_mod_cast isMore
    have powerLarge := le_quantity_of_rounded (Nat.pow_pos (by decide)) isPower isNormal
      (lt_of_lt_of_le (by norm_num [lower, isNarrow]) isMore)
    rw [isHuge] at powerLarge
    have powerPositive : 0 < power.quantity := lt_of_lt_of_le (by norm_num) powerLarge
    obtain ⟨scaledNormal, attracts⟩ := attracts_of_times? positive powerPositive made
    rw [← quantity_leastLarge false]
    refine attracts.quantity_le scaledNormal (isNormal_leastLarge false) ?_
    calc (leastLarge false).lower < 1 * 2 ^ 70 := by norm_num [lower_leastLarge]
      _ ≤ number.quantity * power.quantity := by gcongr
  · have notZero : number.isZero = false := by
      rw [isZero, beq_eq_false_iff_ne]
      exact Nat.ne_of_gt (quantity_pos positive)
    rw [notZero, if_neg (by decide), dif_pos (by omega)] at made
    cases made

/-- A decimal above the largest amount, or a little below it, becomes a number above it. -/
theorem large_of_ofScientific? {negative : Bool} {significand : Nat} {exponent : ℤ}
    (small : significand < 2 ^ 64)
    (large : ((2 : ℚ) ^ 64 - 11) / 100 < significand * 10 ^ exponent)
    (made : ofScientific? negative significand exponent = some number) :
    184467440737095520 ≤ number.quantity := by
  have positive : 0 < significand := by
    rw [Nat.pos_iff_ne_zero]
    rintro rfl
    norm_num at large
  simp only [ofScientific?, Option.bind_eq_bind, Option.bind_eq_some_iff] at made
  obtain ⟨whole, isWhole, made⟩ := made
  have notLess := one_le_of_rounded positive isWhole
  have wholePositive : 0 < whole.quantity := by linarith
  have above := lt_of_rounded small large isWhole
  rw [← lower_leastLarge false] at above
  by_cases few : exponent.natAbs ≤ 22
  · obtain ⟨isNormal, attracts⟩ := attracts_of_scaledByTen? wholePositive few made
    rw [← quantity_leastLarge false]
    exact attracts.quantity_le isNormal (isNormal_leastLarge false) above
  · have atLeast := neg_two_le_of_large small large
    exact large_of_scaledByTen? notLess (by omega) made

end ClearingHouse.Binary64
