import ClearingHouse.Proofs.Binary64.Rounding

/-!
# Decimals become binary numbers

A decimal with a small significand and a small power of ten is rounded only once, in the
multiplication by the power or the division by it.  For then both of them are held exactly.
-/

namespace ClearingHouse.Binary64

/-! ## What scaling keeps -/

/-- What products with powers of ten keep, and quotients by them, scaling keeps. -/
theorem keeps_of_scaledByTen? (keeps : Binary64 → Prop) {number scaled : Binary64}
    {exponent : ℤ} (kept : keeps number)
    (times : ∀ {first power product : Binary64} {exponent : Nat}, keeps first →
      powerOfTen? exponent = some power → first.times? power = some product → keeps product)
    (quotient : ∀ {first power result : Binary64} {exponent : Nat}, keeps first →
      powerOfTen? exponent = some power → first.over? power = some result → keeps result)
    (made : number.scaledByTen? exponent = some scaled) : keeps scaled := by
  fun_induction scaledByTen? number exponent with
  | case1 number exponent small =>
      simp only [Option.bind_eq_bind, Option.bind_eq_some_iff] at made
      obtain ⟨power, isPower, made⟩ := made
      split at made
      · exact times kept isPower made
      · exact quotient kept isPower made
  | case2 number exponent large isZero =>
      cases made
      exact kept
  | case3 => cases made
  | case4 number exponent large notZero isNegative ih =>
      simp only [Option.bind_eq_bind, Option.bind_eq_some_iff] at made
      obtain ⟨power, isPower, reduced, isReduced, made⟩ := made
      exact ih reduced (quotient kept isPower isReduced) made

theorem negative_of_rounded {negative : Bool} {numerator denominator : Nat}
    {number : Binary64} (made : rounded negative numerator denominator = some number) :
    number.negative = negative := by
  rw [rounded] at made
  split at made
  · cases made
    rfl
  · simp only [Option.ite_none_left_eq_some, Option.some.injEq] at made
    obtain ⟨-, rfl⟩ := made
    split <;> rfl

theorem negative_of_ofScientific? {negative : Bool} {significand : Nat} {exponent : ℤ}
    {number : Binary64} (made : ofScientific? negative significand exponent = some number) :
    number.negative = negative := by
  simp only [ofScientific?, Option.bind_eq_bind, Option.bind_eq_some_iff] at made
  obtain ⟨whole, isWhole, made⟩ := made
  exact keeps_of_scaledByTen? (fun number => number.negative = negative)
    (negative_of_rounded isWhole)
    (fun kept _ made => (negative_of_rounded made).trans kept)
    (fun kept _ made => (negative_of_rounded made).trans kept) made

theorem isNormal_of_rounded {negative : Bool} {numerator denominator : Nat}
    {number : Binary64} (proper : 0 < denominator)
    (made : rounded negative numerator denominator = some number) : number.IsNormal := by
  rcases Nat.eq_zero_or_pos numerator with rfl | positive
  · rw [rounded, if_pos rfl] at made
    cases made
    exact ⟨le_refl _, Nat.pow_pos (by decide), fun isLarger => absurd isLarger (lt_irrefl _)⟩
  · exact (rounded_eq_some positive proper made).2.1

theorem significand_pos_of_powerOfTen? {exponent : Nat} {power : Binary64}
    (made : powerOfTen? exponent = some power) : 0 < power.significand := by
  obtain ⟨-, isNormal, attracts⟩ := rounded_eq_some (Nat.pow_pos (by decide)) Nat.one_pos made
  by_contra isZero
  rw [Nat.pos_iff_ne_zero, not_not] at isZero
  have isLeast : power.exponent ≤ 0 := by
    by_contra isLarger
    have isFull := isNormal.full (by omega)
    rw [isZero] at isFull
    exact absurd isFull (by decide)
  have isSmall : power.upper ≤ 1 / 2 := by
    rw [upper_eq, isZero]
    have := zpow_le_one_of_nonpos₀ (by norm_num : (1 : ℚ) ≤ 2) isLeast
    push_cast
    linarith
  have one : (1 : ℚ) ≤ ((10 ^ exponent : Nat) : ℚ) / (1 : Nat) := by
    rw [Nat.cast_one, div_one]
    exact_mod_cast Nat.one_le_pow _ _ (by decide)
  have notAbove := attracts.le_upper
  linarith

theorem isNormal_of_ofScientific? {negative : Bool} {significand : Nat} {exponent : ℤ}
    {number : Binary64} (made : ofScientific? negative significand exponent = some number) :
    number.IsNormal := by
  simp only [ofScientific?, Option.bind_eq_bind, Option.bind_eq_some_iff] at made
  obtain ⟨whole, isWhole, made⟩ := made
  exact keeps_of_scaledByTen? IsNormal (isNormal_of_rounded Nat.one_pos isWhole)
    (fun _ _ made => isNormal_of_rounded (shifted_pos _ _ Nat.one_pos) made)
    (fun _ isPower made => isNormal_of_rounded
      (shifted_pos _ _ (significand_pos_of_powerOfTen? isPower)) made) made

theorem significand_of_rounded_zero {negative : Bool} {denominator : Nat}
    {number : Binary64} (made : rounded negative 0 denominator = some number) :
    number.significand = 0 := by
  rw [rounded, if_pos rfl] at made
  cases made
  rfl

/-- Zero stays zero, whatever the exponent. -/
theorem significand_of_ofScientific?_zero {negative : Bool} {exponent : ℤ}
    {number : Binary64} (made : ofScientific? negative 0 exponent = some number) :
    number.significand = 0 := by
  simp only [ofScientific?, Option.bind_eq_bind, Option.bind_eq_some_iff] at made
  obtain ⟨whole, isWhole, made⟩ := made
  refine keeps_of_scaledByTen? (fun number => number.significand = 0)
    (significand_of_rounded_zero isWhole) (fun kept _ made => ?_) (fun kept _ made => ?_) made
  · rw [times?, shifted, kept, Nat.zero_mul, Nat.zero_mul] at made
    exact significand_of_rounded_zero made
  · rw [over?, shifted, kept, Nat.zero_mul] at made
    exact significand_of_rounded_zero made

/-! ## Numbers that are held exactly -/

theorem nearest_one (numerator : Nat) : nearest numerator 1 = numerator := by
  simp [nearest, Nat.mod_one]

theorem leadingExponent_nonpos {whole : Nat} (positive : 0 < whole) (small : whole < 2 ^ 53) :
    leadingExponent whole 1 ≤ 0 := by
  obtain ⟨-, -, isAbove⟩ := leadingExponent_bounds positive (by decide : 0 < 1)
  by_contra notBelow
  have isLarge := isAbove (by omega)
  have isMore : (2 : ℚ) ^ (53 : ℤ) ≤ 2 ^ (leadingExponent whole 1 + 52) := by
    gcongr
    · norm_num
    · omega
  have isLess : (whole : ℚ) < 2 ^ (53 : ℤ) := by exact_mod_cast small
  rw [Nat.cast_one, div_one] at isLarge
  exact absurd (isMore.trans isLarge) (not_le.mpr isLess)

/-- A whole number of fifty-three bits is held exactly. -/
theorem quantity_of_rounded {negative : Bool} {whole : Nat} {number : Binary64}
    (positive : 0 < whole) (small : whole < 2 ^ 53)
    (made : rounded negative whole 1 = some number) : number.quantity = whole := by
  have two : (2 : ℚ) ≠ 0 := by norm_num
  have isShort := leadingExponent_nonpos positive small
  have isWhole : shifted whole 1 (-leadingExponent whole 1) =
      (whole * 2 ^ (-leadingExponent whole 1).toNat, 1) := by
    rw [shifted, Int.neg_neg, Int.toNat_of_nonpos isShort, pow_zero, mul_one]
  rw [rounded, if_neg (Nat.ne_of_gt positive)] at made
  simp only [isWhole, nearest_one, Option.ite_none_left_eq_some, Option.some.injEq] at made
  generalize leadingExponent whole 1 = exponent at isShort made
  have isHeld : ((whole * 2 ^ (-exponent).toNat : Nat) : ℚ) * 2 ^ exponent = whole := by
    have power : (2 : ℚ) ^ (-exponent).toNat = 2 ^ (-exponent) := by
      rw [← zpow_natCast, Int.toNat_of_nonneg (by omega)]
    push_cast
    rw [power, mul_assoc, ← zpow_add₀ two, neg_add_cancel, zpow_zero, mul_one]
  obtain ⟨-, rfl⟩ := made
  split
  · rename_i carries
    rw [carries] at isHeld
    rw [← isHeld, quantity, zpow_add₀ two, zpow_one]
    push_cast
    ring
  · exact isHeld

/-- So are the powers of ten up to the twenty-second. -/
theorem quantity_of_powerOfTen? {exponent : Nat} {number : Binary64} (small : exponent ≤ 22)
    (made : powerOfTen? exponent = some number) : number.quantity = 10 ^ exponent := by
  have all : (List.range 23).all (fun exponent =>
      (powerOfTen? exponent).all fun number =>
        number.significand * 2 ^ number.exponent.toNat ==
          10 ^ exponent * 2 ^ (-number.exponent).toNat) = true := by decide +kernel
  have same := List.all_eq_true.mp all exponent (List.mem_range.mpr (by omega))
  rw [made, Option.all_some, beq_iff_eq] at same
  rw [quantity, zpow_eq_div, ← mul_div_assoc, div_eq_iff (by positivity)]
  exact_mod_cast same

/-! ## Decimals -/

theorem quantity_pos {number : Binary64} (positive : 0 < number.quantity) :
    0 < number.significand := by
  rw [quantity] at positive
  exact_mod_cast (mul_pos_iff_of_pos_right (by positivity)).mp positive

theorem attracts_of_times? {first second product : Binary64} (firstPositive : 0 < first.quantity)
    (secondPositive : 0 < second.quantity) (made : first.times? second = some product) :
    product.IsNormal ∧ product.Attracts (first.quantity * second.quantity) := by
  have isShifted := shifted_eq (first.significand * second.significand) 1
    (first.exponent + second.exponent)
  have proper := shifted_pos (first.significand * second.significand)
    (first.exponent + second.exponent) (by decide : 0 < 1)
  have positive : 0 < (shifted (first.significand * second.significand) 1
      (first.exponent + second.exponent)).1 :=
    Nat.mul_pos (Nat.mul_pos (quantity_pos firstPositive) (quantity_pos secondPositive))
      (Nat.pow_pos (by decide))
  obtain ⟨-, isNormal, attracts⟩ := rounded_eq_some positive proper made
  refine ⟨isNormal, ?_⟩
  rw [isShifted, zpow_add₀ (by norm_num)] at attracts
  convert attracts using 1
  rw [quantity, quantity]
  push_cast
  ring

theorem attracts_of_over? {first second result : Binary64} (firstPositive : 0 < first.quantity)
    (secondPositive : 0 < second.quantity) (made : first.over? second = some result) :
    result.IsNormal ∧ result.Attracts (first.quantity / second.quantity) := by
  have isShifted := shifted_eq first.significand second.significand
    (first.exponent - second.exponent)
  have proper := shifted_pos first.significand
    (first.exponent - second.exponent) (quantity_pos secondPositive)
  have positive : 0 < (shifted first.significand second.significand
      (first.exponent - second.exponent)).1 :=
    Nat.mul_pos (quantity_pos firstPositive) (Nat.pow_pos (by decide))
  obtain ⟨-, isNormal, attracts⟩ := rounded_eq_some positive proper made
  refine ⟨isNormal, ?_⟩
  rw [isShifted, zpow_sub₀ (by norm_num)] at attracts
  convert attracts using 1
  rw [quantity, quantity, div_mul_div_comm]

/-- Scaling by a small power of ten rounds once. -/
theorem attracts_of_scaledByTen? {number scaled : Binary64} {exponent : ℤ}
    (positive : 0 < number.quantity) (few : exponent.natAbs ≤ 22)
    (made : number.scaledByTen? exponent = some scaled) :
    scaled.IsNormal ∧ scaled.Attracts (number.quantity * 10 ^ exponent) := by
  rw [scaledByTen?, dif_pos (by omega)] at made
  simp only [Option.bind_eq_bind, Option.bind_eq_some_iff] at made
  obtain ⟨power, isPower, made⟩ := made
  have powerQuantity := quantity_of_powerOfTen? few isPower
  have powerPositive : 0 < power.quantity := by
    rw [powerQuantity]
    positivity
  split at made
  · rename_i nonneg
    have product := attracts_of_times? positive powerPositive made
    rwa [powerQuantity, ← zpow_natCast, Int.natAbs_of_nonneg nonneg] at product
  · rename_i isNegative
    have result := attracts_of_over? positive powerPositive made
    rwa [powerQuantity, div_eq_mul_inv, ← zpow_natCast, ← zpow_neg,
      Int.ofNat_natAbs_of_nonpos (by omega), neg_neg] at result

/-- A decimal of fifty-three bits and a small power of ten is rounded once. -/
theorem attracts_of_ofScientific? {negative : Bool} {significand : Nat} {exponent : ℤ}
    {number : Binary64} (positive : 0 < significand) (small : significand < 2 ^ 53)
    (few : exponent.natAbs ≤ 22)
    (made : ofScientific? negative significand exponent = some number) :
    number.IsNormal ∧ number.Attracts (significand * 10 ^ exponent) := by
  simp only [ofScientific?, Option.bind_eq_bind, Option.bind_eq_some_iff] at made
  obtain ⟨whole, isWhole, made⟩ := made
  have wholeQuantity := quantity_of_rounded positive small isWhole
  have wholePositive : 0 < whole.quantity := by
    rw [wholeQuantity]
    exact_mod_cast positive
  rw [← wholeQuantity]
  exact attracts_of_scaledByTen? wholePositive few made

end ClearingHouse.Binary64
