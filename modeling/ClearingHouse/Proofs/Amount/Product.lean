import ClearingHouse.Amount
import ClearingHouse.Proofs.Binary64.Scientific

/-!
# Products are exact where amounts are read

A product gives up digits only if it is too long, and what it gives up does not make its
whole part shorter.  So the hundredfold of a decimal with at most two places is exact if it
fits sixty-four bits, and otherwise there is no amount for it.
-/

namespace ClearingHouse

namespace Decimal

variable {negative : Bool} {mantissa scale : Nat} {number : Decimal}

theorem rescaled?_of_lt (fits : mantissa < 2 ^ 96) (few : scale ≤ 28) :
    rescaled? negative mantissa scale = some ⟨negative, mantissa, scale, fits, few⟩ := by
  rw [rescaled?, List.range_succ_eq_map, List.findSome?_cons, pow_zero,
    Binary64.nearest_one, Nat.sub_zero, of?, dif_pos ⟨fits, few⟩]

theorem rescaled?_eq_some (made : rescaled? negative mantissa scale = some number) :
    number.negative = negative ∧ ∃ dropped ≤ scale,
      number.mantissa = Binary64.nearest mantissa (10 ^ dropped) ∧
        number.scale = scale - dropped := by
  obtain ⟨dropped, member, isNumber⟩ := List.exists_of_findSome?_eq_some made
  rw [of?] at isNumber
  split at isNumber
  · cases isNumber
    exact ⟨rfl, dropped, Nat.le_of_lt_succ (List.mem_range.mp member), rfl, rfl⟩
  · cases isNumber

/-- No digit in front of the point is given up. -/
theorem whole_le_of_rescaled? (made : rescaled? negative mantissa scale = some number) :
    mantissa / 10 ^ scale ≤ number.mantissa / 10 ^ number.scale := by
  obtain ⟨-, dropped, few, isMantissa, isScale⟩ := rescaled?_eq_some made
  rw [isMantissa, isScale]
  calc mantissa / 10 ^ scale = mantissa / 10 ^ dropped / 10 ^ (scale - dropped) := by
        rw [Nat.div_div_eq_div_mul, ← pow_add, Nat.add_sub_cancel' few]
    _ ≤ Binary64.nearest mantissa (10 ^ dropped) / 10 ^ (scale - dropped) :=
        Nat.div_le_div_right (Binary64.div_le_nearest _ _)

theorem times?_hundred (positive : 0 < number.mantissa) (unsigned : number.negative = false) :
    number.times? hundred = rescaled? false (number.mantissa * 100) number.scale := by
  rw [times?, if_neg (by simp [hundred, Nat.ne_of_gt positive]), unsigned]
  rfl

theorem hundredths_of_few (few : scale ≤ 2) :
    mantissa * 100 / 10 ^ scale = mantissa * 10 ^ (2 - scale) := by
  rw [← pow_sub_mul_pow 10 few |>.trans (by decide : 10 ^ 2 = 100), ← Nat.mul_assoc,
    Nat.mul_div_cancel _ (Nat.pow_pos (by decide))]

/-- With few places, a product that is too long for a decimal is too large for an amount. -/
theorem le_hundredths_of_large (few : scale ≤ 2) (large : 2 ^ 96 ≤ mantissa * 100) :
    2 ^ 64 ≤ mantissa * 10 ^ (2 - scale) := by
  rw [← hundredths_of_few few, Nat.le_div_iff_mul_le (Nat.pow_pos (by decide))]
  calc 2 ^ 64 * 10 ^ scale ≤ 2 ^ 64 * 10 ^ 2 := by gcongr; decide
    _ ≤ 2 ^ 96 := by decide
    _ ≤ mantissa * 100 := large

end Decimal

namespace Amount

variable {number product : Decimal}

theorem amount_of_word? (unsigned : number.negative = false) :
    (number.word?.map fun word => (⟨word.toNat, word.toNat_lt⟩ : Amount)) =
      ofMinor? (number.mantissa / 10 ^ number.scale) := by
  simp only [Decimal.word?, unsigned, Bool.false_eq_true, if_false, ofMinor?]
  split
  · rename_i fits
    rw [Option.map_some]
    congr 2
    exact UInt64.toNat_ofNat_of_lt' fits
  · rfl

theorem hundredfold?_of_times? (made : number.times? Decimal.hundred = some product)
    (unsigned : product.negative = false) :
    hundredfold? number = ofMinor? (product.mantissa / 10 ^ product.scale) := by
  rw [← amount_of_word? unsigned, Option.map_eq_bind, hundredfold?, made]
  rfl

/-- With at most two places the hundredfold is exact. -/
theorem hundredfold?_eq (few : number.scale ≤ 2)
    (sign : number.negative = true → number.mantissa = 0) :
    hundredfold? number = ofMinor? (number.mantissa * 10 ^ (2 - number.scale)) := by
  rcases Nat.eq_zero_or_pos number.mantissa with isZero | positive
  · rw [hundredfold?, Decimal.times?, if_pos (Or.inl isZero), isZero, Nat.zero_mul]
    rfl
  have unsigned : number.negative = false :=
    Bool.eq_false_of_not_eq_true fun isNegative =>
      Nat.ne_of_gt positive (sign isNegative)
  have isProduct := Decimal.times?_hundred positive unsigned
  rcases Nat.lt_or_ge (number.mantissa * 100) (2 ^ 96) with fits | large
  · rw [hundredfold?_of_times?
      (isProduct.trans (Decimal.rescaled?_of_lt fits number.scale_le)) rfl,
      Decimal.hundredths_of_few few]
  have tooLarge := Decimal.le_hundredths_of_large few large
  rw [ofMinor?, dif_neg (Nat.not_lt_of_le tooLarge)]
  cases made : number.times? Decimal.hundred with
  | none =>
      rw [hundredfold?, made]
      rfl
  | some product =>
      -- The digits that are given up have left the whole part as large as it was.
      have rescaled := isProduct.symm.trans made
      have grows := Decimal.whole_le_of_rescaled? rescaled
      rw [Decimal.hundredths_of_few few] at grows
      rw [hundredfold?_of_times? made (Decimal.rescaled?_eq_some rescaled).1, ofMinor?,
        dif_neg (Nat.not_lt_of_le (tooLarge.trans grows))]

theorem hundredfold?_normalized (few : number.normalized.scale ≤ 2)
    (sign : number.negative = true → number.mantissa = 0) :
    hundredfold? number.normalized =
      ofMinor? (number.normalized.mantissa * 10 ^ (2 - number.normalized.scale)) := by
  refine hundredfold?_eq few fun isNegative => Nat.eq_zero_of_le_zero ?_
  rw [← sign isNegative]
  exact (Decimal.stripZeros_bounded _ _).1

end Amount

end ClearingHouse
