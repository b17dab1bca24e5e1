import Mathlib.Data.Nat.Cast.Order.Field
import Mathlib.Data.Rat.Floor
import ClearingHouse.Decimal.Shortest
import ClearingHouse.Proofs.Amount.Digits
import ClearingHouse.Proofs.Binary64.Rounding

/-!
# The shortest decimal of a short decimal

A binary number attracts at most one decimal with fifteen digits.  If it attracts one, the
search for the shortest decimal finds that one, because every shorter decimal that it
could find before is one with fifteen digits too.
-/

namespace ClearingHouse.Binary64

/-! ## Decimals that read back -/

theorem compareDecimal_spec (digits numerator : Nat) {denominator : Nat} (exponent : ℤ)
    (proper : 0 < denominator) :
    (compareDecimal digits exponent numerator denominator = .lt ↔
        (digits : ℚ) * 10 ^ exponent < numerator / denominator) ∧
      (compareDecimal digits exponent numerator denominator = .eq ↔
        (digits : ℚ) * 10 ^ exponent = numerator / denominator) ∧
      (compareDecimal digits exponent numerator denominator = .gt ↔
        (numerator : ℚ) / denominator < digits * 10 ^ exponent) := by
  have denominatorPositive : (0 : ℚ) < denominator := by exact_mod_cast proper
  have power : (0 : ℚ) < 10 ^ (-exponent).toNat := by positivity
  rw [compareDecimal, Nat.compare_eq_lt, Nat.compare_eq_eq, Nat.compare_eq_gt, zpow_eq_div,
    ← mul_div_assoc, div_lt_div_iff₀ power denominatorPositive,
    div_lt_div_iff₀ denominatorPositive power,
    div_eq_div_iff power.ne' denominatorPositive.ne']
  exact ⟨by exact_mod_cast Iff.rfl, by exact_mod_cast Iff.rfl, by exact_mod_cast Iff.rfl⟩

/-- Both halfway points as the quotients with which decimals are compared. -/
theorem quarters_eq (exponent : ℤ) (quarters : Nat) :
    ((quarters * (shifted 1 4 exponent).1 : Nat) : ℚ) / (shifted 1 4 exponent).2 =
      quarters * (2 ^ exponent / 4) := by
  have isShifted := shifted_eq 1 4 exponent
  push_cast at isShifted ⊢
  rw [mul_div_assoc, isShifted]
  ring

/-- A decimal reads back to a number that attracts it. -/
theorem readsBack_iff {number : Binary64} {digits : Nat} {exponent : ℤ} :
    number.readsBack digits exponent = true ↔
      number.Attracts (digits * 10 ^ exponent) := by
  have proper := shifted_pos 1 number.exponent (by decide : 0 < 4)
  obtain ⟨-, isLower, isAbove⟩ := compareDecimal_spec digits
    ((4 * number.significand - if number.isNarrow then 1 else 2) *
      (shifted 1 4 number.exponent).1) exponent proper
  obtain ⟨isBelow, isUpper, -⟩ := compareDecimal_spec digits
    ((4 * number.significand + 2) * (shifted 1 4 number.exponent).1) exponent proper
  rw [quarters_eq] at isLower isAbove isBelow isUpper
  rw [← lower] at isLower isAbove
  rw [← upper] at isBelow isUpper
  have unfolded : number.readsBack digits exponent = true ↔
      (compareDecimal digits exponent
          ((4 * number.significand - if number.isNarrow then 1 else 2) *
            (shifted 1 4 number.exponent).1) (shifted 1 4 number.exponent).2 = .gt ∨
        number.significand % 2 = 0 ∧ compareDecimal digits exponent
          ((4 * number.significand - if number.isNarrow then 1 else 2) *
            (shifted 1 4 number.exponent).1) (shifted 1 4 number.exponent).2 = .eq) ∧
      (compareDecimal digits exponent ((4 * number.significand + 2) *
          (shifted 1 4 number.exponent).1) (shifted 1 4 number.exponent).2 = .lt ∨
        number.significand % 2 = 0 ∧ compareDecimal digits exponent
          ((4 * number.significand + 2) * (shifted 1 4 number.exponent).1)
          (shifted 1 4 number.exponent).2 = .eq) := by
    simp [readsBack, isNarrow]
  rw [unfolded, isLower, isAbove, isBelow, isUpper]
  constructor
  · rintro ⟨above, below⟩
    exact ⟨above.imp_right (And.imp_right Eq.symm), below⟩
  · rintro ⟨above, below⟩
    exact ⟨above.imp_right (And.imp_right Eq.symm), below⟩

/-! ## The number of digits in front of the point -/

theorem length_digits_bounds {whole : Nat} (positive : 0 < whole) :
    10 ^ ((Text.digits whole).length - 1) ≤ whole ∧
      whole < 10 ^ (Text.digits whole).length := by
  have isPositive : 0 < (Text.digits whole).length :=
    List.length_pos_iff.mpr (Text.digits_ne_nil whole)
  constructor
  · rcases Nat.eq_zero_or_pos ((Text.digits whole).length - 1) with isOne | isMore
    · rw [isOne]
      exact positive
    · by_contra isLess
      have isShorter := (Nat.length_toDigits_le_iff (by decide) isMore).mpr
        (Nat.lt_of_not_le isLess)
      rw [← Text.digits] at isShorter
      omega
  · exact (Nat.length_toDigits_le_iff (by decide) isPositive).mp (Nat.le_refl _)

theorem magnitude_bounds {numerator denominator : Nat} (proper : 0 < denominator)
    (notTiny : (10 : ℚ) ^ (-400 : ℤ) ≤ numerator / denominator) :
    (10 : ℚ) ^ (magnitude numerator denominator - 1) ≤ numerator / denominator ∧
      (numerator : ℚ) / denominator < 10 ^ magnitude numerator denominator := by
  have denominatorPositive : (0 : ℚ) < denominator := by exact_mod_cast proper
  rw [magnitude]
  split_ifs with isLarge
  · have positive : 0 < numerator / denominator := Nat.div_pos isLarge proper
    obtain ⟨atLeast, below⟩ := length_digits_bounds positive
    have isPositive : 0 < (Text.digits (numerator / denominator)).length :=
      List.length_pos_iff.mpr (Text.digits_ne_nil _)
    generalize (Text.digits (numerator / denominator)).length = count
      at atLeast below isPositive
    constructor
    · rw [show (count : ℤ) - 1 = (count - 1 : ℕ) by omega, zpow_natCast,
        le_div_iff₀ denominatorPositive]
      exact_mod_cast (Nat.le_div_iff_mul_le proper).mp atLeast
    · rw [zpow_natCast, div_lt_iff₀ denominatorPositive]
      exact_mod_cast (Nat.div_lt_iff_lt_mul proper).mp below
  · have reaches : ∀ places : Nat, denominator ≤ numerator * 10 ^ places ↔
        (10 : ℚ) ^ (-(places : ℤ)) ≤ numerator / denominator := by
      intro places
      rw [zpow_neg, zpow_natCast, le_div_iff₀ denominatorPositive,
        inv_mul_le_iff₀ (by positivity), mul_comm _ (numerator : ℚ)]
      exact_mod_cast Iff.rfl
    split
    · rename_i places isLeast
      rw [List.find?_range_eq_some] at isLeast
      obtain ⟨found, -, notBefore⟩ := isLeast
      constructor
      · convert (reaches (places + 1)).mp (of_decide_eq_true found) using 2
        push_cast
        ring
      · have notYet : ¬ denominator ≤ numerator * 10 ^ places := by
          cases places with
          | zero => simpa using isLarge
          | succ before =>
              have missed := notBefore before (Nat.lt_succ_self _)
              simpa using missed
        exact not_le.mp (mt (reaches places).mpr notYet)
    · rename_i isNone
      rw [List.find?_range_eq_none] at isNone
      have missed := isNone 399 (by decide)
      rw [Bool.not_eq_true'] at missed
      exact absurd ((reaches (399 + 1)).mpr notTiny) (of_decide_eq_false missed)

/-! ## Candidates -/

theorem candidate?_eq_some {number : Binary64} {top exponent : ℤ} {count digits : Nat}
    (found : number.candidate? top count = some (digits, exponent)) :
    exponent = top - count ∧ number.Attracts (digits * 10 ^ exponent) := by
  rw [← readsBack_iff]
  simp only [candidate?] at found
  split at found
  · rename_i readsBelow readsAbove
    cases found
    refine ⟨rfl, ?_⟩
    rw [nearest]
    split_ifs <;> assumption
  · rename_i readsBelow readsAbove
    cases found
    exact ⟨rfl, readsBelow⟩
  · rename_i readsBelow readsAbove
    cases found
    exact ⟨rfl, readsAbove⟩
  · cases found

/-- A whole number less than one away from a quotient is one of its two neighbours. -/
theorem eq_div_or_succ_of_near {numerator denominator whole : Nat} (proper : 0 < denominator)
    (near : |(numerator : ℚ) / denominator - whole| < 1) :
    whole = numerator / denominator ∨ whole = numerator / denominator + 1 := by
  have notAbove : ((numerator / denominator : Nat) : ℚ) ≤ numerator / denominator :=
    Nat.cast_div_le
  have below : (numerator : ℚ) / denominator < (numerator / denominator : Nat) + 1 := by
    rw [div_lt_iff₀' (by exact_mod_cast proper)]
    exact_mod_cast Nat.lt_mul_div_succ numerator proper
  rw [abs_lt] at near
  generalize numerator / denominator = quotient at notAbove below ⊢
  have atMost : (whole : ℚ) < quotient + 2 := by linarith
  have atLeast : (quotient : ℚ) < whole + 1 := by linarith
  have atMost : whole < quotient + 2 := by exact_mod_cast atMost
  have atLeast : quotient < whole + 1 := by exact_mod_cast atLeast
  omega

theorem candidate?_isSome {number : Binary64} {top : ℤ} {count digits : Nat}
    (attracts : number.Attracts (digits * 10 ^ (top - count)))
    (near : |number.quantity - digits * 10 ^ (top - count)| < 10 ^ (top - count)) :
    (number.candidate? top count).isSome = true := by
  have grid : (0 : ℚ) < 10 ^ (top - count) := by positivity
  have isShifted := shifted_eq number.significand 1 number.exponent
  have proper := shifted_pos number.significand number.exponent
    (by decide : 0 < 1)
  rw [Nat.cast_one, div_one, ← quantity] at isShifted
  rw [← readsBack_iff] at attracts
  simp only [candidate?]
  generalize shifted number.significand 1 number.exponent = scaled at isShifted proper ⊢
  generalize top - count = exponent at attracts near grid ⊢
  have denominatorProper : 0 < scaled.2 * 10 ^ exponent.toNat :=
    Nat.mul_pos proper (Nat.pow_pos (by decide))
  have onGrid : ((scaled.1 * 10 ^ (-exponent).toNat : Nat) : ℚ) /
      (scaled.2 * 10 ^ exponent.toNat : Nat) = number.quantity / 10 ^ exponent := by
    rw [← isShifted, zpow_eq_div 10 exponent]
    push_cast
    field_simp
  have isWithin : |number.quantity / 10 ^ exponent - digits| < 1 := by
    rw [div_sub' grid.ne', abs_div, abs_of_pos grid, div_lt_one grid, mul_comm]
    exact near
  rw [← onGrid] at isWithin
  have isNeighbour := eq_div_or_succ_of_near denominatorProper isWithin
  split
  · rfl
  · rfl
  · rfl
  · rename_i notBelow notAbove
    rcases isNeighbour with rfl | rfl
    · rw [attracts] at notBelow
      cases notBelow
    · rw [attracts] at notAbove
      cases notAbove

/-! ## The search -/

theorem findSome?_range {α : Type} {find? : Nat → Option α} {count : Nat} {found : α}
    (isFirst : (List.range count).findSome? find? = some found) :
    ∃ index < count, find? index = some found ∧ ∀ before < index, find? before = none := by
  induction count with
  | zero => cases isFirst
  | succ count ih =>
      rw [List.range_succ, List.findSome?_append, Option.or_eq_some_iff] at isFirst
      rcases isFirst with isEarlier | ⟨noneEarlier, isLast⟩
      · obtain ⟨index, isLess, isFound, isLeast⟩ := ih isEarlier
        exact ⟨index, Nat.lt_succ_of_lt isLess, isFound, isLeast⟩
      · refine ⟨count, Nat.lt_succ_self _, ?_, fun before isBefore => ?_⟩
        · simpa using isLast
        · exact List.findSome?_eq_none_iff.mp noneEarlier before (List.mem_range.mpr isBefore)

theorem withoutTrailingZeros_eq (fuel digits : Nat) (exponent : ℤ) :
    ((withoutTrailingZeros fuel digits exponent).1 : ℚ) *
        10 ^ (withoutTrailingZeros fuel digits exponent).2 = digits * 10 ^ exponent := by
  fun_induction withoutTrailingZeros fuel digits exponent with
  | case1 => rfl
  | case2 fuel digits exponent isZero ih =>
      have isTen : digits = digits / 10 * 10 := by omega
      rw [ih, zpow_add₀ (by norm_num), zpow_one]
      nth_rewrite 2 [isTen]
      push_cast
      ring
  | case3 => rfl

theorem withoutTrailingZeros_le (fuel digits : Nat) (exponent : ℤ) :
    (withoutTrailingZeros fuel digits exponent).1 ≤ digits := by
  fun_induction withoutTrailingZeros fuel digits exponent with
  | case1 => exact le_refl _
  | case2 fuel digits exponent isZero ih => exact ih.trans (Nat.div_le_self _ _)
  | case3 => exact le_refl _

/-- The number of digits in front of the point. -/
def top (number : Binary64) : ℤ :=
  magnitude (shifted number.significand 1 number.exponent).1
    (shifted number.significand 1 number.exponent).2

theorem top_bounds {number : Binary64} (notTiny : (10 : ℚ) ^ (-400 : ℤ) ≤ number.quantity) :
    (10 : ℚ) ^ (number.top - 1) ≤ number.quantity ∧ number.quantity < 10 ^ number.top := by
  have isShifted := shifted_eq number.significand 1 number.exponent
  rw [Nat.cast_one, div_one, ← quantity] at isShifted
  have bounds := magnitude_bounds
    (shifted_pos number.significand number.exponent (by decide : 0 < 1))
    (isShifted ▸ notTiny)
  rwa [isShifted] at bounds

/-- If there is a candidate with some number of digits, the first one is taken. -/
theorem shortest_of_isSome {number : Binary64} {index : Nat} (few : index < 17)
    (isFound : (number.candidate? number.top (index + 1)).isSome = true) :
    ∃ other ≤ index, ∃ digits,
      number.candidate? number.top (other + 1) =
          some (digits, number.top - (other + 1 : ℕ)) ∧
        number.shortest =
          withoutTrailingZeros 20 digits (number.top - (other + 1 : ℕ)) := by
  rw [Binary64.shortest, ← top]
  split
  · rename_i digits exponent isFirst
    obtain ⟨other, -, isOther, noneBefore⟩ := findSome?_range isFirst
    have notAfter : other ≤ index := by
      by_contra isAfter
      rw [noneBefore index (not_le.mp isAfter)] at isFound
      cases isFound
    obtain ⟨rfl, -⟩ := candidate?_eq_some isOther
    exact ⟨other, notAfter, digits, isOther, rfl⟩
  · rename_i isNone
    have missed := List.findSome?_eq_none_iff.mp isNone index (List.mem_range.mpr few)
    rw [missed] at isFound
    cases isFound

/-! ## Seventeen digits are enough -/

theorem Attracts.near {number : Binary64} {quantity : ℚ} (attracts : number.Attracts quantity) :
    |quantity - number.quantity| ≤ 2 ^ number.exponent / 2 := by
  have unit : (0 : ℚ) < 2 ^ number.exponent := by positivity
  have notAbove := attracts.le_upper
  have notBelow := attracts.lower_le
  have isReach : number.quantity - 2 ^ number.exponent / 2 ≤ number.lower := by
    rcases Nat.eq_zero_or_pos number.significand with isZero | notZero
    · rw [Binary64.quantity, lower, isZero]
      split_ifs <;> simp <;> positivity
    · have half := number.reach_le
      rw [lower_eq notZero, Binary64.quantity]
      nlinarith
  rw [upper_eq] at notAbove
  rw [abs_le]
  constructor
  · linarith
  · rw [Binary64.quantity]
    linarith

theorem IsNormal.notTiny {number : Binary64} (isNormal : number.IsNormal)
    (notZero : 0 < number.significand) : (10 : ℚ) ^ (-400 : ℤ) ≤ number.quantity := by
  have one : (1 : ℚ) ≤ number.significand := by exact_mod_cast notZero
  calc (10 : ℚ) ^ (-400 : ℤ) ≤ 10 ^ ((-1 : ℤ) * 358) :=
        zpow_le_zpow_right₀ (by norm_num) (by norm_num)
    _ ≤ 2 ^ ((-3 : ℤ) * 358) := by
        rw [zpow_mul, zpow_mul]
        exact zpow_le_zpow_left₀ (by norm_num) (by norm_num) (by norm_num)
    _ ≤ 2 ^ number.exponent := by
        gcongr
        · norm_num
        · exact isNormal.atLeast
    _ ≤ number.quantity := le_mul_of_one_le_left (by positivity) one

/-- A number reaches further than half the gap between decimals of seventeen digits. -/
theorem IsNormal.lt_reach {number : Binary64} (isNormal : number.IsNormal) :
    (number.significand : ℚ) / 10 ^ 16 < 2 * number.reach := by
  have small : (number.significand : ℚ) < 2 ^ 53 := by exact_mod_cast isNormal.small
  rw [reach]
  split_ifs with isNarrow
  · simp only [Binary64.isNarrow, Bool.and_eq_true, beq_iff_eq] at isNarrow
    rw [isNarrow.1]
    norm_num
  · rw [div_lt_iff₀ (by norm_num)]
    linarith

/-- Of the decimals of seventeen digits the nearest one reads back. -/
theorem IsNormal.candidate? {number : Binary64} (isNormal : number.IsNormal)
    (notZero : 0 < number.significand) :
    (number.candidate? number.top 17).isSome = true := by
  have ten : (10 : ℚ) ≠ 0 := by norm_num
  have one : (1 : ℚ) ≤ number.significand := by exact_mod_cast notZero
  have unit : (0 : ℚ) < 2 ^ number.exponent := by positivity
  have grid : (0 : ℚ) < 10 ^ (number.top - 17) := by positivity
  obtain ⟨atLeast, -⟩ := top_bounds (isNormal.notTiny notZero)
  have isFine : (10 : ℚ) ^ (number.top - 17) ≤ number.quantity / 10 ^ 16 := by
    rw [le_div_iff₀ (by norm_num)]
    refine le_trans (le_of_eq ?_) atLeast
    rw [← zpow_natCast, ← zpow_add₀ ten]
    congr 1
    omega
  obtain ⟨digits, isNearest⟩ : ∃ digits : Nat,
      |number.quantity - digits * 10 ^ (number.top - 17)| ≤ 10 ^ (number.top - 17) / 2 := by
    obtain ⟨quotient, isQuotient⟩ : ∃ quotient : ℚ,
        number.quantity = quotient * 10 ^ (number.top - 17) :=
      ⟨number.quantity / 10 ^ (number.top - 17), by field_simp⟩
    have positive : 0 < quotient * 10 ^ (number.top - 17) := by
      rw [← isQuotient, quantity]
      positivity
    have notNegative : 0 ≤ quotient + 1 / 2 := by
      have := (mul_pos_iff_of_pos_right grid).mp positive
      linarith
    refine ⟨⌊quotient + 1 / 2⌋₊, ?_⟩
    have notAbove := Nat.floor_le notNegative
    have below := Nat.lt_floor_add_one (quotient + 1 / 2)
    rw [isQuotient, ← sub_mul, abs_mul, abs_of_pos grid]
    rw [div_eq_inv_mul (_ ^ _)]
    refine mul_le_mul_of_nonneg_right ?_ grid.le
    rw [abs_le]
    constructor <;> linarith
  obtain ⟨scaled, isScaled⟩ : ∃ scaled : ℚ,
      digits * 10 ^ (number.top - 17) = scaled * 2 ^ number.exponent :=
    ⟨digits * 10 ^ (number.top - 17) / 2 ^ number.exponent, by field_simp⟩
  have isClose : |(number.significand : ℚ) - scaled| < number.reach := by
    have isReach := isNormal.lt_reach
    rw [quantity] at isFine isNearest
    rw [isScaled, ← sub_mul, abs_mul, abs_of_pos unit] at isNearest
    have isFiner : |(number.significand : ℚ) - scaled| * 2 ^ number.exponent <
        number.reach * 2 ^ number.exponent := by nlinarith
    exact (mul_lt_mul_iff_left₀ unit).mp isFiner
  have half := number.reach_le
  obtain ⟨isBelow, isAbove⟩ := abs_lt.mp isClose
  refine candidate?_isSome (isScaled ▸ ?_) (lt_of_le_of_lt isNearest (half_lt_self grid))
  refine attracts_of_within (by linarith) (by linarith) (by linarith) fun tie => ?_
  rcases tie with isEnd | isEnd <;> linarith

/-- The shortest decimal reads back, and has at most eighteen digits. -/
theorem IsNormal.shortest {number : Binary64} (isNormal : number.IsNormal)
    (notZero : 0 < number.significand) :
    number.Attracts (number.shortest.1 * 10 ^ number.shortest.2) ∧
      0 < number.shortest.1 ∧ number.shortest.1 < 10 ^ 18 := by
  have one : (1 : ℚ) ≤ number.significand := by exact_mod_cast notZero
  have unit : (0 : ℚ) < 2 ^ number.exponent := by positivity
  obtain ⟨-, below⟩ := top_bounds (isNormal.notTiny notZero)
  obtain ⟨other, notAfter, found, isOther, isShortest⟩ :=
    shortest_of_isSome (by decide) (isNormal.candidate? notZero)
  obtain ⟨-, attracts⟩ := candidate?_eq_some isOther
  have same := withoutTrailingZeros_eq 20 found (number.top - (other + 1 : ℕ))
  have notMore := withoutTrailingZeros_le 20 found (number.top - (other + 1 : ℕ))
  rw [← isShortest] at same notMore
  obtain ⟨isAbove, isBelow⟩ := abs_le.mp attracts.near
  have isLarge : (2 : ℚ) ^ number.exponent ≤ number.quantity :=
    le_mul_of_one_le_left unit.le one
  have grid : (0 : ℚ) < 10 ^ number.shortest.2 := by positivity
  refine ⟨same ▸ attracts, ?_, lt_of_le_of_lt notMore ?_⟩
  · have positive : (0 : ℚ) < number.shortest.1 * 10 ^ number.shortest.2 := by
      rw [same]
      linarith
    exact_mod_cast (mul_pos_iff_of_pos_right grid).mp positive
  · have isTop : (10 : ℚ) ^ number.top =
        10 ^ (other + 1) * 10 ^ (number.top - (other + 1 : ℕ)) := by
      rw [← zpow_natCast, ← zpow_add₀ (by norm_num)]
      congr 1
      omega
    have isLess : (found : ℚ) * 10 ^ (number.top - (other + 1 : ℕ)) <
        2 * 10 ^ (other + 1) * 10 ^ (number.top - (other + 1 : ℕ)) := by
      rw [mul_assoc, ← isTop]
      linarith
    rw [mul_lt_mul_iff_left₀ (by positivity)] at isLess
    have isLess : found < 2 * 10 ^ (other + 1) := by exact_mod_cast isLess
    have few : 10 ^ (other + 1) ≤ 10 ^ 17 := Nat.pow_le_pow_right (by decide) (by omega)
    omega

/-! ## Short decimals -/

/-- A decimal of fifteen digits that is neither too large nor too small, and to which a
binary number reads back. -/
structure Shortens (number : Binary64) (digits : Nat) (exponent : ℤ) : Prop where
  isNormal : number.IsNormal
  attracts : number.Attracts (digits * 10 ^ exponent)
  atLeast : 10 ^ 14 ≤ digits
  below : digits < 10 ^ 15
  notTiny : -40 ≤ exponent

variable {number : Binary64} {digits : Nat} {exponent : ℤ}

theorem Shortens.full (shortens : Shortens number digits exponent) :
    2 ^ 52 ≤ number.significand := by
  by_contra notFull
  have isLeast : number.exponent = -1074 :=
    le_antisymm (not_lt.mp (mt shortens.isNormal.full notFull)) shortens.isNormal.atLeast
  have near := (abs_le.mp shortens.attracts.near).2
  have isLess : number.quantity ≤ 2 ^ 52 * 2 ^ number.exponent := by
    rw [quantity]
    gcongr
    exact_mod_cast (not_le.mp notFull).le
  have isTiny : (2 : ℚ) ^ number.exponent ≤ 2 ^ (-200 : ℤ) := by
    rw [isLeast]
    gcongr <;> norm_num
  have isLarge : (10 : ℚ) ^ 14 * 10 ^ (-40 : ℤ) ≤ digits * 10 ^ exponent := by
    gcongr
    · exact_mod_cast shortens.atLeast
    · norm_num
    · exact shortens.notTiny
  have apart : (2 ^ 52 + 1) * (2 : ℚ) ^ (-200 : ℤ) < 10 ^ 14 * 10 ^ (-40 : ℤ) := by norm_num
  have unit : (0 : ℚ) < 2 ^ number.exponent := by positivity
  have isSmall : (digits : ℚ) * 10 ^ exponent ≤ (2 ^ 52 + 1) * 2 ^ number.exponent := by
    linarith
  have isSmaller : (2 ^ 52 + 1) * (2 : ℚ) ^ number.exponent ≤
      (2 ^ 52 + 1) * 2 ^ (-200 : ℤ) := by gcongr
  exact absurd (isLarge.trans (isSmall.trans isSmaller)) (not_le.mpr apart)

/-- The gap between two decimals of fifteen digits is much wider than what a number
attracts. -/
theorem Shortens.unit_lt (shortens : Shortens number digits exponent) :
    4 * (2 : ℚ) ^ number.exponent < 10 ^ exponent := by
  have grid : (0 : ℚ) < 10 ^ exponent := by positivity
  have near := abs_le.mp shortens.attracts.near
  have isFull : (2 : ℚ) ^ 52 * 2 ^ number.exponent ≤ number.quantity := by
    rw [quantity]
    gcongr
    exact_mod_cast shortens.full
  have isLess : (digits : ℚ) * 10 ^ exponent < 10 ^ 15 * 10 ^ exponent := by
    gcongr
    exact_mod_cast shortens.below
  linarith

theorem Shortens.unique (shortens : Shortens number digits exponent) {others : Nat}
    (attracts : number.Attracts (others * 10 ^ exponent)) : others = digits := by
  have grid : (0 : ℚ) < 10 ^ exponent := by positivity
  have isNarrow := shortens.unit_lt
  have near := abs_le.mp shortens.attracts.near
  have otherNear := abs_le.mp attracts.near
  have notMore : (others : ℚ) * 10 ^ exponent < (digits + 1) * 10 ^ exponent := by
    linarith
  have notLess : (digits : ℚ) * 10 ^ exponent < (others + 1) * 10 ^ exponent := by
    linarith
  rw [mul_lt_mul_iff_left₀ grid] at notMore notLess
  have notMore : others < digits + 1 := by exact_mod_cast notMore
  have notLess : digits < others + 1 := by exact_mod_cast notLess
  omega

/-- The number is about as large as the decimal. -/
theorem Shortens.magnitude (shortens : Shortens number digits exponent) :
    (10 : ℚ) ^ (exponent + 13) < number.quantity ∧
      number.quantity < 10 ^ (exponent + 15) := by
  have ten : (10 : ℚ) ≠ 0 := by norm_num
  have grid : (0 : ℚ) < 10 ^ exponent := by positivity
  have isNarrow := shortens.unit_lt
  have near := abs_le.mp shortens.attracts.near
  have atLeast : (10 : ℚ) ^ 14 * 10 ^ exponent ≤ digits * 10 ^ exponent := by
    gcongr
    exact_mod_cast shortens.atLeast
  have atMost : (digits : ℚ) * 10 ^ exponent ≤ (10 ^ 15 - 1) * 10 ^ exponent := by
    gcongr
    have isLess : (digits : ℚ) + 1 ≤ 10 ^ 15 := by exact_mod_cast shortens.below
    linarith
  rw [zpow_add₀ ten, zpow_add₀ ten]
  constructor <;> norm_num <;> linarith

/-- The shortest decimal is the one of fifteen digits, if there is one. -/
theorem Shortens.shortest (shortens : Shortens number digits exponent) :
    (number.shortest.1 : ℚ) * 10 ^ number.shortest.2 = digits * 10 ^ exponent := by
  have ten : (1 : ℚ) < 10 := by norm_num
  obtain ⟨isLarge, isSmall⟩ := shortens.magnitude
  have notTiny : (10 : ℚ) ^ (-400 : ℤ) ≤ number.quantity := by
    refine le_trans ?_ isLarge.le
    gcongr
    · exact ten.le
    · have := shortens.notTiny
      omega
  obtain ⟨atLeast, below⟩ := top_bounds notTiny
  have notLarger : number.top - 1 < exponent + 15 :=
    (zpow_lt_zpow_iff_right₀ ten).mp (lt_of_le_of_lt atLeast isSmall)
  have notSmaller : exponent + 13 < number.top :=
    (zpow_lt_zpow_iff_right₀ ten).mp (isLarge.trans below)
  obtain ⟨index, isIndex⟩ : ∃ index : Nat, number.top = exponent + (index + 1 : ℕ) :=
    ⟨(number.top - exponent - 1).toNat, by omega⟩
  have onGrid : number.top - (index + 1 : ℕ) = exponent := by omega
  have isFound : (number.candidate? number.top (index + 1)).isSome = true := by
    have near := abs_le.mp shortens.attracts.near
    have isNarrow := shortens.unit_lt
    have unit : (0 : ℚ) < 2 ^ number.exponent := by positivity
    have attracts := shortens.attracts
    rw [← onGrid] at attracts
    refine candidate?_isSome attracts ?_
    rw [onGrid, abs_lt]
    constructor <;> linarith
  obtain ⟨other, notAfter, found, isOther, isShortest⟩ := shortest_of_isSome (by omega) isFound
  obtain ⟨-, attracts⟩ := candidate?_eq_some isOther
  rw [isShortest, withoutTrailingZeros_eq]
  -- A shorter decimal is one of fifteen digits that ends in zeros.
  obtain ⟨zeros, isRest⟩ : ∃ zeros : Nat, number.top - (other + 1 : ℕ) = exponent + zeros :=
    ⟨index - other, by omega⟩
  have isPadded : (found : ℚ) * 10 ^ (number.top - (other + 1 : ℕ)) =
      (found * 10 ^ zeros : ℕ) * 10 ^ exponent := by
    rw [isRest, zpow_add₀ (by norm_num), zpow_natCast]
    push_cast
    ring
  rw [isPadded] at attracts ⊢
  rw [shortens.unique attracts]

end ClearingHouse.Binary64
