import Mathlib.Data.Rat.Defs
import Mathlib.Tactic.FieldSimp
import Mathlib.Tactic.Linarith
import Mathlib.Tactic.NormNum
import Mathlib.Tactic.Positivity
import Mathlib.Tactic.Ring
import Mathlib.Algebra.Order.Field.Power
import Mathlib.Algebra.Order.Field.Rat
import ClearingHouse.Decimal.Binary64

/-!
# What a binary number stands for

A binary number stands for a rational number, and attracts the rational numbers that are
closer to it than to its neighbours.  A quotient is rounded to a number that attracts it.
-/

namespace ClearingHouse.Binary64

/-! ## Powers and quotients -/

/-- A power with an integer exponent is a quotient of two with natural ones. -/
theorem zpow_eq_div (base : ℚ) (exponent : ℤ) :
    base ^ exponent = base ^ exponent.toNat / base ^ (-exponent).toNat := by
  obtain ⟨power, rfl | rfl⟩ := exponent.eq_nat_or_neg
  · simp
  · simp

theorem shifted_pos (numerator : Nat) {denominator : Nat} (exponent : ℤ)
    (positive : 0 < denominator) :
    0 < (shifted numerator denominator exponent).2 :=
  Nat.mul_pos positive (Nat.pow_pos (by decide))

theorem shifted_eq (numerator denominator : Nat) (exponent : ℤ) :
    ((shifted numerator denominator exponent).1 : ℚ) /
        (shifted numerator denominator exponent).2 =
      numerator / denominator * 2 ^ exponent := by
  rw [zpow_eq_div, div_mul_div_comm, shifted]
  push_cast
  rfl

/-! ## Nearest integers -/

theorem div_le_nearest (numerator denominator : Nat) :
    numerator / denominator ≤ nearest numerator denominator := by
  simp only [nearest]
  split_ifs <;> omega

/-- No integer is nearer, and of two that are equally near the even one is taken. -/
theorem nearest_bounds (numerator : Nat) {denominator : Nat} (positive : 0 < denominator) :
    2 * numerator ≤ (2 * nearest numerator denominator + 1) * denominator ∧
      2 * nearest numerator denominator * denominator ≤ 2 * numerator + denominator ∧
      (2 * numerator = (2 * nearest numerator denominator + 1) * denominator ∨
        2 * nearest numerator denominator * denominator = 2 * numerator + denominator →
          nearest numerator denominator % 2 = 0) := by
  have whole := Nat.div_add_mod numerator denominator
  have small := Nat.mod_lt numerator positive
  have expanded : ∀ factor, 2 * factor * denominator = 2 * (denominator * factor) ∧
      (2 * factor + 1) * denominator = 2 * (denominator * factor) + denominator :=
    fun factor => ⟨by ring, by ring⟩
  have next := Nat.mul_add denominator (numerator / denominator) 1
  simp only [nearest]
  generalize numerator / denominator = quotient at whole next ⊢
  generalize numerator % denominator = rest at whole small ⊢
  split_ifs with below above even
  · rw [(expanded quotient).1, (expanded quotient).2]
    omega
  · rw [(expanded (quotient + 1)).1, (expanded (quotient + 1)).2]
    omega
  · rw [(expanded quotient).1, (expanded quotient).2]
    omega
  · rw [(expanded (quotient + 1)).1, (expanded (quotient + 1)).2]
    omega

/-! ## Numbers -/

/-- What a number stands for, without its sign. -/
def quantity (number : Binary64) : ℚ := number.significand * 2 ^ number.exponent

/-- Whether the neighbour below is closer than the one above, because it has a smaller
exponent. -/
def isNarrow (number : Binary64) : Bool :=
  number.significand == 2 ^ 52 && decide (-1074 < number.exponent)

/-- Halfway to the neighbour below. -/
def lower (number : Binary64) : ℚ :=
  ((4 * number.significand - if number.isNarrow then 1 else 2 : Nat) : ℚ) *
    (2 ^ number.exponent / 4)

/-- Halfway to the neighbour above. -/
def upper (number : Binary64) : ℚ :=
  ((4 * number.significand + 2 : Nat) : ℚ) * (2 ^ number.exponent / 4)

/-- Whether a quantity rounds to the number: it lies between the halfway points, which
belong to the number if its significand is even. -/
structure Attracts (number : Binary64) (quantity : ℚ) : Prop where
  above : number.lower < quantity ∨ number.significand % 2 = 0 ∧ number.lower = quantity
  below : quantity < number.upper ∨ number.significand % 2 = 0 ∧ quantity = number.upper

/-- How far the halfway point below is away, in units of the last place. -/
def reach (number : Binary64) : ℚ := if number.isNarrow then 1 / 4 else 1 / 2

theorem reach_le (number : Binary64) : number.reach ≤ 1 / 2 := by
  rw [reach]
  split_ifs <;> norm_num

theorem Attracts.le_upper {number : Binary64} {quantity : ℚ}
    (attracts : number.Attracts quantity) : quantity ≤ number.upper := by
  rcases attracts.below with isLess | ⟨-, isEnd⟩
  · exact isLess.le
  · exact isEnd.le

theorem Attracts.lower_le {number : Binary64} {quantity : ℚ}
    (attracts : number.Attracts quantity) : number.lower ≤ quantity := by
  rcases attracts.above with isLess | ⟨-, isEnd⟩
  · exact isLess.le
  · exact isEnd.le

theorem lower_eq {number : Binary64} (notZero : 0 < number.significand) :
    number.lower = (number.significand - number.reach) * 2 ^ number.exponent := by
  rw [lower, reach]
  cases number.isNarrow with
  | true =>
      rw [if_pos rfl, if_pos rfl, Nat.cast_sub (by omega)]
      push_cast
      ring
  | false =>
      rw [if_neg (by decide), if_neg (by decide), Nat.cast_sub (by omega)]
      push_cast
      ring

theorem upper_eq (number : Binary64) :
    number.upper = (number.significand + 1 / 2) * 2 ^ number.exponent := by
  rw [upper]
  push_cast
  ring

/-- A number attracts what is within its reach. -/
theorem attracts_of_within {number : Binary64} {scaled : ℚ} (positive : 0 < scaled)
    (notAbove : scaled ≤ number.significand + 1 / 2)
    (notBelow : number.significand - number.reach ≤ scaled)
    (even : scaled = number.significand + 1 / 2 ∨
      (number.significand : ℚ) - number.reach = scaled → number.significand % 2 = 0) :
    number.Attracts (scaled * 2 ^ number.exponent) := by
  have unit : (0 : ℚ) < 2 ^ number.exponent := by positivity
  constructor
  · rcases Nat.eq_zero_or_pos number.significand with isZero | notZero
    · left
      have isLeast : number.lower = 0 := by
        rw [lower, isZero]
        split_ifs <;> simp
      rw [isLeast]
      positivity
    · rw [lower_eq notZero]
      rcases notBelow.lt_or_eq with isLess | isEnd
      · exact Or.inl (by gcongr)
      · exact Or.inr ⟨even (Or.inr isEnd), by rw [isEnd]⟩
  · rw [upper_eq]
    rcases notAbove.lt_or_eq with isLess | isEnd
    · exact Or.inl (by gcongr)
    · exact Or.inr ⟨even (Or.inl isEnd), by rw [isEnd]⟩

/-! ## The leading exponent -/

theorem log2_bounds {number : Nat} (positive : 0 < number) :
    (2 : ℚ) ^ (Nat.log2 number : ℤ) ≤ number ∧
      (number : ℚ) < 2 ^ ((Nat.log2 number : ℤ) + 1) := by
  have notZero : number ≠ 0 := Nat.ne_of_gt positive
  constructor
  · rw [zpow_natCast]
    exact_mod_cast Nat.log2_self_le notZero
  · have isLess : number < 2 ^ (Nat.log2 number + 1) := Nat.lt_log2_self
    exact_mod_cast isLess

/-- Whether a quotient is below a power of two is seen once it is shifted. -/
theorem shifted_lt_iff {numerator denominator : Nat} (proper : 0 < denominator)
    (exponent : ℤ) (bits : Nat) :
    (shifted numerator denominator (-exponent)).1 <
        (shifted numerator denominator (-exponent)).2 * 2 ^ bits ↔
      (numerator : ℚ) / denominator < 2 ^ (exponent + bits) := by
  have positive : (0 : ℚ) < (shifted numerator denominator (-exponent)).2 := by
    exact_mod_cast shifted_pos _ (-exponent) proper
  have isShifted := shifted_eq numerator denominator (-exponent)
  rw [zpow_neg, ← div_eq_mul_inv] at isShifted
  rw [zpow_add₀ (by norm_num), zpow_natCast, ← div_lt_iff₀' (by positivity), ← isShifted,
    div_lt_iff₀' positive]
  exact_mod_cast Iff.rfl

/-- At the leading exponent a quotient has fifty-three bits in front of the point, or
fewer if that is the least exponent. -/
theorem leadingExponent_bounds {numerator denominator : Nat} (positive : 0 < numerator)
    (proper : 0 < denominator) :
    -1074 ≤ leadingExponent numerator denominator ∧
      (numerator : ℚ) / denominator < 2 ^ (leadingExponent numerator denominator + 53) ∧
      (-1074 < leadingExponent numerator denominator →
        (2 : ℚ) ^ (leadingExponent numerator denominator + 52) ≤
          (numerator : ℚ) / denominator) := by
  obtain ⟨numeratorAtLeast, numeratorBelow⟩ := log2_bounds positive
  obtain ⟨denominatorAtLeast, denominatorBelow⟩ := log2_bounds proper
  have denominatorPositive : (0 : ℚ) < denominator := by exact_mod_cast proper
  have two : (2 : ℚ) ≠ 0 := by norm_num
  obtain ⟨estimate, isEstimate⟩ :
      ∃ estimate : ℤ, estimate = Nat.log2 numerator - Nat.log2 denominator - 52 := ⟨_, rfl⟩
  have below : (numerator : ℚ) / denominator < 2 ^ (estimate + 53) := by
    rw [div_lt_iff₀ denominatorPositive]
    calc (numerator : ℚ) < 2 ^ ((Nat.log2 numerator : ℤ) + 1) := numeratorBelow
      _ = 2 ^ (estimate + 53) * 2 ^ (Nat.log2 denominator : ℤ) := by
          rw [← zpow_add₀ two]
          congr 1
          omega
      _ ≤ 2 ^ (estimate + 53) * denominator := by gcongr
  have above : (2 : ℚ) ^ (estimate + 51) < (numerator : ℚ) / denominator := by
    rw [lt_div_iff₀ denominatorPositive]
    calc (2 : ℚ) ^ (estimate + 51) * denominator
        < 2 ^ (estimate + 51) * 2 ^ ((Nat.log2 denominator : ℤ) + 1) := by gcongr
      _ = 2 ^ (Nat.log2 numerator : ℤ) := by
          rw [← zpow_add₀ two]
          congr 1
          omega
      _ ≤ numerator := numeratorAtLeast
  obtain ⟨exponent, isExponent, isBelow, isAbove⟩ : ∃ exponent : ℤ,
      leadingExponent numerator denominator = max exponent (-1074) ∧
        (numerator : ℚ) / denominator < 2 ^ (exponent + 53) ∧
          (2 : ℚ) ^ (exponent + 52) ≤ (numerator : ℚ) / denominator := by
    simp only [leadingExponent, ← isEstimate, shifted_lt_iff proper]
    split_ifs with isLess
    · refine ⟨estimate - 1, rfl, ?_, ?_⟩
      · rwa [show estimate - 1 + 53 = estimate + (52 : ℕ) by omega]
      · rw [show estimate - 1 + 52 = estimate + 51 by omega]
        exact above.le
    · exact ⟨estimate, rfl, below, not_lt.mp isLess⟩
  rw [isExponent]
  refine ⟨le_max_right _ _, lt_of_lt_of_le isBelow ?_, fun isLarger => ?_⟩
  · gcongr
    · norm_num
    · exact le_max_left _ _
  · rwa [max_eq_left (by omega)]

/-! ## Rounding -/

/-- The significand is full unless the exponent is the least one. -/
structure IsNormal (number : Binary64) : Prop where
  atLeast : -1074 ≤ number.exponent
  small : number.significand < 2 ^ 53
  full : -1074 < number.exponent → 2 ^ 52 ≤ number.significand

/-- The nearest integer is at most half away, and even where it is exactly half away. -/
theorem nearest_error (numerator : Nat) {denominator : Nat} (positive : 0 < denominator) :
    (numerator : ℚ) / denominator ≤ nearest numerator denominator + 1 / 2 ∧
      (nearest numerator denominator : ℚ) - 1 / 2 ≤ numerator / denominator ∧
      ((numerator : ℚ) / denominator = nearest numerator denominator + 1 / 2 ∨
        (nearest numerator denominator : ℚ) - 1 / 2 = numerator / denominator →
          nearest numerator denominator % 2 = 0) := by
  have denominatorPositive : (0 : ℚ) < denominator := by exact_mod_cast positive
  obtain ⟨notAbove, notBelow, even⟩ := nearest_bounds numerator positive
  generalize nearest numerator denominator = whole at notAbove notBelow even ⊢
  have notAbove : (2 : ℚ) * numerator ≤ (2 * whole + 1) * denominator := by
    exact_mod_cast notAbove
  have notBelow : (2 : ℚ) * whole * denominator ≤ 2 * numerator + denominator := by
    exact_mod_cast notBelow
  refine ⟨?_, ?_, fun tie => even ?_⟩
  · rw [div_le_iff₀ denominatorPositive]
    linarith
  · rw [le_div_iff₀ denominatorPositive]
    linarith
  · rw [div_eq_iff denominatorPositive.ne', eq_div_iff denominatorPositive.ne'] at tie
    rcases tie with isAbove | isBelow
    · left
      have same : (2 : ℚ) * numerator = (2 * whole + 1) * denominator := by linarith
      exact_mod_cast same
    · right
      have same : (2 : ℚ) * whole * denominator = 2 * numerator + denominator := by linarith
      exact_mod_cast same

/-- Above the least exponent the nearest integer of a full quotient is full. -/
theorem full_of_nearest {significand : Nat} {scaled : ℚ} (isFull : 2 ^ 52 ≤ scaled)
    (notAbove : scaled ≤ significand + 1 / 2) : 2 ^ 52 ≤ significand := by
  have isLess : (2 : ℚ) ^ 52 < significand + 1 := by linarith
  exact Nat.lt_succ_iff.mp (by exact_mod_cast isLess)

/-- A quotient is attracted by its nearest integer. -/
theorem attracts_of_nearest {number : Binary64} {scaled : ℚ} (positive : 0 < scaled)
    (isFull : -1074 < number.exponent → 2 ^ 52 ≤ scaled)
    (notAbove : scaled ≤ number.significand + 1 / 2)
    (notBelow : (number.significand : ℚ) - 1 / 2 ≤ scaled)
    (even : scaled = number.significand + 1 / 2 ∨ (number.significand : ℚ) - 1 / 2 = scaled →
      number.significand % 2 = 0) :
    number.Attracts (scaled * 2 ^ number.exponent) := by
  cases isNarrow : number.isNarrow with
  -- The quotient is not below a full significand, so the nearer neighbour is out of the way.
  | true =>
      have narrow := isNarrow
      rw [Binary64.isNarrow, Bool.and_eq_true, beq_iff_eq, decide_eq_true_eq] at narrow
      have isLeast : (number.significand : ℚ) = 2 ^ 52 := by exact_mod_cast narrow.1
      have atLeast := isFull narrow.2
      refine attracts_of_within positive notAbove ?_ fun _ => by rw [narrow.1]
      rw [reach, if_pos isNarrow]
      linarith
  | false =>
      have isHalf : number.reach = 1 / 2 := by
        rw [reach, isNarrow]
        rfl
      refine attracts_of_within positive notAbove ?_ ?_
      · rwa [isHalf]
      · rwa [isHalf]

/-- A quotient whose nearest integer has a bit too many is attracted by the least
significand at the next exponent. -/
theorem attracts_of_carry {negative : Bool} {exponent : ℤ} {scaled : ℚ}
    (atLeast : -1074 ≤ exponent) (isBelow : scaled < 2 ^ 53)
    (notBelow : (2 : ℚ) ^ 53 - 1 / 2 ≤ scaled) :
    (⟨negative, 2 ^ 52, exponent + 1⟩ : Binary64).Attracts (scaled * 2 ^ exponent) := by
  have isHalved : scaled * 2 ^ exponent = scaled / 2 * 2 ^ (exponent + 1) := by
    rw [zpow_add₀ (by norm_num), zpow_one]
    ring
  have isNarrow : (⟨negative, 2 ^ 52, exponent + 1⟩ : Binary64).isNarrow = true := by
    simp only [Binary64.isNarrow, beq_self_eq_true, Bool.true_and, decide_eq_true_eq]
    omega
  rw [isHalved]
  refine attracts_of_within (by linarith) ?_ ?_ fun _ => by norm_num
  · push_cast
    linarith
  · rw [reach, if_pos isNarrow]
    push_cast
    linarith

theorem rounded_eq_some {negative : Bool} {numerator denominator : Nat} {number : Binary64}
    (positive : 0 < numerator) (proper : 0 < denominator)
    (made : rounded negative numerator denominator = some number) :
    number.negative = negative ∧ number.IsNormal ∧
      number.Attracts (numerator / denominator) := by
  have notZero : numerator ≠ 0 := Nat.ne_of_gt positive
  have two : (2 : ℚ) ≠ 0 := by norm_num
  obtain ⟨atLeast, isBelow, isAbove⟩ := leadingExponent_bounds positive proper
  have isShifted := shifted_eq numerator denominator (-leadingExponent numerator denominator)
  have shiftedPositive := shifted_pos numerator
    (-leadingExponent numerator denominator) proper
  rw [rounded, if_neg notZero] at made
  simp only at made
  generalize shifted numerator denominator (-leadingExponent numerator denominator) = scaled
    at isShifted shiftedPositive made
  generalize leadingExponent numerator denominator = exponent
    at atLeast isBelow isAbove isShifted made
  obtain ⟨notAbove, notBelow, even⟩ := nearest_error scaled.1 shiftedPositive
  generalize nearest scaled.1 scaled.2 = significand at made notAbove notBelow even
  have unit : (0 : ℚ) < 2 ^ exponent := by positivity
  obtain ⟨quotient, isQuotient⟩ : ∃ quotient : ℚ, quotient = scaled.1 / scaled.2 := ⟨_, rfl⟩
  have isWhole : (numerator : ℚ) / denominator = quotient * 2 ^ exponent := by
    rw [isQuotient, isShifted, zpow_neg, inv_mul_cancel_right₀ unit.ne']
  rw [← isQuotient] at notAbove notBelow even
  have quotientPositive : 0 < quotient := by
    have isPositive : (0 : ℚ) < numerator / denominator := by positivity
    rw [isWhole] at isPositive
    exact (mul_pos_iff_of_pos_right unit).mp isPositive
  rw [isWhole, zpow_add₀ two, mul_comm ((2 : ℚ) ^ exponent), mul_lt_mul_iff_left₀ unit]
    at isBelow
  have isFull : -1074 < exponent → 2 ^ 52 ≤ quotient := by
    intro isLarger
    have isAbove := isAbove isLarger
    rwa [isWhole, zpow_add₀ two, mul_comm ((2 : ℚ) ^ exponent), mul_le_mul_iff_left₀ unit]
      at isAbove
  rw [isWhole]
  by_cases carries : significand = 2 ^ 53
  -- The significand has grown to fifty-four bits, and the next exponent is taken.
  · subst carries
    simp only [if_true, Option.ite_none_left_eq_some, Option.some.injEq] at made
    obtain ⟨-, rfl⟩ := made
    push_cast at notBelow
    exact ⟨rfl, ⟨by dsimp only; omega, by norm_num, fun _ => le_refl _⟩,
      attracts_of_carry atLeast isBelow notBelow⟩
  · simp only [carries, if_false, Option.ite_none_left_eq_some, Option.some.injEq] at made
    obtain ⟨-, rfl⟩ := made
    have notLarge : significand ≤ 2 ^ 53 := by
      have isLess : (significand : ℚ) < 2 ^ 53 + 1 := by linarith
      exact Nat.lt_succ_iff.mp (by exact_mod_cast isLess)
    exact ⟨rfl, ⟨atLeast, lt_of_le_of_ne notLarge carries,
        fun isLarger => full_of_nearest (isFull isLarger) notAbove⟩,
      attracts_of_nearest quotientPositive isFull notAbove notBelow even⟩

end ClearingHouse.Binary64
