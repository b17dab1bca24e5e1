import ClearingHouse.Text.Numeral

/-!
# Decimal numbers of bounded size

A decimal number is a sign, a mantissa below `2 ^ 96` and the number of its
digits that stand after the point, at most 28.  Two decimals with different
scales may have the same value; `normalized` picks the one without trailing
zeros after the point.
-/

namespace ClearingHouse

/-- A decimal number: `mantissa / 10 ^ scale`, possibly negated. -/
structure Decimal where
  /-- Whether the number carries a minus sign.  Zero may carry one too. -/
  negative : Bool
  mantissa : Nat
  /-- How many of the digits stand after the point. -/
  scale : Nat
  mantissa_lt : mantissa < 2 ^ 96
  scale_le : scale ≤ 28
  deriving DecidableEq

namespace Decimal

def of? (negative : Bool) (mantissa scale : Nat) : Option Decimal :=
  if bounded : mantissa < 2 ^ 96 ∧ scale ≤ 28 then
    some ⟨negative, mantissa, scale, bounded.1, bounded.2⟩
  else none

def zero : Decimal := ⟨false, 0, 0, by decide, by decide⟩

/-- Drop zeros from the end of the digits after the point. -/
def stripZeros (mantissa : Nat) : Nat → Nat × Nat
  | 0 => (mantissa, 0)
  | scale + 1 =>
      if mantissa % 10 = 0 then stripZeros (mantissa / 10) scale
      else (mantissa, scale + 1)

theorem stripZeros_bounded (mantissa scale : Nat) :
    (stripZeros mantissa scale).1 ≤ mantissa ∧
      (stripZeros mantissa scale).2 ≤ scale := by
  induction scale generalizing mantissa with
  | zero => simp [stripZeros]
  | succ scale ih =>
      unfold stripZeros
      split
      · have tail := ih (mantissa / 10)
        have smaller : mantissa / 10 ≤ mantissa := Nat.div_le_self _ _
        omega
      · exact ⟨Nat.le_refl _, Nat.le_refl _⟩

theorem stripZeros_value (mantissa scale : Nat) :
    (stripZeros mantissa scale).1 * 10 ^ scale =
      mantissa * 10 ^ (stripZeros mantissa scale).2 := by
  induction scale generalizing mantissa with
  | zero => simp [stripZeros]
  | succ scale ih =>
      unfold stripZeros
      split
      · rename_i divisible
        have exact : mantissa = mantissa / 10 * 10 := by omega
        have tail := ih (mantissa / 10)
        calc
          (stripZeros (mantissa / 10) scale).1 * 10 ^ (scale + 1)
              = (stripZeros (mantissa / 10) scale).1 * 10 ^ scale * 10 := by
                rw [Nat.pow_succ, Nat.mul_assoc]
          _ = mantissa / 10 * 10 ^ (stripZeros (mantissa / 10) scale).2 * 10 := by
                rw [tail]
          _ = mantissa / 10 * 10 * 10 ^ (stripZeros (mantissa / 10) scale).2 := by
                rw [Nat.mul_right_comm]
          _ = mantissa * 10 ^ (stripZeros (mantissa / 10) scale).2 := by
                rw [← exact]
      · rfl

def normalized (number : Decimal) : Decimal where
  negative := number.negative
  mantissa := (stripZeros number.mantissa number.scale).1
  scale := (stripZeros number.mantissa number.scale).2
  mantissa_lt :=
    Nat.lt_of_le_of_lt (stripZeros_bounded _ _).1 number.mantissa_lt
  scale_le := Nat.le_trans (stripZeros_bounded _ _).2 number.scale_le

/-- The written form: a minus sign if the number carries one, the whole part,
and after a point as many digits as the scale says. -/
def written (number : Decimal) : List Char :=
  let whole := Text.digits (number.mantissa / 10 ^ number.scale)
  let signed := if number.negative then '-' :: whole else whole
  if number.scale = 0 then signed
  else
    signed ++
      '.' :: Text.padLeft number.scale '0'
        (Text.digits (number.mantissa % 10 ^ number.scale))

/-- The mantissa after `places` digits have been dropped from its end.  It is
rounded to the nearest, a half going up. -/
def roundedMantissa (mantissa places : Nat) : Nat :=
  (mantissa + 10 ^ places / 2) / 10 ^ places

end Decimal

end ClearingHouse
