import ClearingHouse.Decimal.Basic
import ClearingHouse.Decimal.Binary64

/-!
# Products of decimal numbers

A product that is too long gives up digits at its end, as few as possible, until it is
within the bounds of a decimal.  What is given up is rounded, an exact half going to the
even digit.  There is no product if digits in front of the point would have to go.
-/

namespace ClearingHouse.Decimal

/-- The decimal that is left when the fewest digits are given up. -/
def rescaled? (negative : Bool) (mantissa scale : Nat) : Option Decimal :=
  (List.range (scale + 1)).findSome? fun dropped =>
    of? negative (Binary64.nearest mantissa (10 ^ dropped)) (scale - dropped)

def times? (first second : Decimal) : Option Decimal :=
  if first.mantissa = 0 ∨ second.mantissa = 0 then some zero
  else
    rescaled? (first.negative != second.negative)
      (first.mantissa * second.mantissa) (first.scale + second.scale)

def hundred : Decimal := ⟨false, 100, 0, by decide, zero.scale_le⟩

/-- The whole part, if there is no minus sign and it fits sixty-four bits. -/
def word? (number : Decimal) : Option UInt64 :=
  if number.negative then none
  else
    let whole := number.mantissa / 10 ^ number.scale
    if whole < 2 ^ 64 then some (.ofNat whole) else none

end ClearingHouse.Decimal
