import ClearingHouse.Power

/-!
# Binary floating-point numbers

Finite numbers with a significand of at most 53 bits, computed exactly on
natural numbers and rounded once.  `rounded` takes a quotient to the nearest
such number, an exact half going to the even significand.
-/

namespace ClearingHouse

/-- The finite number `significand * 2 ^ exponent`, possibly negated. -/
structure Binary64 where
  negative : Bool
  significand : Nat
  exponent : Int
  deriving DecidableEq

namespace Binary64

def zero (negative : Bool) : Binary64 := ⟨negative, 0, -1074⟩

/-- The quotient of two numbers to the nearest integer, an exact half going to
the even neighbour. -/
def nearest (numerator denominator : Nat) : Nat :=
  let quotient := numerator / denominator
  let twice := 2 * (numerator % denominator)
  if twice < denominator then quotient
  else if denominator < twice then quotient + 1
  else if quotient % 2 = 0 then quotient
  else quotient + 1

/-- Multiply a quotient by a power of two. -/
def shifted (numerator denominator : Nat) (exponent : Int) : Nat × Nat :=
  (numerator * 2 ^ exponent.toNat, denominator * 2 ^ (-exponent).toNat)

/-- The exponent at which a quotient has a significand of 53 bits, or the least
exponent there is. -/
def leadingExponent (numerator denominator : Nat) : Int :=
  let estimate : Int :=
    (Nat.log2 numerator : Int) - (Nat.log2 denominator : Int) - 52
  let scaled := shifted numerator denominator (-estimate)
  let exponent :=
    if scaled.1 < scaled.2 * 2 ^ 52 then estimate - 1 else estimate
  max exponent (-1074)

/-- The number nearest to a quotient; `none` if it is too large. -/
def rounded (negative : Bool) (numerator denominator : Nat) : Option Binary64 :=
  if numerator = 0 then some (zero negative)
  else
    let exponent := leadingExponent numerator denominator
    let scaled := shifted numerator denominator (-exponent)
    let significand := nearest scaled.1 scaled.2
    let result : Binary64 :=
      if significand = 2 ^ 53 then ⟨negative, 2 ^ 52, exponent + 1⟩
      else ⟨negative, significand, exponent⟩
    if 971 < result.exponent then none else some result

def isZero (number : Binary64) : Bool := number.significand == 0

/-- The product, rounded; the sign is that of the first factor. -/
def times? (first second : Binary64) : Option Binary64 :=
  let scaled :=
    shifted (first.significand * second.significand) 1
      (first.exponent + second.exponent)
  rounded first.negative scaled.1 scaled.2

/-- The quotient, rounded; the sign is that of the dividend. -/
def over? (first second : Binary64) : Option Binary64 :=
  let scaled :=
    shifted first.significand second.significand
      (first.exponent - second.exponent)
  rounded first.negative scaled.1 scaled.2

def powerOfTen? (exponent : Nat) : Option Binary64 :=
  rounded false (10 ^ exponent) 1

/-- Multiply by a power of ten, in steps of at most `10 ^ 308`, each rounded.
The answer is `none` if the product is too large. -/
def scaledByTen? (number : Binary64) (exponent : Int) : Option Binary64 :=
  if small : exponent.natAbs ≤ 308 then do
    let power ← powerOfTen? exponent.natAbs
    if 0 ≤ exponent then number.times? power else number.over? power
  else if number.isZero then some number
  else if positive : 0 ≤ exponent then none
  else do
    let power ← powerOfTen? 308
    let reduced ← number.over? power
    reduced.scaledByTen? (exponent + 308)
termination_by exponent.natAbs
decreasing_by omega

/-- The number nearest to `significand`, multiplied by a power of ten.  Both
steps are rounded. -/
def ofScientific? (negative : Bool) (significand : Nat) (exponent : Int) :
    Option Binary64 := do
  let number ← rounded negative significand 1
  number.scaledByTen? exponent

end Binary64

end ClearingHouse
