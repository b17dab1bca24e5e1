import ClearingHouse.Decimal.Binary64
import ClearingHouse.Text.Numeral

/-!
# The shortest decimal of a binary number

Among the decimals that round to a given binary number, `shortest` picks one
with the fewest digits, and of those the one nearest to the number.  The
search tries grids of one, two, … digits and tests the two neighbours of the
number on each, in exact arithmetic.  `written` lays the digits out.
-/

namespace ClearingHouse

namespace Binary64

/-- Compare `digits * 10 ^ exponent` with a quotient. -/
def compareDecimal (digits : Nat) (exponent : Int)
    (numerator denominator : Nat) : Ordering :=
  compare (digits * 10 ^ exponent.toNat * denominator)
    (numerator * 10 ^ (-exponent).toNat)

/-- Whether a decimal lies among the reals that round to the number.  They
reach halfway to the neighbours, the ends included when the significand is
even. -/
def readsBack (number : Binary64) (digits : Nat) (exponent : Int) : Bool :=
  let narrow :=
    number.significand == 2 ^ 52 && decide (-1074 < number.exponent)
  let scaled := shifted 1 4 number.exponent
  let lower :=
    4 * number.significand - if narrow then 1 else 2
  let upper := 4 * number.significand + 2
  let ends := number.significand % 2 == 0
  let fromBelow :=
    compareDecimal digits exponent (lower * scaled.1) scaled.2
  let fromAbove :=
    compareDecimal digits exponent (upper * scaled.1) scaled.2
  (fromBelow == .gt || (ends && fromBelow == .eq)) &&
    (fromAbove == .lt || (ends && fromAbove == .eq))

/-- The least power of ten above a quotient that is not zero. -/
def magnitude (numerator denominator : Nat) : Int :=
  if denominator ≤ numerator then
    ((Text.digits (numerator / denominator)).length : Int)
  else
    match (List.range 400).find? fun places =>
        denominator ≤ numerator * 10 ^ (places + 1) with
    | some places => -(places : Int)
    | none => 0

/-- The best decimal with at most `count` digits that reads back. -/
def candidate? (number : Binary64) (magnitude : Int) (count : Nat) :
    Option (Nat × Int) :=
  let exponent := magnitude - count
  let scaled := shifted number.significand 1 number.exponent
  let numerator := scaled.1 * 10 ^ (-exponent).toNat
  let denominator := scaled.2 * 10 ^ exponent.toNat
  let below := numerator / denominator
  let above := below + 1
  match number.readsBack below exponent, number.readsBack above exponent with
  | true, true => some (nearest numerator denominator, exponent)
  | true, false => some (below, exponent)
  | false, true => some (above, exponent)
  | false, false => none

/-- Move zeros from the end of the digits into the exponent. -/
def withoutTrailingZeros : Nat → Nat → Int → Nat × Int
  | 0, digits, exponent => (digits, exponent)
  | fuel + 1, digits, exponent =>
      if digits % 10 = 0 then
        withoutTrailingZeros fuel (digits / 10) (exponent + 1)
      else (digits, exponent)

/-- The digits and the exponent of the shortest decimal that reads back to a
number that is not zero. -/
def shortest (number : Binary64) : Nat × Int :=
  let scaled := shifted number.significand 1 number.exponent
  let top := magnitude scaled.1 scaled.2
  match (List.range 17).findSome? fun index =>
      number.candidate? top (index + 1) with
  | some (digits, exponent) => withoutTrailingZeros 20 digits exponent
  | none => (scaled.1 / scaled.2, 0)

/-- The written form.  Numbers from `10 ^ -5` to `10 ^ 16` are written
positionally with at least one digit after the point, others with a signed
exponent and no point after a single digit. -/
def written (number : Binary64) : List Char :=
  let sign := if number.negative then ['-'] else []
  if number.isZero then sign ++ ['0', '.', '0']
  else
    let (value, exponent) := number.shortest
    let digits := Text.digits value
    let point : Int := digits.length + exponent
    sign ++
      if 0 ≤ exponent ∧ point ≤ 16 then
        digits ++ List.replicate exponent.toNat '0' ++ ['.', '0']
      else if 0 < point ∧ point ≤ 16 then
        digits.take point.toNat ++ '.' :: digits.drop point.toNat
      else if -5 < point ∧ point ≤ 0 then
        '0' :: '.' :: List.replicate (-point).toNat '0' ++ digits
      else
        let power := point - 1
        let mark :=
          'e' :: (if power < 0 then '-' else '+') :: Text.digits power.natAbs
        match digits with
        | [digit] => digit :: mark
        | first :: others => first :: '.' :: others ++ mark
        | [] => mark

end Binary64

end ClearingHouse
