import ClearingHouse.Power

/-!
# Numerals

Natural numbers as decimal digits, numerals to other bases, and the numerals that
command lines, tables of exponents and ports accept: digits, optionally after a
plus sign, up to a bound.
-/

namespace ClearingHouse.Text

def digitValue? (character : Char) : Option Nat :=
  if '0' ≤ character ∧ character ≤ '9' then
    some (character.toNat - '0'.toNat)
  else none

def hexValue? (character : Char) : Option Nat :=
  if '0' ≤ character ∧ character ≤ '9' then
    some (character.toNat - '0'.toNat)
  else if 'a' ≤ character ∧ character ≤ 'f' then
    some (character.toNat - 'a'.toNat + 10)
  else if 'A' ≤ character ∧ character ≤ 'F' then
    some (character.toNat - 'A'.toNat + 10)
  else none

/-- The digit with a value below sixteen, in lower case. -/
def hexDigit (value : Nat) : Char :=
  if value < 10 then Char.ofNat ('0'.toNat + value)
  else Char.ofNat ('a'.toNat + (value - 10))

def digits (number : Nat) : List Char :=
  Nat.toDigits 10 number

/-- Continue a number by the digits of a text; `none` at any other character. -/
def valueFrom? (value : Nat) : List Char → Option Nat
  | [] => some value
  | character :: rest =>
      match digitValue? character with
      | some digit => valueFrom? (value * 10 + digit) rest
      | none => none

/-- The value of a text of one or more digits. -/
def value? : List Char → Option Nat
  | [] => none
  | character :: rest => valueFrom? 0 (character :: rest)

/-- The value of one or more digits to a base of sixteen at most. -/
def valueToBase? (base : Nat) (digits : List Char) : Option Nat :=
  if digits.isEmpty then none
  else
    digits.foldlM
      (fun value digit =>
        (hexValue? digit).bind fun next =>
          if next < base then some (value * base + next) else none)
      0

/-- Read digits, optionally after a plus sign, as a number below `bound`. -/
def unsignedBelow? (bound : Nat) (text : List Char) : Option Nat :=
  let numeral :=
    match text with
    | '+' :: rest => rest
    | other => other
  (value? numeral).bind fun value =>
    if value < bound then some value else none

def padLeft (width : Nat) (fill : Char) (text : List Char) : List Char :=
  List.replicate (width - text.length) fill ++ text

end ClearingHouse.Text
