import ClearingHouse.Decimal.Basic
import ClearingHouse.Text.Numeral

/-!
# Reading decimal numbers

A plain numeral is an optional sign, digits, and at most one point.
Underscores may stand anywhere after the first digit and mean nothing.  Digits
that no longer fit are rounded once, at the first of them, and the remaining
ones are only checked.  A text that is no plain numeral but has an `e` is read
in scientific notation: a plain numeral, the mark, and an exponent.
-/

namespace ClearingHouse

inductive DecimalError where
  | empty
  | noDigits
  | secondPoint
  | leadingSeparator
  | unknownCharacter
  | tooManyDigits
  | tooLargeAfterRounding
  | scaleTooLarge (scale : Nat)
  | tooLarge
  | malformedExponent
  deriving DecidableEq

namespace DecimalError

def message : DecimalError → String
  | .empty => "Invalid decimal: empty"
  | .noDigits => "Invalid decimal: no digits found"
  | .secondPoint => "Invalid decimal: two decimal points"
  | .leadingSeparator => "Invalid decimal: must start lead with a number"
  | .unknownCharacter => "Invalid decimal: unknown character"
  | .tooManyDigits => "Invalid decimal: overflow from too many digits"
  | .tooLargeAfterRounding =>
      "Invalid decimal: overflow from mantissa after rounding"
  | .scaleTooLarge scale =>
      s!"Scale exceeds the maximum precision allowed: {scale} > 28"
  | .tooLarge => "Number exceeds maximum value that can be represented."
  | .malformedExponent => "Failed to parse"

/-- The error for a character that cannot stand where it is. -/
def ofCharacter (character : Char) : DecimalError :=
  if character = '.' then .secondPoint
  else if character = '_' then .leadingSeparator
  else .unknownCharacter

end DecimalError

namespace Decimal

/-- What has been read of a plain numeral. -/
structure Scan where
  number : Decimal
  pointSeen : Bool
  digitSeen : Bool

def Scan.start (negative : Bool) : Scan :=
  ⟨{ zero with negative := negative }, false, false⟩

/-- Check that only digits and separators remain. -/
def checkRest : List Char → Except DecimalError Unit
  | [] => .ok ()
  | character :: rest =>
      if (Text.digitValue? character).isSome || character = '_' then
        checkRest rest
      else .error (.ofCharacter character)

/-- Round a number by the digit that follows it, a half going up.  Where the
rounded mantissa does not fit, its last digit is given up too. -/
def roundBy (number : Decimal) (digit : Nat) : Except DecimalError Decimal :=
  if digit < 5 then .ok number
  else
    match of? number.negative (number.mantissa + 1) number.scale with
    | some rounded => .ok rounded
    | none =>
        if number.scale = 0 then .error .tooLargeAfterRounding
        else
          match of? number.negative ((number.mantissa + 5) / 10)
              (number.scale - 1) with
          | some rounded => .ok rounded
          | none => .error .tooLargeAfterRounding

/-- End a numeral at the first character that no longer fits. -/
def finishRounded (number : Decimal) (character : Char) (rest : List Char) :
    Except DecimalError Decimal :=
  match Text.digitValue? character with
  | some digit => do
      let rounded ← number.roundBy digit
      checkRest rest
      .ok rounded
  | none =>
      if character = '_' then do
        checkRest rest
        .ok number
      else .error (.ofCharacter character)

/-- From this mantissa on, separators between the last digit kept and the digit
that rounds it are passed over. -/
def wideMantissa : Nat := 1844674407370954906

/-- End a numeral whose digits after the point are as many as a decimal has. -/
def finishFull (wide : Bool) (number : Decimal) (rest : List Char) :
    Except DecimalError Decimal :=
  match if wide then rest.dropWhile (· == '_') else rest with
  | [] => .ok number
  | character :: remaining => finishRounded number character remaining

/-- Read the characters of a plain numeral after its sign. -/
def readDigits (scan : Scan) : List Char → Except DecimalError Decimal
  | [] => if scan.digitSeen then .ok scan.number else .error .noDigits
  | character :: rest =>
      match Text.digitValue? character with
      | some digit =>
          let mantissa := scan.number.mantissa * 10 + digit
          let scale :=
            if scan.pointSeen then scan.number.scale + 1 else scan.number.scale
          match of? scan.number.negative mantissa scale with
          | none =>
              if scan.pointSeen then finishRounded scan.number character rest
              else .error .tooManyDigits
          | some number =>
              if scale = 28 then
                finishFull (wideMantissa ≤ scan.number.mantissa) number rest
              else
                readDigits { scan with number := number, digitSeen := true } rest
      | none =>
          if character = '.' && !scan.pointSeen then
            readDigits { scan with pointSeen := true } rest
          else if character = '_' && scan.digitSeen then readDigits scan rest
          else .error (.ofCharacter character)

def readPlain : List Char → Except DecimalError Decimal
  | [] => .error .empty
  | '-' :: rest => readDigits (.start true) rest
  | '+' :: rest => readDigits (.start false) rest
  | text => readDigits (.start false) text

/-- Shift the point of a number to the left. -/
def scaleDown (number : Decimal) (exponent : Nat) : Except DecimalError Decimal :=
  let lost := number.scale + exponent - 28
  if 28 < exponent then .error (.scaleTooLarge exponent)
  else
    match of? number.negative (roundedMantissa number.mantissa lost)
        (number.scale + exponent - lost) with
    | some scaled => .ok scaled
    | none => .error .tooLarge

/-- Shift the point of a number to the right. -/
def scaleUp (number : Decimal) (exponent : Nat) : Except DecimalError Decimal :=
  if exponent ≤ number.scale then
    .ok { number with
      scale := number.scale - exponent
      scale_le := Nat.le_trans (Nat.sub_le _ _) number.scale_le }
  else if 28 < exponent then .error (.scaleTooLarge exponent)
  else
    match of? number.negative
        (number.mantissa * 10 ^ (exponent - number.scale)) 0 with
    | some scaled => .ok scaled
    | none => .error .tooLarge

def isExponentMark (character : Char) : Bool :=
  character = 'e' || character = 'E'

def readScientific (text : List Char) : Except DecimalError Decimal := do
  let number ← readPlain (text.takeWhile (!isExponentMark ·))
  match (text.dropWhile (!isExponentMark ·)).drop 1 with
  | '-' :: numeral =>
      match Text.unsignedBelow? (2 ^ 32) numeral with
      | some exponent => number.scaleDown exponent
      | none => .error .malformedExponent
  | numeral =>
      match Text.unsignedBelow? (2 ^ 32) numeral with
      | some exponent => number.scaleUp exponent
      | none => .error .malformedExponent

def read (text : List Char) : Except DecimalError Decimal :=
  match readPlain text with
  | .ok number => .ok number
  | .error fault =>
      if text.any isExponentMark then readScientific text else .error fault

end Decimal

end ClearingHouse
