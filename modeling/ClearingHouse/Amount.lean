import ClearingHouse.Decimal.Product
import ClearingHouse.Decimal.Reader
import ClearingHouse.Text.Blank

/-!
# Amounts of money

An amount is a number of minor units (hundredths) that fits sixty-four bits.
It is written with exactly two digits after the point.  Reading goes through
`Decimal`, and accepts a number only if no unit smaller than a hundredth is
left over.
-/

namespace ClearingHouse

/-- A sum of money that is not negative, in hundredths. -/
structure Amount where
  minor : Nat
  bounded : minor < 2 ^ 64
  deriving DecidableEq

inductive AmountError where
  /-- More than two digits after the point are needed. -/
  | tooPrecise (places : Nat)
  /-- The number carries a sign, is negative, or is zero where that is refused. -/
  | notPositive
  | tooLarge
  | blank
  /-- The text starts or ends with a point. -/
  | barePoint
  | notDecimal (text : String) (cause : DecimalError)
  deriving DecidableEq

namespace AmountError

def name : AmountError → String
  | .tooPrecise _ => "PrecisionOverflow"
  | .notPositive => "InvalidAmount"
  | .tooLarge => "Overflow"
  | .blank | .barePoint | .notDecimal _ _ => "InvalidFormat"

def message : AmountError → String
  | .tooPrecise places =>
      s!"Precision overflow: provided {places} decimals, max allowed 2"
  | .notPositive => "Amount must be positive"
  | .tooLarge => "Amount too large, would overflow"
  | .blank => "Invalid format: empty string"
  | .barePoint =>
      "Invalid format: use a leading and trailing digit (e.g. 0.5, 5.0)"
  | .notDecimal text cause => s!"Invalid format: {text}: {cause.message}"

end AmountError

namespace Amount

/-- The amount of this many hundredths, if it fits. -/
def ofMinor? (minor : Nat) : Option Amount :=
  if bounded : minor < 2 ^ 64 then some ⟨minor, bounded⟩ else none

def zero : Amount := ⟨0, by decide⟩

def largest : Amount := ⟨2 ^ 64 - 1, by decide⟩

/-- The amount of this many whole units, or the largest amount if that does not fit. -/
def ofMajor (major : Nat) : Amount :=
  (ofMinor? (major * 100)).getD largest

def isZero (amount : Amount) : Bool := amount.minor == 0

def add? (first second : Amount) : Option Amount :=
  ofMinor? (first.minor + second.minor)

/-- The difference of two amounts, if it is not negative. -/
def sub? (first second : Amount) : Option Amount :=
  if second.minor ≤ first.minor then
    some ⟨first.minor - second.minor,
      Nat.lt_of_le_of_lt (Nat.sub_le _ _) first.bounded⟩
  else none

theorem minor_of_ofMinor? {minor : Nat} {amount : Amount}
    (fits : ofMinor? minor = some amount) : amount.minor = minor := by
  unfold ofMinor? at fits
  split at fits
  · cases fits; rfl
  · cases fits

theorem ofMinor?_minor (amount : Amount) : ofMinor? amount.minor = some amount :=
  dif_pos amount.bounded

theorem minor_of_add? {first second sum : Amount}
    (fits : first.add? second = some sum) :
    sum.minor = first.minor + second.minor :=
  minor_of_ofMinor? fits

theorem minor_of_sub? {first second rest : Amount}
    (fits : first.sub? second = some rest) :
    rest.minor + second.minor = first.minor := by
  unfold sub? at fits
  split at fits
  · cases fits
    show first.minor - second.minor + second.minor = first.minor
    omega
  · cases fits

/-- The written form: whole units, a point and two digits. -/
def written (amount : Amount) : List Char :=
  Text.digits (amount.minor / 100) ++
    '.' :: Text.padLeft 2 '0' (Text.digits (amount.minor % 100))

def text (amount : Amount) : String := String.ofList amount.written

/-- The amount as a decimal number with two digits after the point. -/
def toDecimal (amount : Amount) : Decimal where
  negative := false
  mantissa := amount.minor
  scale := 2
  mantissa_lt := Nat.lt_trans amount.bounded (by decide)
  scale_le := by decide

/-- The hundredfold of a decimal number, without what is left behind the point. -/
def hundredfold? (number : Decimal) : Option Amount := do
  let product ← number.times? Decimal.hundred
  let word ← product.word?
  pure ⟨word.toNat, word.toNat_lt⟩

def ofDecimal (number : Decimal) : Except AmountError Amount :=
  if number.negative && number.mantissa != 0 then .error .notPositive
  else
    let least := number.normalized
    if 2 < least.scale then .error (.tooPrecise least.scale)
    else
      match hundredfold? least with
      | some amount => .ok amount
      | none => .error .tooLarge

/-- Read an amount.  Blank characters around it are passed over, and it must
start and end with a digit. -/
def parse (text : String) : Except AmountError Amount :=
  let characters := Text.trimmed text.toList
  match characters.head?, characters.getLast? with
  | some first, some last =>
      if first = '-' ∨ first = '+' then .error .notPositive
      else if first = '.' ∨ last = '.' then .error .barePoint
      else
        match Decimal.read characters with
        | .ok number => ofDecimal number
        | .error cause => .error (.notDecimal (String.ofList characters) cause)
  | _, _ => .error .blank

def parsePositive (text : String) : Except AmountError Amount := do
  let amount ← parse text
  if amount.isZero then .error .notPositive else .ok amount

end Amount

end ClearingHouse
