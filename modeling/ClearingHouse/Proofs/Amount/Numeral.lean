import Mathlib.Data.Rat.Defs
import Mathlib.Tactic.FieldSimp
import Mathlib.Tactic.Positivity
import Mathlib.Algebra.Order.Field.Rat
import ClearingHouse.Decimal.Reader
import ClearingHouse.Proofs.Amount.Digits

/-!
# Numerals and what they stand for

A numeral is a text of digits, possibly with a point among them, and possibly with an
exponent of ten behind a mark.  It stands for a rational number, however long it is.
The numbers that a decimal can hold are few among those, because a decimal has a
mantissa of bounded size and a bounded number of digits after the point.
-/

namespace ClearingHouse

/-! ## What a decimal can hold -/

namespace Decimal

/-- The number that a decimal stands for, without its sign. -/
def magnitude (number : Decimal) : ℚ := number.mantissa / 10 ^ number.scale

/-- Whether some decimal stands for a number. -/
def Holds (quantity : ℚ) : Prop := ∃ number : Decimal, number.magnitude = quantity

theorem quotient_eq_iff {first second : Nat} {places others : Nat} :
    (first : ℚ) / 10 ^ places = second / 10 ^ others ↔
      first * 10 ^ others = second * 10 ^ places := by
  rw [div_eq_div_iff (by positivity) (by positivity)]
  exact_mod_cast Iff.rfl

theorem magnitude_eq_iff {number : Decimal} {significand places : Nat} :
    number.magnitude = significand / 10 ^ places ↔
      number.mantissa * 10 ^ places = significand * 10 ^ number.scale :=
  quotient_eq_iff

end Decimal

/-! ## Numerals -/

/-- An unsigned number as it is written. -/
structure Numeral where
  /-- All digits in front of the mark, read as one number. -/
  significand : Nat
  /-- How many of these digits stand after the point. -/
  places : Nat
  /-- What stands behind the mark, and zero without a mark. -/
  exponent : Int

namespace Numeral

/-- What a numeral would stand for without its exponent. -/
def base (numeral : Numeral) : ℚ := numeral.significand / 10 ^ numeral.places

def value (numeral : Numeral) : ℚ := numeral.base * 10 ^ numeral.exponent

/-- Digits, and possibly a point and more digits behind it. -/
inductive IsPlain : List Char → Numeral → Prop
  | whole (digits : List Char) (started : digits ≠ [])
      (areDigits : ∀ character ∈ digits, character.isDigit = true) :
      IsPlain digits ⟨Nat.ofDigitChars 10 digits 0, 0, 0⟩
  | pointed (whole fraction : List Char) (started : whole ≠ [])
      (areDigits : ∀ character ∈ whole ++ fraction, character.isDigit = true) :
      IsPlain (whole ++ '.' :: fraction)
        ⟨Nat.ofDigitChars 10 (whole ++ fraction) 0, fraction.length, 0⟩

/-- The signs that can stand in front of the digits of an exponent. -/
def exponentSigns : List (List Char × Int) :=
  [([], 1), (['+'], 1), (['-'], -1), (['-', '+'], -1)]

/-- The texts that spell a numeral. -/
inductive Spells : List Char → Numeral → Prop
  | plain {text : List Char} {numeral : Numeral} (isPlain : IsPlain text numeral) :
      Spells text numeral
  | scientific {text : List Char} {significand places : Nat} (mark : Char)
      (sign digits : List Char) (direction : Int)
      (isPlain : IsPlain text ⟨significand, places, 0⟩)
      (isMark : Decimal.isExponentMark mark = true)
      (isSign : (sign, direction) ∈ exponentSigns) (started : digits ≠ [])
      (areDigits : ∀ character ∈ digits, character.isDigit = true) :
      Spells (text ++ mark :: (sign ++ digits))
        ⟨significand, places, direction * Nat.ofDigitChars 10 digits 0⟩

/-- The characters of a text without the underscores, which group digits. -/
def withoutSeparators (text : List Char) : List Char := text.filter (· ≠ '_')

variable {text : List Char} {numeral other : Numeral}

theorem IsPlain.exponent (isPlain : IsPlain text numeral) : numeral.exponent = 0 := by
  cases isPlain <;> rfl

theorem IsPlain.value_eq (isPlain : IsPlain text numeral) :
    numeral.value = numeral.base := by
  rw [value, isPlain.exponent, zpow_zero, mul_one]

theorem IsPlain.isDigit_or_eq (isPlain : IsPlain text numeral) :
    ∀ character ∈ text, character.isDigit = true ∨ character = '.' := by
  cases isPlain with
  | whole _ _ areDigits => exact fun character member => Or.inl (areDigits _ member)
  | pointed whole fraction _ areDigits =>
      intro character member
      simp only [List.mem_append, List.mem_cons] at member areDigits
      grind

theorem IsPlain.ne_nil (isPlain : IsPlain text numeral) : text ≠ [] := by
  cases isPlain with
  | whole _ started => exact started
  | pointed => simp

theorem IsPlain.head (isPlain : IsPlain text numeral) :
    ∃ character, text.head? = some character ∧ character.isDigit = true := by
  cases isPlain with
  | whole _ started areDigits =>
      obtain ⟨character, rest, rfl⟩ := List.exists_cons_of_ne_nil started
      exact ⟨character, rfl, areDigits _ (by simp)⟩
  | pointed whole fraction started areDigits =>
      obtain ⟨character, rest, rfl⟩ := List.exists_cons_of_ne_nil started
      exact ⟨character, rfl, areDigits _ (by simp)⟩

theorem IsPlain.head_ne (isPlain : IsPlain text numeral) {other : Char}
    (notDigit : other.isDigit = false) : text.head? ≠ some other :=
  Text.ne_some_of_isDigit isPlain.head notDigit

theorem IsPlain.withoutSeparators_eq (isPlain : IsPlain text numeral) :
    withoutSeparators text = text := by
  rw [withoutSeparators, List.filter_eq_self]
  intro character member
  rcases isPlain.isDigit_or_eq character member with isDigit | rfl
  · refine decide_eq_true ?_
    rintro rfl
    cases isDigit
  · rfl

/-- Two texts with one character between their parts agree in their parts, if the
character is in neither of the first parts. -/
theorem parts_eq {before after otherBefore otherAfter : List Char} {mark otherMark : Char}
    (same : before ++ mark :: after = otherBefore ++ otherMark :: otherAfter)
    (notBefore : otherMark ∉ before) (notOtherBefore : mark ∉ otherBefore) :
    before = otherBefore ∧ mark = otherMark ∧ after = otherAfter := by
  induction before generalizing otherBefore with
  | nil =>
      cases otherBefore with
      | nil => simpa using same
      | cons character rest =>
          cases same
          exact absurd List.mem_cons_self notOtherBefore
  | cons character rest ih =>
      cases otherBefore with
      | nil =>
          cases same
          exact absurd List.mem_cons_self notBefore
      | cons otherCharacter otherRest =>
          injection same with sameHead sameTail
          simp only [List.mem_cons, not_or] at notBefore notOtherBefore
          obtain ⟨rfl, rest⟩ := ih sameTail notBefore.2 notOtherBefore.2
          exact ⟨by rw [sameHead], rest⟩

/-- A text spells at most one plain numeral. -/
theorem IsPlain.unique (isPlain : IsPlain text numeral)
    (otherIsPlain : IsPlain text other) : numeral = other := by
  generalize same : text = otherText at otherIsPlain
  have point : ¬ ('.').isDigit = true := by decide
  cases isPlain with
  | whole digits _ areDigits =>
      cases otherIsPlain with
      | whole => rw [same]
      | pointed whole fraction _ _ =>
          exact absurd (areDigits '.' (by simp [same])) point
  | pointed whole fraction _ areDigits =>
      cases otherIsPlain with
      | whole _ _ otherDigits =>
          exact absurd (otherDigits '.' (by simp [← same])) point
      | pointed otherWhole otherFraction _ otherDigits =>
          obtain ⟨rfl, -, rfl⟩ := parts_eq same
            (fun member => point (areDigits '.' (List.mem_append_left _ member)))
            (fun member => point (otherDigits '.' (List.mem_append_left _ member)))
          rfl

theorem sign_of_mem {sign : List Char} {direction : Int}
    (isSign : (sign, direction) ∈ exponentSigns) :
    ∀ character ∈ sign, character.isDigit = false := by
  have none : exponentSigns.all (fun entry => entry.1.all (!·.isDigit)) = true := by decide
  intro character member
  simpa using List.all_eq_true.mp (List.all_eq_true.mp none _ isSign) character member

/-- The digits of an exponent begin at the first digit behind the mark. -/
theorem digits_of_tail {sign digits : List Char} {direction : Int}
    (isSign : (sign, direction) ∈ exponentSigns)
    (areDigits : ∀ character ∈ digits, character.isDigit = true) :
    (sign ++ digits).dropWhile (!·.isDigit) = digits := by
  rw [List.dropWhile_append_of_pos (by simpa using sign_of_mem isSign)]
  cases digits with
  | nil => rfl
  | cons character rest =>
      rw [List.dropWhile_cons_of_neg (by simp [areDigits character (by simp)])]

theorem direction_unique {sign : List Char} {direction other : Int}
    (isSign : (sign, direction) ∈ exponentSigns)
    (otherIsSign : (sign, other) ∈ exponentSigns) : direction = other := by
  simp only [exponentSigns, List.mem_cons, Prod.mk.injEq, List.not_mem_nil, or_false]
    at isSign otherIsSign
  grind

theorem not_isDigit_of_isExponentMark {mark : Char}
    (isMark : Decimal.isExponentMark mark = true) : mark.isDigit = false ∧ mark ≠ '.' := by
  simp only [Decimal.isExponentMark, Bool.or_eq_true, decide_eq_true_eq] at isMark
  rcases isMark with rfl | rfl <;> decide

theorem IsPlain.mark_not_mem {mark : Char} (isPlain : IsPlain text numeral)
    (isMark : Decimal.isExponentMark mark = true) : mark ∉ text := by
  intro member
  obtain ⟨notDigit, notPoint⟩ := not_isDigit_of_isExponentMark isMark
  rcases isPlain.isDigit_or_eq mark member with isDigit | isPoint
  · rw [notDigit] at isDigit
    cases isDigit
  · exact notPoint isPoint

/-- A text spells at most one numeral. -/
theorem Spells.unique (spells : Spells text numeral) (otherSpells : Spells text other) :
    numeral = other := by
  generalize same : text = otherText at otherSpells
  cases spells with
  | plain isPlain =>
      cases otherSpells with
      | plain otherIsPlain => exact isPlain.unique (same ▸ otherIsPlain)
      | scientific mark sign digits direction otherIsPlain isMark =>
          exact absurd (by simp [same]) (isPlain.mark_not_mem isMark)
  | scientific mark sign digits direction isPlain isMark isSign started areDigits =>
      cases otherSpells with
      | plain otherIsPlain =>
          exact absurd (by simp [← same]) (otherIsPlain.mark_not_mem isMark)
      | scientific otherMark otherSign otherDigits otherDirection otherIsPlain otherIsMark
          otherIsSign _ otherAreDigits =>
          obtain ⟨rfl, -, tails⟩ := parts_eq same (isPlain.mark_not_mem otherIsMark)
            (otherIsPlain.mark_not_mem isMark)
          cases isPlain.unique otherIsPlain
          have digitsSame := digits_of_tail isSign areDigits
          rw [tails, digits_of_tail otherIsSign otherAreDigits] at digitsSame
          subst digitsSame
          obtain rfl := List.append_cancel_right tails
          rw [direction_unique isSign otherIsSign]

theorem Spells.head (spells : Spells text numeral) :
    ∃ character, text.head? = some character ∧ character.isDigit = true := by
  cases spells with
  | plain isPlain => exact isPlain.head
  | scientific mark sign digits direction isPlain =>
      obtain ⟨character, isHead, isDigit⟩ := isPlain.head
      exact ⟨character, by simp [List.head?_append, isHead], isDigit⟩

theorem value_nonneg (numeral : Numeral) : 0 ≤ numeral.value := by
  have notNegative : 0 ≤ numeral.base := by
    rw [base]
    positivity
  exact mul_nonneg notNegative (zpow_nonneg (by norm_num) _)

end Numeral

end ClearingHouse
