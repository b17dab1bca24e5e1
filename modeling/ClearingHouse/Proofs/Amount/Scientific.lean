import Mathlib.Tactic.Linarith
import ClearingHouse.Proofs.Amount.Written

/-!
# Reading scientific notation

A numeral in scientific notation is read in two steps: the plain numeral in front of the
mark, and then the exponent, by which the number is scaled.  Scaling up is exact, and
scaling down makes what is not zero no zero.  So an amount that is read from a plain
numeral of one whole digit and an exponent is the number that is written.
-/

namespace ClearingHouse

namespace Text

theorem unsignedBelow?_digits (bound number : Nat) :
    unsignedBelow? bound (digits number) = if number < bound then some number else none := by
  have notSign : ∀ rest, digits number ≠ '+' :: rest := by
    intro rest isDigits
    have isDigit : ('+').isDigit = true :=
      isDigit_of_mem_digits (by rw [isDigits]; exact List.mem_cons_self)
    cases isDigit
  have isValue : value? (digits number) = some number :=
    value?_eq_some_iff.mpr
      ⟨digits_ne_nil number, fun _ => isDigit_of_mem_digits, ofDigitChars_digits number⟩
  unfold unsignedBelow?
  split
  · rename_i rest isSign
    exact absurd isSign (notSign rest)
  · simp only [isValue, Option.bind_some]

theorem unsignedBelow?_plus (bound number : Nat) :
    unsignedBelow? bound ('+' :: digits number) =
      if number < bound then some number else none := by
  have isValue : value? (digits number) = some number :=
    value?_eq_some_iff.mpr
      ⟨digits_ne_nil number, fun _ => isDigit_of_mem_digits, ofDigitChars_digits number⟩
  rw [unsignedBelow?, isValue, Option.bind_some]

end Text

namespace Decimal

open Numeral (withoutSeparators)

variable {number result : Decimal} {exponent : Nat} {front : List Char}
  {numeral : Numeral}

/-! ## Scaling -/

theorem negative_of_scaleUp (scaled : number.scaleUp exponent = .ok result) :
    result.negative = number.negative := by
  unfold scaleUp at scaled
  split at scaled
  · cases scaled
    rfl
  · split at scaled
    · cases scaled
    · split at scaled
      · rename_i made
        cases scaled
        exact (of?_eq_some_iff.mp made).1
      · cases scaled

theorem scaleUp_of_lt (few : exponent ≤ 28)
    (fits : number.magnitude * 10 ^ exponent < 2 ^ 96) :
    ∃ result, number.scaleUp exponent = .ok result := by
  unfold scaleUp
  split
  · exact ⟨_, rfl⟩
  · rename_i beyond
    obtain ⟨zeros, rfl⟩ := Nat.exists_eq_add_of_le (Nat.le_of_not_le beyond)
    rw [if_neg (Nat.not_lt_of_le few), Nat.add_sub_cancel_left]
    have small : number.mantissa * 10 ^ zeros < 2 ^ 96 := by
      rw [magnitude, pow_add, ← mul_assoc, div_mul_cancel₀ _ (by positivity)] at fits
      exact_mod_cast fits
    rw [of?, dif_pos ⟨small, Nat.zero_le _⟩]
    exact ⟨_, rfl⟩

/-- What is scaled down far is less than a hundredth, and still not zero. -/
theorem magnitude_of_scaleDown_lt (atLeast : 1 ≤ number.magnitude)
    (below : number.magnitude < 10) (many : 6 ≤ exponent)
    (scaled : number.scaleDown exponent = .ok result) :
    0 < result.magnitude ∧ result.magnitude < 1 / 100 := by
  simp only [scaleDown] at scaled
  split at scaled
  · cases scaled
  · rename_i few
    split at scaled
    · rename_i made
      cases scaled
      obtain ⟨-, isMantissa, isScale⟩ := of?_eq_some_iff.mp made
      have most := number.scale_le
      obtain ⟨lost, isLost⟩ : ∃ lost, lost = number.scale + exponent - 28 := ⟨_, rfl⟩
      rw [← isLost] at isMantissa isScale
      have isSum : result.scale + lost = number.scale + exponent := by omega
      have isWhole : 10 ^ number.scale ≤ number.mantissa := by
        rw [magnitude, le_div_iff₀ (by positivity), one_mul] at atLeast
        exact_mod_cast atLeast
      have covers : 10 ^ lost ≤ number.mantissa :=
        (Nat.pow_le_pow_right (by decide) (by omega)).trans isWhole
      have positive : 0 < 10 ^ lost := Nat.pow_pos (by decide)
      have kept : 0 < result.mantissa := by
        rw [isMantissa, roundedMantissa]
        exact Nat.div_pos (covers.trans (Nat.le_add_right _ _)) positive
      have notMore : result.mantissa * 10 ^ lost ≤ 2 * number.mantissa := by
        rw [isMantissa, roundedMantissa]
        refine (Nat.div_mul_le_self _ _).trans ?_
        omega
      have isSmall : result.magnitude ≤ 2 * number.magnitude / 10 ^ exponent := by
        have notMore : (result.mantissa : ℚ) * 10 ^ lost ≤ 2 * number.mantissa := by
          exact_mod_cast notMore
        rw [magnitude, magnitude, mul_div_assoc', div_div, ← pow_add, ← isSum, pow_add,
          div_le_div_iff₀ (by positivity) (by positivity)]
        calc (result.mantissa : ℚ) * (10 ^ result.scale * 10 ^ lost)
            = result.mantissa * 10 ^ lost * 10 ^ result.scale := by ring
          _ ≤ 2 * number.mantissa * 10 ^ result.scale := by gcongr
      have isLarge : (10 : ℚ) ^ 6 ≤ 10 ^ exponent := by gcongr; norm_num
      refine ⟨?_, lt_of_le_of_lt isSmall ?_⟩
      · rw [magnitude]
        positivity
      · rw [div_lt_div_iff₀ (by positivity) (by norm_num)]
        linarith
    · cases scaled

/-! ## The exponent -/

/-- A text with a mark in it is no plain numeral. -/
theorem read_of_mark {mark : Char} (isPlain : Numeral.IsPlain front numeral)
    (isMark : isExponentMark mark = true) (tail : List Char) :
    read (front ++ mark :: tail) = readScientific (front ++ mark :: tail) := by
  obtain ⟨first, others, rfl⟩ := List.exists_cons_of_ne_nil isPlain.ne_nil
  rw [read]
  split
  · rename_i number done
    have notFirst : ∀ {other : Char}, other.isDigit = false →
        (first :: others ++ mark :: tail).head? ≠ some other :=
      fun notDigit => isPlain.head_ne notDigit
    obtain ⟨found, foundPlain, -⟩ := isPlain_of_readPlain
      ⟨notFirst (by decide), notFirst (by decide)⟩ (notFirst (by decide)) done
    have notSeparator : mark ≠ '_' := by
      rintro rfl
      cases isMark
    refine absurd ?_ (foundPlain.mark_not_mem isMark)
    rw [withoutSeparators_append, withoutSeparators_cons _ notSeparator]
    simp
  · rw [if_pos]
    simp [isMark]

theorem cut_at_mark {mark : Char} (isPlain : Numeral.IsPlain front numeral)
    (isMark : isExponentMark mark = true) (tail : List Char) :
    (front ++ mark :: tail).takeWhile (!isExponentMark ·) = front ∧
      (front ++ mark :: tail).dropWhile (!isExponentMark ·) = mark :: tail := by
  have noMark : ∀ character ∈ front, (!isExponentMark character) = true := by
    intro character member
    rw [Bool.not_eq_true']
    by_contra marked
    exact isPlain.mark_not_mem (Bool.eq_true_of_not_eq_false marked) member
  rw [List.takeWhile_append_of_pos noMark, List.dropWhile_append_of_pos noMark,
    List.takeWhile_cons_of_neg (by simp [isMark]), List.dropWhile_cons_of_neg (by simp [isMark]),
    List.append_nil]
  exact ⟨rfl, rfl⟩

/-- The plain numeral in front of the mark is scaled by the exponent. -/
theorem read_scientific (isPlain : Numeral.IsPlain front numeral)
    (holds : Holds numeral.base) :
    ∃ plain : Decimal, plain.negative = false ∧ plain.magnitude = numeral.base ∧
      ∀ power result,
        (read (front ++ 'e' :: '+' :: Text.digits power) = .ok result ↔
          power < 2 ^ 32 ∧ plain.scaleUp power = .ok result) ∧
        (read (front ++ 'e' :: '-' :: Text.digits power) = .ok result ↔
          power < 2 ^ 32 ∧ plain.scaleDown power = .ok result) := by
  obtain ⟨plain, done, unsigned, exact⟩ := readPlain_of_holds isPlain holds
  refine ⟨plain, unsigned, exact, fun power result => ⟨?_, ?_⟩⟩
  · obtain ⟨isFront, isTail⟩ := cut_at_mark isPlain
      (by decide : isExponentMark 'e' = true) ('+' :: Text.digits power)
    rw [read_of_mark isPlain (by decide), readScientific, isFront, isTail, done]
    simp only [List.drop_succ_cons, List.drop_zero, bind, Except.bind]
    split
    · rename_i numeral isSign
      cases isSign
    · rw [Text.unsignedBelow?_plus]
      split_ifs with fits
      · simp [fits]
      · simp [fits]
  · obtain ⟨isFront, isTail⟩ := cut_at_mark isPlain
      (by decide : isExponentMark 'e' = true) ('-' :: Text.digits power)
    rw [read_of_mark isPlain (by decide), readScientific, isFront, isTail, done]
    simp only [List.drop_succ_cons, List.drop_zero, bind, Except.bind]
    rw [Text.unsignedBelow?_digits]
    split_ifs with fits
    · simp [fits]
    · simp [fits]

end Decimal

/-! ## Amounts -/

namespace Amount

open Numeral (withoutSeparators)

variable {front : List Char} {numeral : Numeral} {power : Nat} {amount : Amount}

/-- A text with a digit at either end is read as the decimal that stands there. -/
theorem parse_of_isEdged {text : List Char} (isEdged : Text.IsEdged text) :
    parse (String.ofList text) = .ok amount ↔
      ∃ number, Decimal.read text = .ok number ∧ ofDecimal number = .ok amount := by
  rw [parse_eq_ok_iff, String.toList_ofList, isEdged.trimmed_eq]
  have notFirst : ∀ {other : Char}, other.isDigit = false → text.head? ≠ some other :=
    Text.ne_some_of_isDigit isEdged.first
  constructor
  · rintro ⟨-, -, -, found⟩
    exact found
  · exact fun found => ⟨⟨notFirst (by decide), notFirst (by decide)⟩, notFirst (by decide),
      Text.ne_some_of_isDigit isEdged.last (by decide), found⟩

theorem isEdged_scientific (isPlain : Numeral.IsPlain front numeral) (sign : Char)
    (power : Nat) : Text.IsEdged (front ++ 'e' :: sign :: Text.digits power) := by
  obtain ⟨first, others, rfl⟩ := List.exists_cons_of_ne_nil isPlain.ne_nil
  refine ⟨isPlain.head, (Text.digits power).getLast (Text.digits_ne_nil power), ?_,
    Text.isDigit_of_mem_digits (List.getLast_mem _)⟩
  rw [List.getLast?_append, List.getLast?_cons, List.getLast?_cons,
    List.getLast?_eq_some_getLast (Text.digits_ne_nil power)]
  rfl

/-- What is not zero is a hundredth at least. -/
theorem le_value_of_pos (positive : 0 < amount.value) : 1 / 100 ≤ amount.value := by
  rw [value, lt_div_iff₀ (by norm_num), zero_mul] at positive
  have one : 1 ≤ amount.minor := by exact_mod_cast positive
  rw [value]
  gcongr
  exact_mod_cast one

theorem value_lt (amount : Amount) : amount.value < 10 ^ 18 := by
  have bounded : (amount.minor : ℚ) < 2 ^ 64 := by exact_mod_cast amount.bounded
  rw [value, div_lt_iff₀ (by norm_num)]
  linarith

/-- A numeral with a positive exponent is read exactly. -/
theorem parse_up (isPlain : Numeral.IsPlain front numeral)
    (holds : Decimal.Holds numeral.base) (atLeast : 1 ≤ numeral.base) :
    parse (String.ofList (front ++ 'e' :: '+' :: Text.digits power)) = .ok amount ↔
      numeral.base * 10 ^ power = amount.value := by
  obtain ⟨plain, unsigned, isBase, reads⟩ := Decimal.read_scientific isPlain holds
  rw [parse_of_isEdged (isEdged_scientific isPlain '+' power)]
  constructor
  · rintro ⟨number, done, isAmount⟩
    obtain ⟨-, scaled⟩ := (reads power number).1.mp done
    rw [← isBase, ← Decimal.magnitude_of_scaleUp scaled, (ofDecimal_eq_ok_iff.mp isAmount).2]
  · intro same
    have isLess := value_lt amount
    rw [← same] at isLess
    have few : power < 18 := by
      have isPower : (10 : ℚ) ^ power < 10 ^ 18 :=
        lt_of_le_of_lt (le_mul_of_one_le_left (by positivity) atLeast) isLess
      exact (pow_lt_pow_iff_right₀ (by norm_num)).mp isPower
    have fits : plain.magnitude * 10 ^ power < 2 ^ 96 := by
      rw [isBase]
      linarith
    obtain ⟨result, scaled⟩ := Decimal.scaleUp_of_lt (by omega) fits
    refine ⟨result, (reads power result).1.mpr ⟨by omega, scaled⟩, ?_⟩
    rw [ofDecimal_eq_ok_iff, Decimal.negative_of_scaleUp scaled, unsigned,
      Decimal.magnitude_of_scaleUp scaled, isBase]
    exact ⟨Bool.noConfusion, same⟩

/-- A numeral with a negative exponent that is large is no amount, and not read as one. -/
theorem parse_down (isPlain : Numeral.IsPlain front numeral)
    (holds : Decimal.Holds numeral.base) (atLeast : 1 ≤ numeral.base)
    (below : numeral.base < 10) (many : 6 ≤ power) :
    parse (String.ofList (front ++ 'e' :: '-' :: Text.digits power)) = .ok amount ↔
      numeral.base / 10 ^ power = amount.value := by
  obtain ⟨plain, -, isBase, reads⟩ := Decimal.read_scientific isPlain holds
  rw [parse_of_isEdged (isEdged_scientific isPlain '-' power)]
  constructor
  · rintro ⟨number, done, isAmount⟩
    obtain ⟨-, scaled⟩ := (reads power number).2.mp done
    obtain ⟨positive, isTiny⟩ := Decimal.magnitude_of_scaleDown_lt (isBase ▸ atLeast)
      (isBase ▸ below) many scaled
    rw [(ofDecimal_eq_ok_iff.mp isAmount).2] at positive isTiny
    exact absurd (le_value_of_pos positive) (not_le.mpr isTiny)
  · intro same
    have isLarge : (10 : ℚ) ^ 6 ≤ 10 ^ power := by gcongr; norm_num
    have isTiny : numeral.base / 10 ^ power < 1 / 100 := by
      rw [div_lt_div_iff₀ (by positivity) (by norm_num)]
      linarith
    have positive : 0 < numeral.base / 10 ^ power := by positivity
    rw [same] at positive isTiny
    exact absurd (le_value_of_pos positive) (not_le.mpr isTiny)

/-- A text shows a number if it spells it in one of the forms that are read exactly. -/
inductive Shows (quantity : ℚ) : List Char → Prop
  | plain {text : List Char} {numeral : Numeral} (isPlain : Numeral.IsPlain text numeral)
      (isEdged : Text.IsEdged text) (holds : Decimal.Holds numeral.base)
      (same : numeral.base = quantity) : Shows quantity text
  | up {front : List Char} {numeral : Numeral} {power : Nat}
      (isPlain : Numeral.IsPlain front numeral) (holds : Decimal.Holds numeral.base)
      (atLeast : 1 ≤ numeral.base) (same : numeral.base * 10 ^ power = quantity) :
      Shows quantity (front ++ 'e' :: '+' :: Text.digits power)
  | down {front : List Char} {numeral : Numeral} {power : Nat}
      (isPlain : Numeral.IsPlain front numeral) (holds : Decimal.Holds numeral.base)
      (atLeast : 1 ≤ numeral.base) (below : numeral.base < 10) (many : 6 ≤ power)
      (same : numeral.base / 10 ^ power = quantity) :
      Shows quantity (front ++ 'e' :: '-' :: Text.digits power)

variable {quantity : ℚ} {text : List Char}

theorem Shows.parse_iff (shows : Shows quantity text) :
    parse (String.ofList text) = .ok amount ↔ quantity = amount.value := by
  cases shows with
  | plain isPlain isEdged holds same =>
      obtain ⟨number, done, unsigned, exact⟩ := Decimal.readPlain_of_holds isPlain holds
      rw [parse_of_isEdged isEdged, Decimal.read, done]
      simp only [Except.ok.injEq, exists_eq_left', ofDecimal_eq_ok_iff, exact, same, unsigned]
      simp
  | up isPlain holds atLeast same =>
      rw [parse_up isPlain holds atLeast, same]
  | down isPlain holds atLeast below many same =>
      rw [parse_down isPlain holds atLeast below many, same]

theorem Shows.isEdged (shows : Shows quantity text) : Text.IsEdged text := by
  cases shows with
  | plain _ isEdged => exact isEdged
  | up isPlain => exact isEdged_scientific isPlain '+' _
  | down isPlain => exact isEdged_scientific isPlain '-' _

theorem spells_exponent {sign : Char} {direction : ℤ}
    (isPlain : Numeral.IsPlain front numeral)
    (isSign : ([sign], direction) ∈ Numeral.exponentSigns) (power : Nat) :
    Numeral.Spells (withoutSeparators (front ++ 'e' :: sign :: Text.digits power))
      ⟨numeral.significand, numeral.places, direction * power⟩ := by
  obtain ⟨significand, places, exponent⟩ := numeral
  obtain rfl : exponent = 0 := isPlain.exponent
  have areDigits : ∀ character ∈ Text.digits power, character.isDigit = true :=
    fun _ => Text.isDigit_of_mem_digits
  have separated : withoutSeparators (front ++ 'e' :: ([sign] ++ Text.digits power)) =
      withoutSeparators front ++ 'e' :: ([sign] ++ Text.digits power) :=
    Decimal.withoutSeparators_scientific (by decide) isSign areDigits
  have spells := Numeral.Spells.scientific 'e' [sign] (Text.digits power) direction isPlain
    (by decide) isSign (Text.digits_ne_nil power) areDigits
  rw [Text.ofDigitChars_digits] at spells
  rw [List.singleton_append] at separated spells
  rwa [separated, isPlain.withoutSeparators_eq]

/-- What is shown is spelled, and a decimal can hold it without its exponent. -/
theorem Shows.spells (shows : Shows quantity text) :
    ∃ numeral, Numeral.Spells (withoutSeparators (Text.trimmed text)) numeral ∧
      numeral.value = quantity ∧ Decimal.Holds numeral.base := by
  rw [shows.isEdged.trimmed_eq]
  cases shows with
  | plain isPlain isEdged holds same =>
      rw [isPlain.withoutSeparators_eq]
      exact ⟨_, .plain isPlain, isPlain.value_eq.trans same, holds⟩
  | up isPlain holds atLeast same =>
      refine ⟨_, spells_exponent isPlain
        (by decide : (['+'], 1) ∈ Numeral.exponentSigns) _, ?_, holds⟩
      rw [← same, Numeral.value, one_mul, zpow_natCast]
      rfl
  | down isPlain holds atLeast below many same =>
      refine ⟨_, spells_exponent isPlain
        (by decide : (['-'], -1) ∈ Numeral.exponentSigns) _, ?_, holds⟩
      rw [← same, Numeral.value, neg_one_mul, zpow_neg, zpow_natCast, div_eq_mul_inv]
      rfl

end Amount

end ClearingHouse
