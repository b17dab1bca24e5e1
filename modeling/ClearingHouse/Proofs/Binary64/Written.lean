import ClearingHouse.Proofs.Amount.Scientific
import ClearingHouse.Proofs.Binary64.Scientific
import ClearingHouse.Proofs.Binary64.Shortest

/-!
# What the written form of a binary number shows

The written form of a number shows its shortest decimal: all of its digits, with zeros
beside them or with an exponent.  So it is read as the amount that the decimal is, if it
is one.
-/

namespace ClearingHouse.Binary64

open Amount (Shows)

variable {value : Nat} {exponent : ℤ}

theorem isDigit_of_mem_padded {zeros : Nat} {character : Char}
    (member : character ∈ List.replicate zeros '0' ∨ character ∈ Text.digits value) :
    character.isDigit = true := by
  rcases member with isZero | isDigit
  · rw [List.eq_of_mem_replicate isZero]
    rfl
  · exact Text.isDigit_of_mem_digits isDigit

theorem length_digits_le (small : value < 10 ^ 18) : (Text.digits value).length ≤ 18 :=
  (Nat.length_toDigits_le_iff (by decide) (by decide)).mpr small

/-- A negative exponent is a number of places. -/
theorem zpow_neg_places {places : Nat} (isPlaces : exponent = -(places : ℤ)) :
    (value : ℚ) / 10 ^ places = value * 10 ^ exponent := by
  rw [isPlaces, zpow_neg, zpow_natCast, div_eq_mul_inv]

theorem isEdged_of_isPlain {before after : List Char} {numeral : Numeral}
    (isPlain : Numeral.IsPlain (before ++ '.' :: after) numeral) (ended : after ≠ [])
    (areDigits : ∀ character ∈ after, character.isDigit = true) :
    Text.IsEdged (before ++ '.' :: after) := by
  refine ⟨isPlain.head, after.getLast ended, ?_, areDigits _ (List.getLast_mem ended)⟩
  rw [List.getLast?_append, List.getLast?_cons, List.getLast?_eq_some_getLast ended]
  rfl

/-- A decimal of not too many digits and places can be held. -/
theorem holds_of_small {significand places : Nat} (small : significand < 2 ^ 96)
    (few : places ≤ 28) : Decimal.Holds ((significand : ℚ) / 10 ^ places) :=
  ⟨⟨false, significand, places, small, few⟩, rfl⟩

/-- Digits with a point among them show what they stand for. -/
theorem shows_pointed {whole fraction : List Char} {quantity : ℚ}
    (started : whole ≠ []) (ended : fraction ≠ [])
    (areDigits : ∀ character ∈ whole ++ fraction, character.isDigit = true)
    (small : Nat.ofDigitChars 10 (whole ++ fraction) 0 < 2 ^ 96) (few : fraction.length ≤ 28)
    (same : (Nat.ofDigitChars 10 (whole ++ fraction) 0 : ℚ) / 10 ^ fraction.length =
      quantity) :
    Shows quantity (whole ++ '.' :: fraction) := by
  have isPlain := Numeral.IsPlain.pointed whole fraction started areDigits
  exact .plain isPlain (isEdged_of_isPlain isPlain ended fun character member =>
    areDigits character (List.mem_append_right _ member)) (holds_of_small small few) same

theorem shows_whole (positive : 0 < value) (notNegative : 0 ≤ exponent)
    (short : ((Text.digits value).length : ℤ) + exponent ≤ 16) :
    Shows (value * 10 ^ exponent)
      (Text.digits value ++ List.replicate exponent.toNat '0' ++ ['.', '0']) := by
  obtain ⟨zeros, rfl⟩ := Int.eq_ofNat_of_zero_le notNegative
  have isSignificand : Nat.ofDigitChars 10
      ((Text.digits value ++ List.replicate zeros '0') ++ ['0']) 0 =
        value * 10 ^ (zeros + 1) := by
    rw [List.append_assoc, ← List.replicate_succ', Nat.ofDigitChars_append,
      Text.ofDigitChars_digits, Nat.ofDigitChars_replicate_zero, Nat.mul_comm]
  refine shows_pointed ?_ (by simp) ?_ ?_ (by simp) ?_
  · exact List.append_ne_nil_of_left_ne_nil (Text.digits_ne_nil value) _
  · intro character member
    rw [List.append_assoc, ← List.replicate_succ', List.mem_append] at member
    exact isDigit_of_mem_padded member.symm
  · have isLess := (length_digits_bounds positive).2
    refine lt_of_lt_of_le (isSignificand.trans_lt ?_) (by decide : 10 ^ 17 ≤ 2 ^ 96)
    calc value * 10 ^ (zeros + 1)
        < 10 ^ (Text.digits value).length * 10 ^ (zeros + 1) := by gcongr
      _ = 10 ^ ((Text.digits value).length + (zeros + 1)) := (pow_add _ _ _).symm
      _ ≤ 10 ^ 17 := Nat.pow_le_pow_right (by decide) (by omega)
  · change (Nat.ofDigitChars 10 ((Text.digits value ++ List.replicate zeros '0') ++ ['0']) 0 : ℚ)
      / 10 ^ 1 = _
    rw [isSignificand]
    push_cast
    rw [zpow_natCast, pow_succ]
    field_simp

theorem shows_inside (small : value < 10 ^ 18) (isNegative : exponent < 0)
    (inside : 0 < ((Text.digits value).length : ℤ) + exponent) :
    Shows (value * 10 ^ exponent)
      ((Text.digits value).take (((Text.digits value).length : ℤ) + exponent).toNat ++
        '.' :: (Text.digits value).drop
          (((Text.digits value).length : ℤ) + exponent).toNat) := by
  have short := length_digits_le small
  have isSignificand : Nat.ofDigitChars 10 (Text.digits value) 0 = value :=
    Text.ofDigitChars_digits value
  generalize isPoint : (((Text.digits value).length : ℤ) + exponent).toNat = point
  have isPlaces : exponent = -(((Text.digits value).drop point).length : ℤ) := by
    rw [List.length_drop]
    omega
  have isWhole := List.take_append_drop point (Text.digits value)
  refine shows_pointed ?_ ?_ ?_ ?_ ?_ ?_
  · rw [← List.length_pos_iff, List.length_take]
    omega
  · rw [← List.length_pos_iff]
    omega
  · rw [isWhole]
    exact fun _ => Text.isDigit_of_mem_digits
  · rw [isWhole, isSignificand]
    exact small.trans (by decide)
  · omega
  · rw [isWhole, isSignificand]
    exact zpow_neg_places isPlaces

theorem shows_below (small : value < 10 ^ 18)
    (notFar : -5 < ((Text.digits value).length : ℤ) + exponent)
    (below : ((Text.digits value).length : ℤ) + exponent ≤ 0) :
    Shows (value * 10 ^ exponent)
      ('0' :: '.' ::
        List.replicate (-(((Text.digits value).length : ℤ) + exponent)).toNat '0' ++
          Text.digits value) := by
  have short := length_digits_le small
  generalize isZeros : (-(((Text.digits value).length : ℤ) + exponent)).toNat = zeros
  have isSignificand : Nat.ofDigitChars 10
      (['0'] ++ (List.replicate zeros '0' ++ Text.digits value)) 0 = value := by
    rw [← List.append_assoc, List.singleton_append, ← List.replicate_succ,
      Nat.ofDigitChars_append, Nat.ofDigitChars_replicate_zero, Nat.mul_zero,
      Text.ofDigitChars_digits]
  have isPlaces :
      exponent = -((List.replicate zeros '0' ++ Text.digits value).length : ℤ) := by
    rw [List.length_append, List.length_replicate]
    omega
  have positive := List.length_pos_iff.mpr (Text.digits_ne_nil value)
  change Shows _ (['0'] ++ '.' :: (List.replicate zeros '0' ++ Text.digits value))
  refine shows_pointed (by simp) ?_ ?_ ?_ ?_ ?_
  · exact List.append_ne_nil_of_right_ne_nil _ (Text.digits_ne_nil value)
  · intro character member
    rw [← List.append_assoc, List.singleton_append, ← List.replicate_succ,
      List.mem_append] at member
    exact isDigit_of_mem_padded member
  · rw [isSignificand]
    exact small.trans (by decide)
  · omega
  · rw [isSignificand]
    exact zpow_neg_places isPlaces

/-- In scientific notation one digit stands in front of the point. -/
theorem isPlain_of_front (value : Nat) (mark : List Char) :
    ∃ front numeral,
      (match Text.digits value with
        | [digit] => digit :: mark
        | first :: others => first :: '.' :: others ++ mark
        | [] => mark) = front ++ mark ∧
      Numeral.IsPlain front numeral ∧ numeral.significand = value ∧
        numeral.places = (Text.digits value).length - 1 := by
  have areDigits : ∀ character ∈ Text.digits value, character.isDigit = true :=
    fun _ => Text.isDigit_of_mem_digits
  have isSignificand := Text.ofDigitChars_digits value
  have notEmpty := Text.digits_ne_nil value
  generalize Text.digits value = digits at areDigits isSignificand notEmpty ⊢
  split
  · rename_i digit
    exact ⟨[digit], _, rfl, .whole _ notEmpty areDigits, isSignificand, rfl⟩
  · rename_i first others _
    exact ⟨first :: '.' :: others, _, rfl, .pointed [first] others (by simp) areDigits,
      isSignificand, (Nat.add_sub_cancel _ _).symm⟩
  · exact absurd rfl notEmpty

theorem shows_scientific {front : List Char} {numeral : Numeral}
    (isPlain : Numeral.IsPlain front numeral) (isSignificand : numeral.significand = value)
    (isPlaces : numeral.places = (Text.digits value).length - 1) (positive : 0 < value)
    (small : value < 10 ^ 18) {power : ℤ}
    (isPower : power = (Text.digits value).length + exponent - 1)
    (isFar : power < -5 ∨ 15 < power) :
    Shows (value * 10 ^ exponent)
      (front ++ 'e' :: (if power < 0 then '-' else '+') :: Text.digits power.natAbs) := by
  have ten : (10 : ℚ) ≠ 0 := by norm_num
  have short := length_digits_le small
  have started := List.length_pos_iff.mpr (Text.digits_ne_nil value)
  obtain ⟨atLeast, below⟩ := length_digits_bounds positive
  rw [← isPlaces] at atLeast
  have isLength : (Text.digits value).length = numeral.places + 1 := by omega
  rw [isLength] at below isPower
  have holds : Decimal.Holds numeral.base := by
    rw [Numeral.base, isSignificand]
    exact holds_of_small (small.trans (by decide)) (by omega)
  have baseAtLeast : 1 ≤ numeral.base := by
    rw [Numeral.base, isSignificand, le_div_iff₀ (by positivity), one_mul]
    exact_mod_cast atLeast
  have baseBelow : numeral.base < 10 := by
    rw [Numeral.base, isSignificand, div_lt_iff₀ (by positivity), ← pow_succ']
    exact_mod_cast below
  have same : numeral.base * 10 ^ power = value * 10 ^ exponent := by
    rw [Numeral.base, isSignificand, zpow_neg_places rfl, mul_assoc, ← zpow_add₀ ten]
    congr 2
    push_cast at isPower
    omega
  rcases isFar with isSmall | isLarge
  · obtain ⟨size, rfl⟩ : ∃ size : ℕ, power = -(size : ℤ) := ⟨power.natAbs, by omega⟩
    rw [if_pos (by omega), Int.natAbs_neg, Int.natAbs_natCast]
    refine .down isPlain holds baseAtLeast baseBelow (by omega) ?_
    rw [← same, zpow_neg, zpow_natCast, div_eq_mul_inv]
  · obtain ⟨size, rfl⟩ : ∃ size : ℕ, power = size := ⟨power.natAbs, by omega⟩
    rw [if_neg (by omega), Int.natAbs_natCast]
    exact .up isPlain holds baseAtLeast (by rw [← same, zpow_natCast])

/-- What the written form shows behind the sign: nothing, or the shortest decimal. -/
def shown (number : Binary64) : ℚ :=
  if number.isZero then 0 else number.shortest.1 * 10 ^ number.shortest.2

theorem shows_zero : Shows 0 ['0', '.', '0'] := by
  have isZero : Nat.ofDigitChars 10 (['0'] ++ ['0']) 0 = 0 := rfl
  have areDigits : ∀ character ∈ ['0'] ++ ['0'], character.isDigit = true := by
    intro character member
    obtain rfl : character = '0' := by simpa using member
    rfl
  change Shows 0 (['0'] ++ '.' :: ['0'])
  refine shows_pointed (by simp) (by simp) areDigits (by decide) (by decide) ?_
  rw [isZero, Nat.cast_zero, zero_div]

/-- The written form is a sign and what is shown. -/
theorem shows_written {number : Binary64} (isNormal : number.IsNormal) :
    ∃ text, number.written = (if number.negative then ['-'] else []) ++ text ∧
      Shows number.shown text := by
  rw [shown]
  cases isZero : number.isZero with
  | true => exact ⟨_, by rw [written, isZero]; rfl, shows_zero⟩
  | false =>
      have notZero : 0 < number.significand := by
        rw [Binary64.isZero, beq_eq_false_iff_ne] at isZero
        exact Nat.pos_of_ne_zero isZero
      obtain ⟨-, positive, small⟩ := isNormal.shortest notZero
      simp only [written, isZero, Bool.false_eq_true, if_false]
      generalize number.shortest = decimal at positive small ⊢
      obtain ⟨value, exponent⟩ := decimal
      refine ⟨_, rfl, ?_⟩
      simp only at positive small ⊢
      have started := List.length_pos_iff.mpr (Text.digits_ne_nil value)
      split
      · rename_i isWhole
        exact shows_whole positive isWhole.1 isWhole.2
      · rename_i notWhole
        split
        · rename_i isInside
          exact shows_inside small (by omega) isInside.1
        · rename_i notInside
          split
          · rename_i isBelow
            exact shows_below small isBelow.1 isBelow.2
          · obtain ⟨front, numeral, isFront, isPlain, isSignificand, isPlaces⟩ :=
              isPlain_of_front value ('e' ::
                (if ((Text.digits value).length : ℤ) + exponent - 1 < 0 then '-' else '+') ::
                Text.digits (((Text.digits value).length : ℤ) + exponent - 1).natAbs)
            refine Eq.mpr (congrArg (Shows _) isFront) ?_
            exact shows_scientific isPlain isSignificand isPlaces positive small rfl
              (by omega)

/-- A decimal of at most fifteen digits, and not too far from the point, is shown again. -/
theorem shown_of_ofScientific? {negative : Bool} {significand : Nat} {number : Binary64}
    (small : significand < 10 ^ 15) (few : exponent.natAbs ≤ 22)
    (made : ofScientific? negative significand exponent = some number) :
    number.shown = significand * 10 ^ exponent := by
  rcases Nat.eq_zero_or_pos significand with rfl | positive
  · have isZero : number.isZero = true := by
      rw [Binary64.isZero, significand_of_ofScientific?_zero made]
      rfl
    rw [shown, if_pos isZero, Nat.cast_zero, zero_mul]
  · obtain ⟨isNormal, attracts⟩ :=
      attracts_of_ofScientific? positive (small.trans (by decide)) few made
    obtain ⟨atLeast, below⟩ := length_digits_bounds positive
    have short : (Text.digits significand).length ≤ 15 :=
      (Nat.length_toDigits_le_iff (by decide) (by decide)).mpr small
    have started := List.length_pos_iff.mpr (Text.digits_ne_nil significand)
    generalize (Text.digits significand).length = length at atLeast below short started
    -- With zeros behind its digits the decimal is one of fifteen digits.
    have same : ((significand * 10 ^ (15 - length) : ℕ) : ℚ) *
        10 ^ (exponent - (15 - length : ℕ)) = significand * 10 ^ exponent := by
      rw [zpow_sub₀ (by norm_num), zpow_natCast]
      push_cast
      field_simp
    have shortens : Shortens number (significand * 10 ^ (15 - length))
        (exponent - (15 - length : ℕ)) := by
      refine ⟨isNormal, same ▸ attracts, ?_, ?_, by omega⟩
      · calc 10 ^ 14 = 10 ^ (length - 1) * 10 ^ (15 - length) := by
              rw [← pow_add]
              congr 1
              omega
          _ ≤ significand * 10 ^ (15 - length) := by gcongr
      · calc significand * 10 ^ (15 - length) < 10 ^ length * 10 ^ (15 - length) := by gcongr
          _ = 10 ^ 15 := by
              rw [← pow_add]
              congr 1
              omega
    have notZero : number.isZero = false := by
      rw [Binary64.isZero, beq_eq_false_iff_ne]
      have := shortens.full
      omega
    rw [shown, notZero, if_neg (by decide), shortens.shortest, same]

end ClearingHouse.Binary64
