import ClearingHouse.Proofs.Amount.Rounding

/-!
# What reading a numeral keeps

A numeral with an exponent is read as the plain numeral in front of the mark, and that
number is then scaled, which may round it a second time.
-/

namespace ClearingHouse

/-! ## Exponents -/

namespace Decimal

variable {number result : Decimal} {exponent : Nat}

theorem magnitude_of_scaleUp (scaled : number.scaleUp exponent = .ok result) :
    result.magnitude = number.magnitude * 10 ^ exponent := by
  unfold scaleUp at scaled
  split at scaled
  · rename_i within
    cases scaled
    obtain ⟨places, isScale⟩ := Nat.exists_eq_add_of_le within
    simp only [magnitude, isScale, Nat.add_sub_cancel_left, pow_add]
    field_simp
  · rename_i beyond
    split at scaled
    · cases scaled
    · split at scaled
      · rename_i made
        cases scaled
        obtain ⟨-, isMantissa, isScale⟩ := of?_eq_some_iff.mp made
        obtain ⟨zeros, isExponent⟩ := Nat.exists_eq_add_of_le (Nat.le_of_not_le beyond)
        simp only [magnitude, isMantissa, isScale, isExponent, Nat.add_sub_cancel_left,
          pow_add, Nat.cast_mul, Nat.cast_pow, Nat.cast_ofNat]
        field_simp
      · cases scaled

/-- Rounding does nothing to a mantissa that ends with as many zeros. -/
theorem roundedMantissa_mul (mantissa places : Nat) :
    roundedMantissa (mantissa * 10 ^ places) places = mantissa := by
  have positive : 0 < 10 ^ places := Nat.pow_pos (by decide)
  rw [roundedMantissa, Nat.add_comm, Nat.add_mul_div_right _ _ positive,
    Nat.div_eq_of_lt (Nat.div_lt_self positive (by decide)), Nat.zero_add]

theorem magnitude_of_scaleDown (scaled : number.scaleDown exponent = .ok result)
    (holds : Holds (number.magnitude / 10 ^ exponent)) :
    result.magnitude = number.magnitude / 10 ^ exponent := by
  have quotient : number.magnitude / 10 ^ exponent =
      number.mantissa / 10 ^ (number.scale + exponent) := by
    rw [magnitude, div_div, pow_add]
  simp only [scaleDown] at scaled
  split at scaled
  · cases scaled
  · split at scaled
    · rename_i made
      cases scaled
      obtain ⟨-, isMantissa, isScale⟩ := of?_eq_some_iff.mp made
      rw [quotient] at holds ⊢
      obtain ⟨exact, same⟩ := holds
      rw [magnitude_eq_iff] at same
      generalize isLost : number.scale + exponent - 28 = lost at isMantissa isScale
      -- What is cut off is zeros, since a decimal can hold the quotient.
      have divisible : ∃ kept, number.mantissa = kept * 10 ^ lost := by
        rcases Nat.eq_zero_or_pos lost with rfl | positive
        · exact ⟨number.mantissa, by simp⟩
        · have most := exact.scale_le
          obtain ⟨further, isPlaces⟩ : ∃ further,
              number.scale + exponent = exact.scale + further + lost :=
            ⟨28 - exact.scale, by omega⟩
          refine ⟨exact.mantissa * 10 ^ further, ?_⟩
          refine Nat.eq_of_mul_eq_mul_right
            (Nat.pow_pos (by decide) : 0 < 10 ^ exact.scale) ?_
          rw [← same, isPlaces]
          ring
      obtain ⟨kept, isKept⟩ := divisible
      rw [magnitude_eq_iff, isMantissa, isScale, isKept, roundedMantissa_mul, mul_assoc,
        ← pow_add]
      congr 2
      omega
    · cases scaled

/-- If a decimal can hold a number after it was divided by a power of ten, one can hold
the number itself, unless that is too large. -/
theorem holds_of_holds_div {significand places : Nat}
    (below : significand < 2 ^ 96 * 10 ^ places)
    (holds : Holds ((significand : ℚ) / 10 ^ places / 10 ^ exponent)) :
    Holds (significand / 10 ^ places) := by
  obtain ⟨exact, same⟩ := holds
  rw [div_div, ← pow_add, magnitude_eq_iff] at same
  rcases Nat.le_total exponent exact.scale with few | many
  · obtain ⟨rest, isScale⟩ := Nat.exists_eq_add_of_le few
    refine ⟨⟨false, exact.mantissa, rest, exact.mantissa_lt, ?_⟩, ?_⟩
    · have most := exact.scale_le
      omega
    · rw [magnitude_eq_iff]
      refine Nat.eq_of_mul_eq_mul_right (Nat.pow_pos (by decide) : 0 < 10 ^ exponent) ?_
      rw [isScale] at same
      calc exact.mantissa * 10 ^ places * 10 ^ exponent
          = exact.mantissa * 10 ^ (places + exponent) := by ring
        _ = significand * 10 ^ (exponent + rest) := same
        _ = significand * 10 ^ rest * 10 ^ exponent := by ring
  · obtain ⟨zeros, isExponent⟩ := Nat.exists_eq_add_of_le many
    have isWhole : significand = exact.mantissa * 10 ^ zeros * 10 ^ places := by
      refine Nat.eq_of_mul_eq_mul_right
        (Nat.pow_pos (by decide) : 0 < 10 ^ exact.scale) ?_
      rw [← same, isExponent]
      ring
    refine ⟨⟨false, exact.mantissa * 10 ^ zeros, 0, ?_, by decide⟩, ?_⟩
    · rw [isWhole] at below
      exact Nat.lt_of_mul_lt_mul_right below
    · rw [magnitude_eq_iff]
      exact isWhole.symm.trans (Nat.mul_one _).symm

end Decimal

/-- An unsigned number below a bound is read of digits, possibly behind a plus sign. -/
theorem Text.digits_of_unsignedBelow? {bound value : Nat} {text : List Char}
    (read : unsignedBelow? bound text = some value) :
    ∃ sign digits, text = sign ++ digits ∧ (sign = [] ∨ sign = ['+']) ∧ digits ≠ [] ∧
      (∀ character ∈ digits, character.isDigit = true) ∧
        Nat.ofDigitChars 10 digits 0 = value := by
  simp only [unsignedBelow?, Option.bind_eq_some_iff] at read
  obtain ⟨total, isTotal, isValue⟩ := read
  split at isValue
  · cases isValue
    rw [value?_eq_some_iff] at isTotal
    split at isTotal
    · exact ⟨['+'], _, rfl, Or.inr rfl, isTotal⟩
    · exact ⟨[], text, rfl, Or.inl rfl, isTotal⟩
  · cases isValue

/-! ## Reading a numeral -/

namespace Decimal

open Numeral (withoutSeparators)

/-- A number is read from a numeral as it is written exactly if decimals can hold it,
with its exponent and without it. -/
def ReadsAs (number : Decimal) (numeral : Numeral) : Prop :=
  number.magnitude = numeral.value ↔ Holds numeral.base ∧ Holds numeral.value

theorem Keeps.readsAs {number : Decimal} {text : List Char} {numeral : Numeral}
    (isPlain : Numeral.IsPlain text numeral)
    (keeps : number.Keeps numeral.significand numeral.places) :
    number.ReadsAs numeral := by
  rw [ReadsAs, isPlain.value_eq, and_self]
  exact ⟨fun same => ⟨number, same⟩, keeps.exact⟩

theorem Keeps.readsAs_scaleUp {number result : Decimal} {significand places exponent : Nat}
    (keeps : number.Keeps significand places)
    (scaled : number.scaleUp exponent = .ok result) :
    result.ReadsAs ⟨significand, places, 1 * exponent⟩ := by
  have positive : (10 : ℚ) ^ exponent ≠ 0 := by positivity
  simp only [ReadsAs, Numeral.value, Numeral.base, one_mul, zpow_natCast,
    magnitude_of_scaleUp scaled]
  rw [mul_left_inj' positive]
  constructor
  · intro same
    exact ⟨⟨number, same⟩, ⟨result, by rw [magnitude_of_scaleUp scaled, same]⟩⟩
  · exact fun holds => keeps.exact holds.1

theorem Keeps.readsAs_scaleDown {number result : Decimal}
    {significand places exponent : Nat} (keeps : number.Keeps significand places)
    (scaled : number.scaleDown exponent = .ok result) :
    result.ReadsAs ⟨significand, places, -1 * exponent⟩ := by
  simp only [ReadsAs, Numeral.value, Numeral.base, neg_one_mul, zpow_neg, zpow_natCast,
    ← div_eq_mul_inv]
  constructor
  · intro same
    exact ⟨holds_of_holds_div keeps.below ⟨result, same⟩, ⟨result, same⟩⟩
  · rintro ⟨holdsBase, holdsValue⟩
    rw [← keeps.exact holdsBase] at holdsValue ⊢
    exact magnitude_of_scaleDown scaled holdsValue

theorem exists_mark {text : List Char} (marked : text.any isExponentMark = true) :
    ∃ mark tail, text.dropWhile (!isExponentMark ·) = mark :: tail ∧
      isExponentMark mark = true := by
  induction text with
  | nil => cases marked
  | cons character rest ih =>
      by_cases isMark : isExponentMark character = true
      · exact ⟨character, rest, List.dropWhile_cons_of_neg (by simp [isMark]), isMark⟩
      · rw [List.dropWhile_cons_of_pos (by simp [isMark])]
        refine ih ?_
        simpa [isMark] using marked

/-- What is left of a text in scientific notation without its separators, none of which
can stand in its exponent. -/
theorem withoutSeparators_scientific {text : List Char} {mark : Char} {sign digits : List Char}
    {direction : Int} (isMark : isExponentMark mark = true)
    (isSign : (sign, direction) ∈ Numeral.exponentSigns)
    (areDigits : ∀ character ∈ digits, character.isDigit = true) :
    withoutSeparators (text ++ mark :: (sign ++ digits)) =
      withoutSeparators text ++ mark :: (sign ++ digits) := by
  have isOther : mark ≠ '_' := by
    rintro rfl
    cases isMark
  have signSame : withoutSeparators sign = sign := by
    simp only [Numeral.exponentSigns, List.mem_cons, Prod.mk.injEq, List.not_mem_nil,
      or_false] at isSign
    rcases isSign with ⟨rfl, -⟩ | ⟨rfl, -⟩ | ⟨rfl, -⟩ | ⟨rfl, -⟩ <;> rfl
  rw [withoutSeparators_append, withoutSeparators_cons _ isOther,
    withoutSeparators_append, signSame, withoutSeparators_of_digits areDigits]

/-- A text that is read in scientific notation spells a numeral. -/
theorem readsAs_of_readScientific {text : List Char} {number : Decimal}
    (noSign : text.head? ≠ some '-' ∧ text.head? ≠ some '+')
    (noPoint : text.head? ≠ some '.') (marked : text.any isExponentMark = true)
    (read : readScientific text = .ok number) :
    ∃ numeral, Numeral.Spells (withoutSeparators text) numeral ∧
      number.ReadsAs numeral := by
  obtain ⟨mark, tail, isRest, isMark⟩ := exists_mark marked
  have isText : text = text.takeWhile (!isExponentMark ·) ++ mark :: tail := by
    rw [← isRest, List.takeWhile_append_dropWhile]
  have isFirst : ∀ character, text.head? ≠ some character →
      (text.takeWhile (!isExponentMark ·)).head? ≠ some character := by
    intro character notFirst isFirst
    rw [List.head?_takeWhile, Option.filter_eq_some_iff] at isFirst
    exact notFirst isFirst.1
  simp only [readScientific, isRest, List.drop_succ_cons, List.drop_zero] at read
  generalize text.takeWhile (!isExponentMark ·) = front at isText isFirst read
  subst isText
  cases asPlain : readPlain front with
  | error fault =>
      rw [asPlain] at read
      cases read
  | ok base =>
      rw [asPlain] at read
      simp only [bind, Except.bind] at read
      obtain ⟨⟨significand, places, exponent⟩, isPlain, keeps⟩ := isPlain_of_readPlain
        ⟨isFirst _ noSign.1, isFirst _ noSign.2⟩ (isFirst _ noPoint) asPlain
      obtain rfl : exponent = 0 := isPlain.exponent
      split at read
      · split at read
        · rename_i numeral exponent isExponent
          obtain ⟨sign, digits, rfl, isSign, started, areDigits, rfl⟩ :=
            Text.digits_of_unsignedBelow? isExponent
          have signed : ('-' :: sign, -1) ∈ Numeral.exponentSigns := by
            rcases isSign with rfl | rfl <;> decide
          refine ⟨_, ?_, keeps.readsAs_scaleDown read⟩
          rw [← List.cons_append, withoutSeparators_scientific isMark signed areDigits]
          exact .scientific mark _ digits _ isPlain isMark signed started areDigits
        · cases read
      · split at read
        · rename_i exponent isExponent
          obtain ⟨sign, digits, rfl, isSign, started, areDigits, rfl⟩ :=
            Text.digits_of_unsignedBelow? isExponent
          have signed : (sign, 1) ∈ Numeral.exponentSigns := by
            rcases isSign with rfl | rfl <;> decide
          refine ⟨_, ?_, keeps.readsAs_scaleUp read⟩
          rw [withoutSeparators_scientific isMark signed areDigits]
          exact .scientific mark _ digits _ isPlain isMark signed started areDigits
        · cases read

/-- A text that starts with neither a sign nor a point, and is read, spells a numeral. -/
theorem readsAs_of_read {text : List Char} {number : Decimal}
    (noSign : text.head? ≠ some '-' ∧ text.head? ≠ some '+')
    (noPoint : text.head? ≠ some '.') (done : read text = .ok number) :
    ∃ numeral, Numeral.Spells (withoutSeparators text) numeral ∧
      number.ReadsAs numeral := by
  unfold read at done
  split at done
  · rename_i asPlain
    cases done
    obtain ⟨numeral, isPlain, keeps⟩ := isPlain_of_readPlain noSign noPoint asPlain
    exact ⟨numeral, .plain isPlain, keeps.readsAs isPlain⟩
  · split at done
    · rename_i marked
      exact readsAs_of_readScientific noSign noPoint marked done
    · cases done

end Decimal

end ClearingHouse
