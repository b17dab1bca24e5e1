import ClearingHouse.Proofs.Amount.Product
import ClearingHouse.Proofs.Amount.Reading

/-!
# When an amount is what is written

An amount that is accepted is the number that is written exactly if decimals can hold
that number, with its exponent and without it.  A numeral of which they cannot is
rounded before anything looks at its precision, and may be accepted as the amount that
it is rounded to.
-/

namespace ClearingHouse

namespace Decimal

/-- Zeros are dropped as long as there are any. -/
theorem stripZeros_ends (mantissa scale : Nat) :
    (stripZeros mantissa scale).2 = 0 ∨ (stripZeros mantissa scale).1 % 10 ≠ 0 := by
  induction scale generalizing mantissa with
  | zero => exact Or.inl rfl
  | succ scale ih =>
      unfold stripZeros
      split
      · exact ih _
      · rename_i notZero
        exact Or.inr notZero

@[simp] theorem magnitude_normalized (number : Decimal) :
    number.normalized.magnitude = number.magnitude :=
  magnitude_eq_iff.mpr (stripZeros_value number.mantissa number.scale)

end Decimal

namespace Amount

open Numeral (withoutSeparators)

/-- The amount in whole units. -/
def value (amount : Amount) : ℚ := amount.minor / 100

theorem ofMinor?_eq_some_iff {minor : Nat} {amount : Amount} :
    ofMinor? minor = some amount ↔ minor = amount.minor := by
  constructor
  · intro made
    exact (minor_of_ofMinor? made).symm
  · rintro rfl
    exact ofMinor?_minor amount

/-- A number of hundredths has at most two places once its zeros are dropped. -/
theorem scale_le_two_of_hundredths {number : Decimal} {minor : Nat}
    (same : number.normalized.mantissa * 10 ^ 2 = minor * 10 ^ number.normalized.scale) :
    number.normalized.scale ≤ 2 := by
  by_contra more
  obtain ⟨further, isScale⟩ := Nat.exists_eq_add_of_lt (Nat.lt_of_not_le more)
  have ends : number.normalized.mantissa % 10 ≠ 0 :=
    (Decimal.stripZeros_ends number.mantissa number.scale).resolve_left
      fun isZero => more ((Nat.le_of_eq isZero).trans (Nat.zero_le 2))
  have divisible : number.normalized.mantissa = minor * 10 ^ further * 10 := by
    refine Nat.eq_of_mul_eq_mul_right (by decide : 0 < 10 ^ 2) ?_
    rw [same, isScale]
    ring
  omega

theorem hundredths_eq_iff {mantissa scale minor : Nat} (few : scale ≤ 2) :
    mantissa * 10 ^ (2 - scale) = minor ↔ mantissa * 10 ^ 2 = minor * 10 ^ scale := by
  obtain rfl | rfl | rfl : scale = 0 ∨ scale = 1 ∨ scale = 2 := by omega
  all_goals omega

/-- A decimal is an amount if it is not negative and a number of hundredths that
fits. -/
theorem ofDecimal_eq_ok_iff {number : Decimal} {amount : Amount} :
    ofDecimal number = .ok amount ↔
      (number.negative = true → number.mantissa = 0) ∧
        number.magnitude = amount.value := by
  have hundred : amount.value = amount.minor / 10 ^ 2 := by
    rw [value]
    norm_num
  rw [hundred, ← Decimal.magnitude_normalized, Decimal.magnitude_eq_iff]
  simp only [ofDecimal]
  split
  · rename_i negative
    simp_all
  · rename_i notNegative
    have sign : number.negative = true → number.mantissa = 0 := by
      intro isNegative
      simpa [isNegative] using notNegative
    rw [and_iff_right sign]
    split
    · rename_i precise
      simp only [reduceCtorEq, false_iff]
      exact fun same => Nat.not_le_of_lt precise (scale_le_two_of_hundredths same)
    · rename_i notPrecise
      have few := Nat.le_of_not_lt notPrecise
      rw [← hundredths_eq_iff few, ← ofMinor?_eq_some_iff, ← hundredfold?_normalized few sign]
      split
      · rename_i other made
        simp [made]
      · rename_i notMade
        simp [notMade]

theorem parse_eq_ok_iff {text : String} {amount : Amount} :
    parse text = .ok amount ↔
      ((Text.trimmed text.toList).head? ≠ some '-' ∧
        (Text.trimmed text.toList).head? ≠ some '+') ∧
      (Text.trimmed text.toList).head? ≠ some '.' ∧
      (Text.trimmed text.toList).getLast? ≠ some '.' ∧
      ∃ number, Decimal.read (Text.trimmed text.toList) = .ok number ∧
        ofDecimal number = .ok amount := by
  simp only [parse]
  generalize Text.trimmed text.toList = characters
  cases first : characters.head? with
  | none =>
      rw [List.head?_eq_none_iff] at first
      subst first
      constructor
      · intro accepted
        cases accepted
      · rintro ⟨-, -, -, number, done, -⟩
        cases done
  | some head =>
      cases last : characters.getLast? with
      | none =>
          rw [List.getLast?_eq_none_iff] at last
          subst last
          cases first
      | some final =>
          simp only [ne_eq, Option.some.injEq]
          split
          · rename_i isSign
            simp only [reduceCtorEq, false_iff]
            rintro ⟨noSign, -⟩
            exact isSign.elim noSign.1 noSign.2
          · rename_i noSign
            rw [and_iff_right (not_or.mp noSign)]
            split
            · rename_i isPoint
              simp only [reduceCtorEq, false_iff]
              rintro ⟨noHead, noLast, -⟩
              exact isPoint.elim noHead noLast
            · rename_i noPoint
              rw [not_or] at noPoint
              rw [and_iff_right noPoint.1, and_iff_right noPoint.2]
              cases Decimal.read characters with
              | ok number => simp
              | error cause => simp

/-- What reading a text as an amount comes to. -/
structure Reads (text : String) : Prop where
  /-- What is accepted is a numeral. -/
  spelled : ∀ amount, parse text = .ok amount →
    ∃ numeral, Numeral.Spells (withoutSeparators (Text.trimmed text.toList)) numeral
  /-- The amount is the number that is written exactly if decimals can hold that number,
  with its exponent and without it. -/
  exact : ∀ amount numeral, parse text = .ok amount →
    Numeral.Spells (withoutSeparators (Text.trimmed text.toList)) numeral →
      (numeral.value = amount.value ↔
        Decimal.Holds numeral.base ∧ Decimal.Holds numeral.value)
  /-- What decimals can hold and is not an amount is refused. -/
  refused : ∀ numeral,
    Numeral.Spells (withoutSeparators (Text.trimmed text.toList)) numeral →
      Decimal.Holds numeral.base → Decimal.Holds numeral.value →
        (∀ amount : Amount, numeral.value ≠ amount.value) →
          ∀ amount, parse text ≠ .ok amount
  /-- All plain numerals of amounts are accepted, and as these amounts. -/
  accepted : ∀ amount numeral, Numeral.IsPlain (Text.trimmed text.toList) numeral →
    (Text.trimmed text.toList).getLast? ≠ some '.' → numeral.value = amount.value →
      parse text = .ok amount

theorem holds_value (amount : Amount) : Decimal.Holds amount.value :=
  ⟨amount.toDecimal, by rw [Decimal.magnitude, value]; norm_num [toDecimal]⟩

theorem parse_of_isPlain {text : String} {amount : Amount} {numeral : Numeral}
    (isPlain : Numeral.IsPlain (Text.trimmed text.toList) numeral)
    (ended : (Text.trimmed text.toList).getLast? ≠ some '.')
    (same : numeral.value = amount.value) : parse text = .ok amount := by
  have holds : Decimal.Holds numeral.base := by
    rw [← isPlain.value_eq, same]
    exact holds_value amount
  obtain ⟨number, done, unsigned, exact⟩ := Decimal.readPlain_of_holds isPlain holds
  rw [parse_eq_ok_iff]
  refine ⟨⟨isPlain.head_ne (by decide), isPlain.head_ne (by decide)⟩,
    isPlain.head_ne (by decide), ended, number, by simp only [Decimal.read, done], ?_⟩
  rw [ofDecimal_eq_ok_iff, exact, ← same, isPlain.value_eq, unsigned]
  exact ⟨Bool.noConfusion, rfl⟩

theorem value_eq_iff_of_parse {text : String} {amount : Amount} {numeral : Numeral}
    (accepted : parse text = .ok amount)
    (spells : Numeral.Spells (withoutSeparators (Text.trimmed text.toList)) numeral) :
    numeral.value = amount.value ↔
      Decimal.Holds numeral.base ∧ Decimal.Holds numeral.value := by
  obtain ⟨noSign, noPoint, -, number, done, isAmount⟩ := parse_eq_ok_iff.mp accepted
  obtain ⟨found, foundSpells, readsAs⟩ := Decimal.readsAs_of_read noSign noPoint done
  rw [spells.unique foundSpells, ← (ofDecimal_eq_ok_iff.mp isAmount).2, eq_comm]
  exact readsAs

/-- An amount is what is written up to what decimals can hold. -/
theorem reads_every_text (text : String) : Reads text where
  spelled := by
    intro amount accepted
    obtain ⟨noSign, noPoint, -, number, done, -⟩ := parse_eq_ok_iff.mp accepted
    obtain ⟨numeral, spells, -⟩ := Decimal.readsAs_of_read noSign noPoint done
    exact ⟨numeral, spells⟩
  exact := fun _ _ accepted spells => value_eq_iff_of_parse accepted spells
  refused := by
    intro numeral spells holdsBase holdsValue notAmount amount accepted
    exact notAmount amount
      ((value_eq_iff_of_parse accepted spells).mpr ⟨holdsBase, holdsValue⟩)
  accepted := fun _ _ isPlain ended same => parse_of_isPlain isPlain ended same

/-- Twenty-nine places are rounded to twenty-eight before the precision is looked at. -/
example : parse "0.99999999999999999999999999999" = .ok ⟨100, by decide⟩ := by
  decide +kernel

end Amount

end ClearingHouse
