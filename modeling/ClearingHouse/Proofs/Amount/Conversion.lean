import Mathlib.Order.Bounds.Defs
import ClearingHouse.Proofs.Amount.Written

/-!
# Conversions of amounts

A decimal is an amount exactly if it is a number of hundredths that fits.  Of the
others, the negative ones are told apart first, then those that need more than two
digits behind the point, and what is left is too large.  An amount comes back from its
decimal and from its written form, so no two amounts are written alike.
-/

namespace ClearingHouse

namespace Decimal

def value (number : Decimal) : ℚ :=
  if number.negative then -number.magnitude else number.magnitude

/-- A number needs so many digits behind the point to be written exactly. -/
def NeedsPlaces (quantity : ℚ) (places : ℕ) : Prop :=
  IsLeast {count : ℕ | ∃ whole : ℤ, quantity * 10 ^ count = whole} places

variable {number : Decimal}

theorem magnitude_nonneg (number : Decimal) : 0 ≤ number.magnitude := by
  rw [magnitude]
  positivity

theorem magnitude_eq_zero_iff : number.magnitude = 0 ↔ number.mantissa = 0 := by
  rw [magnitude, div_eq_zero_iff, Nat.cast_eq_zero]
  exact or_iff_left (by positivity)

theorem value_neg_iff :
    number.value < 0 ↔ number.negative = true ∧ number.mantissa ≠ 0 := by
  have nonneg := magnitude_nonneg number
  rw [value, ne_eq, ← magnitude_eq_zero_iff]
  cases number.negative with
  | false => simpa using nonneg
  | true => simpa [eq_comm] using nonneg.lt_iff_ne

/-- The sign of a number that is not negative means nothing. -/
theorem value_eq_magnitude (notNegative : 0 ≤ number.value) :
    number.value = number.magnitude := by
  rw [value] at notNegative ⊢
  split at notNegative
  · have isZero : number.magnitude = 0 :=
      le_antisymm (neg_nonneg.mp notNegative) (magnitude_nonneg number)
    simp [isZero]
  · simp_all

/-- Once its zeros are dropped, a decimal has as many places as it needs. -/
theorem needsPlaces_normalized (number : Decimal) :
    NeedsPlaces number.magnitude number.normalized.scale := by
  rw [← magnitude_normalized, magnitude]
  constructor
  · exact ⟨number.normalized.mantissa, div_mul_cancel₀ _ (by positivity)⟩
  · rintro count ⟨whole, same⟩
    by_contra fewer
    obtain ⟨further, isScale⟩ := Nat.exists_eq_add_of_lt (Nat.lt_of_not_le fewer)
    have ends : number.normalized.mantissa % 10 ≠ 0 :=
      (stripZeros_ends number.mantissa number.scale).resolve_left
        fun isZero => fewer ((Nat.le_of_eq isZero).trans (Nat.zero_le count))
    have divisible : (number.normalized.mantissa : ℤ) = whole * 10 ^ further * 10 := by
      have cleared : (number.normalized.mantissa : ℚ) * 10 ^ count =
          whole * 10 ^ (count + further + 1) := by
        rw [← same, isScale]
        field_simp
      have cancelled : (number.normalized.mantissa : ℚ) = whole * 10 ^ further * 10 := by
        refine mul_right_cancel₀ (by positivity : (10 : ℚ) ^ count ≠ 0) ?_
        rw [cleared]
        ring
      exact_mod_cast cancelled
    omega

theorem NeedsPlaces.unique {quantity : ℚ} {first second : ℕ}
    (needs : NeedsPlaces quantity first) (otherNeeds : NeedsPlaces quantity second) :
    first = second :=
  IsLeast.unique needs otherNeeds

end Decimal

namespace Amount

open Decimal (NeedsPlaces)

variable {number : Decimal}

theorem ofDecimal_of_negative (negative : number.value < 0) :
    ofDecimal number = .error .notPositive := by
  obtain ⟨sign, notZero⟩ := Decimal.value_neg_iff.mp negative
  simp [ofDecimal, sign, notZero]

/-- Behind the sign, the places decide first. -/
theorem ofDecimal_of_nonneg (notNegative : 0 ≤ number.value) :
    ofDecimal number =
      if 2 < number.normalized.scale then .error (.tooPrecise number.normalized.scale)
      else
        match ofMinor? (number.normalized.mantissa *
          10 ^ (2 - number.normalized.scale)) with
        | some amount => .ok amount
        | none => .error .tooLarge := by
  have unsigned : ¬ (number.negative && number.mantissa != 0) = true := by
    simpa [Decimal.value_neg_iff] using not_lt.mpr notNegative
  simp only [ofDecimal, if_neg unsigned]
  split
  · rfl
  · rename_i notPrecise
    have product := hundredfold?_normalized (Nat.le_of_not_lt notPrecise) (by simpa using unsigned)
    cases found : ofMinor? (number.normalized.mantissa * 10 ^ (2 - number.normalized.scale)) with
    | none => simp only [product, found]
    | some amount => simp only [product, found]

theorem ofDecimal_of_needsPlaces {places : ℕ} (notNegative : 0 ≤ number.value)
    (many : 2 < places) (needs : NeedsPlaces number.value places) :
    ofDecimal number = .error (.tooPrecise places) := by
  rw [Decimal.value_eq_magnitude notNegative] at needs
  obtain rfl := needs.unique (Decimal.needsPlaces_normalized number)
  rw [ofDecimal_of_nonneg notNegative, if_pos many]

theorem ofDecimal_of_hundredths {hundredths : ℕ}
    (same : number.value * 100 = hundredths) :
    ofDecimal number =
      match ofMinor? hundredths with
      | some amount => .ok amount
      | none => .error .tooLarge := by
  have notNegative : 0 ≤ number.value :=
    nonneg_of_mul_nonneg_left (same ▸ Nat.cast_nonneg hundredths) (by norm_num)
  rw [Decimal.value_eq_magnitude notNegative] at same
  have few : number.normalized.scale ≤ 2 :=
    (Decimal.needsPlaces_normalized number).2 ⟨hundredths, by norm_num [same]⟩
  have quotient : number.normalized.magnitude = hundredths / 10 ^ 2 := by
    rw [Decimal.magnitude_normalized, ← same]
    norm_num
  rw [Decimal.magnitude_eq_iff, ← hundredths_eq_iff few] at quotient
  rw [ofDecimal_of_nonneg notNegative, if_neg (Nat.not_lt_of_le few), quotient]

theorem ofDecimal_of_tooLarge {hundredths : ℤ} (large : 2 ^ 64 ≤ hundredths)
    (same : number.value * 100 = hundredths) : ofDecimal number = .error .tooLarge := by
  obtain ⟨count, rfl⟩ := Int.eq_ofNat_of_zero_le (le_trans (by norm_num) large)
  have unfit : ofMinor? count = none := dif_neg (by omega)
  rw [ofDecimal_of_hundredths (by exact_mod_cast same), unfit]

/-- What a decimal comes to: exactly one of four things, with its reason. -/
theorem ofDecimal_cases (number : Decimal) :
    (number.value < 0 ∧ ofDecimal number = .error .notPositive) ∨
      (∃ places, (0 ≤ number.value ∧ 2 < places ∧ NeedsPlaces number.value places) ∧
        ofDecimal number = .error (.tooPrecise places)) ∨
      (∃ amount : Amount, number.value * 100 = amount.minor ∧
        ofDecimal number = .ok amount) ∨
      (∃ hundredths : ℤ, (2 ^ 64 ≤ hundredths ∧ number.value * 100 = hundredths) ∧
        ofDecimal number = .error .tooLarge) := by
  rcases lt_or_ge number.value 0 with negative | notNegative
  · exact Or.inl ⟨negative, ofDecimal_of_negative negative⟩
  right
  have needs := Decimal.needsPlaces_normalized number
  rw [← Decimal.value_eq_magnitude notNegative] at needs
  rcases Nat.lt_or_ge 2 number.normalized.scale with many | few
  · exact Or.inl ⟨_, ⟨notNegative, many, needs⟩,
      ofDecimal_of_needsPlaces notNegative many needs⟩
  right
  obtain ⟨hundredths, isCount⟩ :
      ∃ count, number.normalized.mantissa * 10 ^ (2 - number.normalized.scale) = count :=
    ⟨_, rfl⟩
  have same : number.value * 100 = hundredths := by
    rw [hundredths_eq_iff few, ← Decimal.magnitude_eq_iff, Decimal.magnitude_normalized,
      ← Decimal.value_eq_magnitude notNegative] at isCount
    rw [isCount]
    norm_num
  rcases Nat.lt_or_ge hundredths (2 ^ 64) with fits | large
  · exact Or.inl ⟨⟨hundredths, fits⟩, same,
      by rw [ofDecimal_of_hundredths same, ofMinor?, dif_pos fits]⟩
  · have atLeast : 2 ^ 64 ≤ (hundredths : ℤ) := by exact_mod_cast large
    exact Or.inr ⟨hundredths, ⟨atLeast, by exact_mod_cast same⟩,
      ofDecimal_of_tooLarge atLeast (by exact_mod_cast same)⟩

/-- What a decimal comes to as an amount. -/
structure Converts (number : Decimal) : Prop where
  /-- The amount is the hundredfold of the decimal. -/
  amount : ∀ amount : Amount,
    ofDecimal number = .ok amount ↔ number.value * 100 = amount.minor
  accepted : (∃ amount, ofDecimal number = .ok amount) ↔
    ∃ hundredths : ℤ, 0 ≤ hundredths ∧ hundredths < 2 ^ 64 ∧
      number.value * 100 = hundredths
  negative : ofDecimal number = .error .notPositive ↔ number.value < 0
  /-- The places are told that the number needs, however large it is. -/
  tooPrecise : ∀ places, ofDecimal number = .error (.tooPrecise places) ↔
    0 ≤ number.value ∧ 2 < places ∧ NeedsPlaces number.value places
  tooLarge : ofDecimal number = .error .tooLarge ↔
    ∃ hundredths : ℤ, 2 ^ 64 ≤ hundredths ∧ number.value * 100 = hundredths

theorem converts (number : Decimal) : Converts number where
  amount := by
    intro amount
    constructor
    · intro accepted
      rcases ofDecimal_cases number with
        ⟨-, done⟩ | ⟨places, -, done⟩ | ⟨found, same, done⟩ | ⟨hundredths, -, done⟩
      · cases done.symm.trans accepted
      · cases done.symm.trans accepted
      · cases done.symm.trans accepted
        exact same
      · cases done.symm.trans accepted
    · intro same
      rw [ofDecimal_of_hundredths same, ofMinor?_minor]
  accepted := by
    constructor
    · rintro ⟨amount, accepted⟩
      rcases ofDecimal_cases number with
        ⟨-, done⟩ | ⟨places, -, done⟩ | ⟨found, same, done⟩ | ⟨hundredths, -, done⟩
      · cases done.symm.trans accepted
      · cases done.symm.trans accepted
      · exact ⟨found.minor, by omega, by exact_mod_cast found.bounded,
          by exact_mod_cast same⟩
      · cases done.symm.trans accepted
    · rintro ⟨hundredths, atLeast, fits, same⟩
      obtain ⟨count, rfl⟩ := Int.eq_ofNat_of_zero_le atLeast
      exact ⟨⟨count, by exact_mod_cast fits⟩, by
        rw [ofDecimal_of_hundredths (by exact_mod_cast same), ofMinor?, dif_pos]⟩
  negative := by
    refine ⟨fun refused => ?_, ofDecimal_of_negative⟩
    rcases ofDecimal_cases number with
      ⟨negative, -⟩ | ⟨places, -, done⟩ | ⟨found, -, done⟩ | ⟨hundredths, -, done⟩
    · exact negative
    · cases done.symm.trans refused
    · cases done.symm.trans refused
    · cases done.symm.trans refused
  tooPrecise := by
    intro places
    constructor
    · intro refused
      rcases ofDecimal_cases number with
        ⟨-, done⟩ | ⟨needed, reason, done⟩ | ⟨found, -, done⟩ | ⟨hundredths, -, done⟩
      · cases done.symm.trans refused
      · cases done.symm.trans refused
        exact reason
      · cases done.symm.trans refused
      · cases done.symm.trans refused
    · rintro ⟨notNegative, many, needs⟩
      exact ofDecimal_of_needsPlaces notNegative many needs
  tooLarge := by
    constructor
    · intro refused
      rcases ofDecimal_cases number with
        ⟨-, done⟩ | ⟨places, -, done⟩ | ⟨found, -, done⟩ | ⟨hundredths, reason, -⟩
      · cases done.symm.trans refused
      · cases done.symm.trans refused
      · cases done.symm.trans refused
      · exact ⟨hundredths, reason⟩
    · rintro ⟨hundredths, large, same⟩
      exact ofDecimal_of_tooLarge large same

theorem ofDecimal_toDecimal (amount : Amount) : ofDecimal amount.toDecimal = .ok amount := by
  rw [(converts amount.toDecimal).amount, Decimal.value, Decimal.magnitude]
  norm_num [toDecimal]

/-- No two amounts are written alike. -/
theorem text_injective : Function.Injective text := by
  intro first second same
  have read := parse_text first
  rw [same, parse_text second] at read
  exact (Except.ok.inj read).symm

/-- Decimals and texts are exactly the amounts that they stand for. -/
theorem conversions_are_exact :
    (∀ number : Decimal, Converts number) ∧
      (∀ amount : Amount, ofDecimal amount.toDecimal = .ok amount ∧
        parse amount.text = .ok amount) ∧
      Function.Injective text :=
  ⟨converts, fun amount => ⟨ofDecimal_toDecimal amount, parse_text amount⟩,
    text_injective⟩

/-- The places are told before the size is looked at. -/
example : ofDecimal ⟨false, 2 ^ 96 - 1, 3, by decide, by decide⟩ =
    .error (.tooPrecise 3) := by
  decide +kernel

end Amount

end ClearingHouse
