import ClearingHouse.Proofs.Amount.Digits
import ClearingHouse.Proofs.Json.Reads
import Mathlib.Algebra.Order.Field.Power
import Mathlib.Algebra.Order.Field.Rat
import Mathlib.Data.Rat.Defs
import Mathlib.Tactic.FieldSimp
import Mathlib.Tactic.Linarith
import Mathlib.Tactic.NormNum
import Mathlib.Tactic.Positivity
import Mathlib.Tactic.Ring

/-!
# The digits that are held

Of the digits of a numeral those are held that fit sixty-four bits.  If all of them fit, they
are held exactly.  If one does not, nineteen or more have been held before it, and what is
held falls short of the numeral by less than one unit of the last of them.
-/

namespace ClearingHouse.Json.Reader

/-! ## Digits that fit -/

theorem le_wholePart (held : Significand) (digits : List Char) :
    held.exponent ≤ (wholePart held digits).exponent := by
  fun_induction wholePart held digits with
  | case1 => exact le_refl _
  | case2 held character rest value fits ih => exact fits.1 ▸ ih
  | case3 held character rest value full ih =>
      simp only at ih
      omega

/-- Digits that do not fit sixty-four bits are counted. -/
theorem wholePart_of_large {digits : List Char} {value : Nat} (small : value < 2 ^ 64)
    (large : 2 ^ 64 ≤ Nat.ofDigitChars 10 digits value) :
    0 < (wholePart ⟨value, 0⟩ digits).exponent := by
  induction digits generalizing value with
  | nil => exact absurd small (Nat.not_lt_of_le large)
  | cons character rest ih =>
      rw [wholePart]
      simp only
      split
      · rename_i fits
        rw [Nat.ofDigitChars_cons, Nat.mul_comm] at large
        exact ih fits.2 large
      · exact lt_of_lt_of_le Int.one_pos (le_wholePart _ rest)

theorem fractionPart_of_fits {digits : List Char} {value : Nat} {exponent : ℤ}
    (fits : Nat.ofDigitChars 10 digits value < 2 ^ 64) :
    fractionPart ⟨value, exponent⟩ digits =
      ⟨Nat.ofDigitChars 10 digits value, exponent - digits.length⟩ := by
  induction digits generalizing value exponent with
  | nil => simp [fractionPart]
  | cons character rest ih =>
      rw [Nat.ofDigitChars_cons, Nat.mul_comm] at fits ⊢
      have within : value * 10 + (character.toNat - '0'.toNat) < 2 ^ 64 :=
        Nat.lt_of_le_of_lt (Text.le_ofDigitChars _ rest) fits
      rw [fractionPart]
      simp only [within, if_true]
      rw [ih fits, List.length_cons]
      congr 1
      push_cast
      omega

/-! ## Digits that do not fit -/

/-- Only behind this significand, or a larger one, a digit may not fit. -/
def leastFull : Nat := 1844674407370955161

theorem leastFull_le {value : Nat} {character : Char} (isDigit : character.isDigit = true)
    (full : ¬ value * 10 + (character.toNat - '0'.toNat) < 2 ^ 64) : leastFull ≤ value := by
  have digit := Text.digitValue_lt isDigit
  rw [leastFull]
  omega

/-- What is held of a quantity is at most one unit of its nineteenth digit too small. -/
structure Significand.Nears (held : Significand) (quantity : ℚ) : Prop where
  fits : held.value < 2 ^ 64
  near : quantity * leastFull ≤ held.value * 10 ^ held.exponent * (leastFull + 1)

namespace Significand

theorem nears_of_eq {held : Significand} {quantity : ℚ} (fits : held.value < 2 ^ 64)
    (same : held.value * 10 ^ held.exponent = quantity) : held.Nears quantity := by
  refine ⟨fits, ?_⟩
  rw [← same]
  gcongr
  linarith

/-- A digit did not fit behind a significand, and what is held is not less than that. -/
theorem nears_of_full {held : Significand} {quantity unit : ℚ} {value : Nat}
    (fits : held.value < 2 ^ 64) (isFull : leastFull ≤ value) (positive : 0 < unit)
    (below : quantity < (value + 1) * unit)
    (atLeast : value * unit ≤ held.value * 10 ^ held.exponent) : held.Nears quantity := by
  have isFull : (leastFull : ℚ) ≤ value := by exact_mod_cast isFull
  refine ⟨fits, ?_⟩
  calc quantity * leastFull ≤ (value + 1) * unit * leastFull := by gcongr
    _ = (value * leastFull + leastFull) * unit := by ring
    _ ≤ (value * leastFull + value) * unit := by gcongr
    _ = value * unit * (leastFull + 1) := by ring
    _ ≤ held.value * 10 ^ held.exponent * (leastFull + 1) := by gcongr

theorem Nears.scaled {value : Nat} {exponent : ℤ} {quantity : ℚ}
    (nears : Nears ⟨value, exponent⟩ quantity) (power : ℤ) :
    Nears ⟨value, exponent + power⟩ (quantity * 10 ^ power) := by
  refine ⟨nears.fits, ?_⟩
  have scale : (0 : ℚ) < 10 ^ power := by positivity
  calc quantity * 10 ^ power * leastFull = quantity * leastFull * 10 ^ power := by ring
    _ ≤ value * 10 ^ exponent * (leastFull + 1) * 10 ^ power := by
        have := nears.near
        gcongr
    _ = value * 10 ^ (exponent + power) * (leastFull + 1) := by
        rw [zpow_add₀ (by norm_num)]
        ring

end Significand

theorem wholePart_of_full {value : Nat} {exponent : ℤ} (digits : List Char)
    (positive : 0 < exponent) :
    wholePart ⟨value, exponent⟩ digits = ⟨value, exponent + digits.length⟩ := by
  induction digits generalizing exponent with
  | nil => simp [wholePart]
  | cons character rest ih =>
      rw [wholePart]
      simp only
      rw [if_neg (fun fits => absurd fits.1 (ne_of_gt positive)), ih (by omega),
        List.length_cons]
      congr 1
      push_cast
      omega

/-- All digits before the point fit, or one of them does not and is counted with the ones
behind it. -/
theorem wholePart_cases {digits : List Char} {value : Nat} (small : value < 2 ^ 64)
    (areDigits : ∀ character ∈ digits, character.isDigit = true) :
    Nat.ofDigitChars 10 digits value < 2 ^ 64 ∨
      ∃ full power : Nat, wholePart ⟨value, 0⟩ digits = ⟨full, power⟩ ∧ full < 2 ^ 64 ∧
        leastFull ≤ full ∧ Nat.ofDigitChars 10 digits value < (full + 1) * 10 ^ power := by
  induction digits generalizing value with
  | nil => exact .inl (by simpa using small)
  | cons character rest ih =>
      rw [List.forall_mem_cons] at areDigits
      rw [wholePart, Nat.ofDigitChars_cons]
      simp only
      split
      · rename_i fits
        rw [Nat.mul_comm]
        exact ih fits.2 areDigits.2
      -- From here on the digits are only counted, this one among them.
      · rename_i full
        have full : ¬ value * 10 + (character.toNat - '0'.toNat) < 2 ^ 64 :=
          fun fits => full ⟨trivial, fits⟩
        have digit := Text.digitValue_lt areDigits.1
        refine .inr ⟨value, rest.length + 1, ?_, small, leastFull_le areDigits.1 full, ?_⟩
        · rw [wholePart_of_full rest (by decide)]
          congr 1
          push_cast
          omega
        · calc Nat.ofDigitChars 10 rest (10 * value + (character.toNat - '0'.toNat))
              < (10 * value + (character.toNat - '0'.toNat) + 1) * 10 ^ rest.length :=
                Text.ofDigitChars_lt_mul_pow _ areDigits.2
            _ ≤ ((value + 1) * 10) * 10 ^ rest.length := by
                gcongr
                omega
            _ = (value + 1) * 10 ^ (rest.length + 1) := by ring

/-- Digits after the point are added as long as they fit, and the others are dropped. -/
theorem fractionPart_cases {digits : List Char} {value : Nat} {exponent : ℤ}
    (small : value < 2 ^ 64) (areDigits : ∀ character ∈ digits, character.isDigit = true) :
    Nat.ofDigitChars 10 digits value < 2 ^ 64 ∨
      leastFull ≤ (fractionPart ⟨value, exponent⟩ digits).value ∧
        (Nat.ofDigitChars 10 digits value : ℚ) * 10 ^ (exponent - digits.length) <
          ((fractionPart ⟨value, exponent⟩ digits).value + 1) *
            10 ^ (fractionPart ⟨value, exponent⟩ digits).exponent := by
  induction digits generalizing value exponent with
  | nil => exact .inl (by simpa using small)
  | cons character rest ih =>
      rw [List.forall_mem_cons] at areDigits
      rw [fractionPart, Nat.ofDigitChars_cons, Nat.mul_comm]
      simp only
      split
      · rename_i fits
        have others := @ih _ (exponent - 1) fits areDigits.2
        rwa [sub_sub, add_comm (1 : ℤ), ← Nat.cast_one, ← Nat.cast_add] at others
      · rename_i full
        have digit := Text.digitValue_lt areDigits.1
        refine .inr ⟨leastFull_le areDigits.1 full, ?_⟩
        have below : Nat.ofDigitChars 10 rest (value * 10 + (character.toNat - '0'.toNat)) <
            (value + 1) * 10 ^ (rest.length + 1) := by
          calc _ < (value * 10 + (character.toNat - '0'.toNat) + 1) * 10 ^ rest.length :=
                Text.ofDigitChars_lt_mul_pow _ areDigits.2
            _ ≤ ((value + 1) * 10) * 10 ^ rest.length := by
                gcongr
                omega
            _ = (value + 1) * 10 ^ (rest.length + 1) := by ring
        have below : (Nat.ofDigitChars 10 rest
            (value * 10 + (character.toNat - '0'.toNat)) : ℚ) <
              (value + 1) * 10 ^ (rest.length + 1) := by exact_mod_cast below
        rw [List.length_cons, zpow_sub₀ (by norm_num), zpow_natCast, ← mul_div_assoc,
          div_lt_iff₀ (by positivity), mul_assoc, mul_comm ((10 : ℚ) ^ exponent), ← mul_assoc]
        gcongr

/-- Digits after the point make what is held no smaller. -/
theorem fractionPart_grows {digits : List Char} {value : Nat} {exponent : ℤ}
    (small : value < 2 ^ 64) :
    (fractionPart ⟨value, exponent⟩ digits).value < 2 ^ 64 ∧
      (value : ℚ) * 10 ^ exponent ≤ (fractionPart ⟨value, exponent⟩ digits).value *
        10 ^ (fractionPart ⟨value, exponent⟩ digits).exponent := by
  induction digits generalizing value exponent with
  | nil => exact ⟨small, le_refl _⟩
  | cons character rest ih =>
      rw [fractionPart]
      simp only
      split
      · rename_i fits
        obtain ⟨others, grows⟩ := @ih _ (exponent - 1) fits
        refine ⟨others, le_trans ?_ grows⟩
        have more : (value : ℚ) * 10 ≤ (value * 10 + (character.toNat - '0'.toNat) : ℕ) := by
          exact_mod_cast Nat.le_add_right _ _
        calc (value : ℚ) * 10 ^ exponent = value * 10 * 10 ^ (exponent - 1) := by
              rw [zpow_sub₀ (by norm_num), zpow_one]
              field_simp
          _ ≤ _ := by gcongr
      · exact ⟨small, le_refl _⟩

/-! ## What is held of a numeral -/

theorem nears_whole {digits : List Char}
    (areDigits : ∀ character ∈ digits, character.isDigit = true) :
    (wholePart ⟨0, 0⟩ digits).Nears (Nat.ofDigitChars 10 digits 0) := by
  rcases wholePart_cases (by decide : 0 < 2 ^ 64) areDigits with
    fits | ⟨full, power, isHeld, small, isFull, below⟩
  · rw [wholePart_of_fits fits]
    exact Significand.nears_of_eq fits (by simp)
  · rw [isHeld]
    refine Significand.nears_of_full small isFull (by positivity : (0 : ℚ) < 10 ^ power) ?_ ?_
    · exact_mod_cast below
    · simp only [zpow_natCast]
      exact le_refl _

/-- If a digit before the point did not fit, one behind it may, but what is held does not
get smaller. -/
theorem nears_pointed {whole fraction : List Char}
    (areDigits : ∀ character ∈ whole ++ fraction, character.isDigit = true) :
    (fractionPart (wholePart ⟨0, 0⟩ whole) fraction).Nears
      (Nat.ofDigitChars 10 (whole ++ fraction) 0 / 10 ^ fraction.length) := by
  obtain ⟨areWhole, areFraction⟩ := List.forall_mem_append.mp areDigits
  rw [Nat.ofDigitChars_append]
  rcases wholePart_cases (by decide : 0 < 2 ^ 64) areWhole with
    wholeFits | ⟨full, power, isHeld, small, isFull, below⟩
  · rw [wholePart_of_fits wholeFits]
    obtain ⟨small, -⟩ := @fractionPart_grows fraction _ 0 wholeFits
    rcases @fractionPart_cases fraction _ 0 wholeFits areFraction with fits | ⟨isFull, below⟩
    · rw [fractionPart_of_fits fits]
      refine Significand.nears_of_eq fits ?_
      rw [zero_sub, zpow_neg, zpow_natCast, div_eq_mul_inv]
    · refine Significand.nears_of_full small isFull (by positivity) ?_ (le_refl _)
      rwa [zero_sub, zpow_neg, zpow_natCast, ← div_eq_mul_inv] at below
  -- All digits behind the point together are less than the unit that was lost before it.
  · rw [isHeld]
    obtain ⟨fits, grows⟩ := @fractionPart_grows fraction _ power small
    rw [zpow_natCast] at grows
    refine Significand.nears_of_full fits isFull (by positivity) ?_ grows
    have behind := Text.ofDigitChars_lt_mul_pow (Nat.ofDigitChars 10 whole 0) areFraction
    rw [div_lt_iff₀ (by positivity)]
    calc (Nat.ofDigitChars 10 fraction (Nat.ofDigitChars 10 whole 0) : ℚ)
        < (Nat.ofDigitChars 10 whole 0 + 1) * 10 ^ fraction.length := by exact_mod_cast behind
      _ ≤ (full + 1) * 10 ^ power * 10 ^ fraction.length := by
          gcongr
          exact_mod_cast below

end ClearingHouse.Json.Reader
