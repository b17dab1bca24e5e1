import ClearingHouse.Proofs.Binary64.Large
import ClearingHouse.Proofs.Json.Numbers

/-!
# Numbers that are written out again

What is held of a number is written out with the sign of the numeral that was read.  It
shows that numeral again if it is a natural number that fits sixty-four bits, or one with
at most fifteen digits that is neither too large nor too small.  A numeral above the largest
amount is shown as one above it.
-/

namespace ClearingHouse.Json

open Amount (Shows)

/-- What the written form of a number shows behind its sign. -/
def Number.shown : Number → ℚ
  | .natural value => value
  | .negative value => value
  | .real value => value.shown

namespace Reader

variable {negative : Bool} {unsigned : List Char} {numeral : Numeral} {held : Number}

theorem shows_digits {value : Nat} (small : value < 2 ^ 64) :
    Shows value (Text.digits value) := by
  have areDigits : ∀ character ∈ Text.digits value, character.isDigit = true :=
    fun _ => Text.isDigit_of_mem_digits
  have isPlain := Numeral.IsPlain.whole _ (Text.digits_ne_nil value) areDigits
  have same : (⟨Nat.ofDigitChars 10 (Text.digits value) 0, 0, 0⟩ : Numeral).base = value := by
    rw [Numeral.base, Text.ofDigitChars_digits, pow_zero, div_one]
  have isEdged : Text.IsEdged (Text.digits value) :=
    ⟨isPlain.head, _, List.getLast?_eq_some_getLast (Text.digits_ne_nil value),
      areDigits _ (List.getLast_mem _)⟩
  refine .plain isPlain isEdged ?_ same
  rw [Numeral.base, Text.ofDigitChars_digits]
  exact Binary64.holds_of_small (small.trans (by decide)) (Nat.zero_le _)

/-- The written form has the sign of the numeral. -/
theorem HeldAs.shows (heldAs : HeldAs negative unsigned numeral held) :
    ∃ text, held.written = signText negative ++ text ∧ Shows held.shown text := by
  cases heldAs with
  | natural value isUnsigned small =>
      exact ⟨_, by rw [isUnsigned]; rfl, shows_digits small⟩
  | negative value isSigned small =>
      exact ⟨_, by rw [isSigned]; rfl, shows_digits small⟩
  | real held value made =>
      obtain ⟨text, isText, shows⟩ :=
        Binary64.shows_written (Binary64.isNormal_of_ofScientific? made)
      rw [Binary64.negative_of_ofScientific? made] at isText
      exact ⟨text, isText, shows⟩

/-- A natural number that fits sixty-four bits is shown again. -/
theorem HeldAs.shown_of_digits (heldAs : HeldAs false unsigned numeral held)
    (areDigits : ∀ character ∈ unsigned, character.isDigit = true)
    (small : numeral.significand < 2 ^ 64) : held.shown = numeral.value := by
  cases heldAs with
  | natural value => simp [Number.shown, Numeral.value, Numeral.base]
  | negative value isSigned => cases isSigned
  | real held value made exact notNatural =>
      obtain ⟨character, member, notDigit⟩ := notNatural rfl small
      rw [areDigits character member] at notDigit
      cases notDigit

/-- A numeral of at most fifteen digits, and not too far from the point, is shown again. -/
theorem HeldAs.shown_of_short (heldAs : HeldAs negative unsigned numeral held)
    (small : numeral.significand < 10 ^ 15)
    (few : (numeral.exponent - numeral.places).natAbs ≤ 22) :
    held.shown = numeral.value := by
  cases heldAs with
  | natural value => simp [Number.shown, Numeral.value, Numeral.base]
  | negative value => simp [Number.shown, Numeral.value, Numeral.base]
  | real held value made exact =>
      have isHeld := exact (small.trans (by decide))
      rw [isHeld] at made
      rw [Number.shown, Binary64.shown_of_ofScientific? small few made, Numeral.value,
        Numeral.base, zpow_sub₀ (by norm_num), zpow_natCast]
      ring

/-- A numeral above the largest amount is shown as one above it. -/
theorem HeldAs.shown_of_large (heldAs : HeldAs negative unsigned numeral held)
    (large : ((2 : ℚ) ^ 64 - 1) / 100 < numeral.value) :
    ((2 : ℚ) ^ 64 - 1) / 100 < held.shown := by
  cases heldAs with
  | natural value => simpa [Number.shown, Numeral.value, Numeral.base] using large
  | negative value => simpa [Number.shown, Numeral.value, Numeral.base] using large
  | real held value made _ _ nears =>
      have near := nears.near
      rw [leastFull] at near
      push_cast at near
      have isLarge : ((2 : ℚ) ^ 64 - 11) / 100 < held.value * 10 ^ held.exponent := by
        linarith
      have shown := (Binary64.isNormal_of_ofScientific? made).le_shown
        (Binary64.large_of_ofScientific? nears.fits isLarge made)
      rw [Number.shown]
      linarith

end Reader

end ClearingHouse.Json
