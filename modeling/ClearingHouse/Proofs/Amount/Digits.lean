import ClearingHouse.Text.Numeral

/-!
# Digits

What the readers of numerals make of a text of digits is the number that these digits
stand for.
-/

namespace ClearingHouse.Text

variable {character : Char} {characters : List Char} {digit value : Nat}

theorem isDigit_iff_le :
    character.isDigit = true ↔ '0' ≤ character ∧ character ≤ '9' := by
  simp only [Char.isDigit, Bool.and_eq_true, decide_eq_true_eq, ge_iff_le]
  exact Iff.rfl

theorem digitValue?_eq_some_iff :
    digitValue? character = some digit ↔
      character.isDigit = true ∧ character.toNat - '0'.toNat = digit := by
  simp only [digitValue?, isDigit_iff_le]
  split
  · rename_i inside
    simp [inside]
  · rename_i outside
    simp [outside]

theorem digitValue?_of_isDigit (isDigit : character.isDigit = true) :
    digitValue? character = some (character.toNat - '0'.toNat) :=
  digitValue?_eq_some_iff.mpr ⟨isDigit, rfl⟩

theorem digitValue?_eq_none_iff :
    digitValue? character = none ↔ character.isDigit = false := by
  simp only [digitValue?]
  split
  · rename_i inside
    simp [isDigit_iff_le.mpr inside]
  · rename_i outside
    rw [← isDigit_iff_le, Bool.not_eq_true] at outside
    simp [outside]

/-- What is found to be a digit is no other character. -/
theorem ne_some_of_isDigit {found : Option Char} {other : Char}
    (isFound : ∃ character, found = some character ∧ character.isDigit = true)
    (notDigit : other.isDigit = false) : found ≠ some other := by
  rintro rfl
  obtain ⟨character, same, isDigit⟩ := isFound
  cases same
  rw [isDigit] at notDigit
  cases notDigit

theorem digitValue_lt (isDigit : character.isDigit = true) :
    character.toNat - '0'.toNat < 10 := by
  have atMost : character.toNat ≤ '9'.toNat := (isDigit_iff_le.mp isDigit).2
  have nine : '9'.toNat = 57 := rfl
  have zero : '0'.toNat = 48 := rfl
  omega

theorem valueFrom?_eq_some_iff {total : Nat} :
    valueFrom? value characters = some total ↔
      (∀ character ∈ characters, character.isDigit = true) ∧
        Nat.ofDigitChars 10 characters value = total := by
  induction characters generalizing value with
  | nil => simp [valueFrom?]
  | cons character rest ih =>
      simp only [valueFrom?, List.forall_mem_cons, Nat.ofDigitChars_cons,
        Nat.mul_comm 10 value]
      cases read : digitValue? character with
      | none =>
          rw [digitValue?_eq_none_iff] at read
          simp [read]
      | some digit =>
          obtain ⟨isDigit, rfl⟩ := digitValue?_eq_some_iff.mp read
          rw [ih]
          simp [isDigit]

theorem value?_eq_some_iff {total : Nat} :
    value? characters = some total ↔
      characters ≠ [] ∧ (∀ character ∈ characters, character.isDigit = true) ∧
        Nat.ofDigitChars 10 characters 0 = total := by
  cases characters with
  | nil => simp [value?]
  | cons character rest => simp [value?, valueFrom?_eq_some_iff]

/-- Digits stand for a number with at most as many digits. -/
theorem ofDigitChars_lt
    (areDigits : ∀ character ∈ characters, character.isDigit = true) :
    Nat.ofDigitChars 10 characters 0 < 10 ^ characters.length := by
  induction characters with
  | nil => simp
  | cons character rest ih =>
      rw [List.forall_mem_cons] at areDigits
      have digit := digitValue_lt areDigits.1
      have others := ih areDigits.2
      rw [Nat.ofDigitChars_cons, Nat.ofDigitChars_eq_ofDigitChars_zero, List.length_cons,
        Nat.pow_succ, Nat.mul_zero, Nat.zero_add]
      have bounded := Nat.mul_le_mul_left (10 ^ rest.length) (Nat.le_of_lt_succ digit)
      omega

theorem ofDigitChars_lt_mul_pow (value : Nat)
    (areDigits : ∀ character ∈ characters, character.isDigit = true) :
    Nat.ofDigitChars 10 characters value < (value + 1) * 10 ^ characters.length := by
  have others := ofDigitChars_lt areDigits
  rw [Nat.ofDigitChars_eq_ofDigitChars_zero, Nat.succ_mul, Nat.mul_comm]
  omega

theorem mul_pow_le_ofDigitChars (value : Nat) (characters : List Char) :
    value * 10 ^ characters.length ≤ Nat.ofDigitChars 10 characters value := by
  rw [Nat.ofDigitChars_eq_ofDigitChars_zero, Nat.mul_comm]
  exact Nat.le_add_right _ _

theorem le_ofDigitChars (value : Nat) (characters : List Char) :
    value ≤ Nat.ofDigitChars 10 characters value :=
  Nat.le_trans (Nat.le_mul_of_pos_right _ (Nat.pow_pos (by decide)))
    (mul_pow_le_ofDigitChars value characters)

theorem digits_ne_nil (number : Nat) : digits number ≠ [] := Nat.toDigits_ne_nil

theorem isDigit_of_mem_digits {number : Nat} (member : character ∈ digits number) :
    character.isDigit = true :=
  Nat.isDigit_of_mem_toDigits (by decide) (by decide) member

@[simp] theorem ofDigitChars_digits (number : Nat) :
    Nat.ofDigitChars 10 (digits number) 0 = number :=
  Nat.ofDigitChars_ten_toDigits

end ClearingHouse.Text
