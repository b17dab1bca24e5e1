import Mathlib.Tactic.Ring
import ClearingHouse.Proofs.Amount.Numeral

/-!
# What reading a plain numeral keeps

Digits are kept as long as the mantissa and the places after the point allow it, and
the first digit that is not kept rounds them.  The number that is read is the one that
is written wherever a decimal can hold that one, because then all digits that are not
kept are zeros.
-/

namespace ClearingHouse.Decimal

open Numeral (withoutSeparators)
open Text (ofDigitChars_lt digitValue_lt digitValue?_eq_some_iff digitValue?_of_isDigit
  digitValue?_eq_none_iff)

/-! ## Separators -/

@[simp] theorem withoutSeparators_nil : withoutSeparators [] = [] := rfl

@[simp] theorem withoutSeparators_separator (rest : List Char) :
    withoutSeparators ('_' :: rest) = withoutSeparators rest := rfl

theorem withoutSeparators_cons {character : Char} (rest : List Char)
    (isOther : character ≠ '_') :
    withoutSeparators (character :: rest) = character :: withoutSeparators rest := by
  simp [withoutSeparators, isOther]

theorem withoutSeparators_append (first second : List Char) :
    withoutSeparators (first ++ second) =
      withoutSeparators first ++ withoutSeparators second :=
  List.filter_append first second

theorem ne_separator_of_isDigit {character : Char}
    (isDigit : character.isDigit = true) : character ≠ '_' := by
  rintro rfl
  cases isDigit

theorem withoutSeparators_of_digits {characters : List Char}
    (areDigits : ∀ character ∈ characters, character.isDigit = true) :
    withoutSeparators characters = characters := by
  rw [withoutSeparators, List.filter_eq_self]
  intro character member
  simpa using ne_separator_of_isDigit (areDigits character member)

theorem withoutSeparators_dropWhile (characters : List Char) :
    withoutSeparators (characters.dropWhile (· == '_')) = withoutSeparators characters := by
  induction characters with
  | nil => rfl
  | cons character rest ih =>
      rw [List.dropWhile_cons]
      split
      · rename_i isSeparator
        rw [ih, beq_iff_eq.mp isSeparator, withoutSeparators_separator]
      · rfl

/-! ## The digits that are not kept -/

/-- A number has been read of the digits of a significand, so far as a decimal can
hold it. -/
structure Keeps (number : Decimal) (significand places : Nat) : Prop where
  unsigned : number.negative = false
  below : significand < 2 ^ 96 * 10 ^ places
  exact : Holds (significand / 10 ^ places) →
    number.magnitude = significand / 10 ^ places

theorem keeps_self {number : Decimal} (unsigned : number.negative = false) :
    number.Keeps number.mantissa number.scale where
  unsigned := unsigned
  below := Nat.lt_of_lt_of_le number.mantissa_lt
    (Nat.le_mul_of_pos_right _ (Nat.pow_pos (by decide)))
  exact _ := rfl

/-- Digits that follow as many as fit are zeros if a decimal can hold the number. -/
theorem lost_eq_zero {significand mantissa scale count lost : Nat}
    (split : significand = mantissa * 10 ^ (count + 1) + lost)
    (short : lost < 10 ^ (count + 1))
    (full : scale = 28 ∨ 2 ^ 96 * 10 ^ count ≤ significand)
    (holds : Holds (significand / 10 ^ (scale + (count + 1)))) : lost = 0 := by
  obtain ⟨exact, same⟩ := holds
  rw [magnitude_eq_iff] at same
  by_cases more : scale < exact.scale
  · -- Then one digit more would have fit.
    exfalso
    obtain ⟨further, isScale⟩ := Nat.exists_eq_add_of_lt more
    have large : 2 ^ 96 * 10 ^ count ≤ significand := by
      have most := exact.scale_le
      omega
    have cancelled : exact.mantissa * 10 ^ count = significand * 10 ^ further := by
      refine Nat.eq_of_mul_eq_mul_right (Nat.pow_pos (by decide) : 0 < 10 ^ (scale + 1)) ?_
      rw [isScale] at same
      calc exact.mantissa * 10 ^ count * 10 ^ (scale + 1)
          = exact.mantissa * 10 ^ (scale + (count + 1)) := by ring
        _ = significand * 10 ^ (scale + further + 1) := same
        _ = significand * 10 ^ further * 10 ^ (scale + 1) := by ring
    have tooLarge : 2 ^ 96 * 10 ^ count ≤ exact.mantissa * 10 ^ count := by
      rw [cancelled]
      exact large.trans (Nat.le_mul_of_pos_right _ (Nat.pow_pos (by decide)))
    have small := exact.mantissa_lt
    have := Nat.le_of_mul_le_mul_right tooLarge (Nat.pow_pos (by decide))
    omega
  · -- Then the digits kept are enough, and the others are a multiple of their power.
    obtain ⟨further, rfl⟩ := Nat.exists_eq_add_of_le (Nat.le_of_not_lt more)
    have divides : significand = exact.mantissa * 10 ^ further * 10 ^ (count + 1) := by
      refine Nat.eq_of_mul_eq_mul_right (Nat.pow_pos (by decide) : 0 < 10 ^ exact.scale) ?_
      rw [← same]
      ring
    have divisible : 10 ^ (count + 1) ∣ lost := by
      rw [← Nat.dvd_add_right (Dvd.intro_left mantissa rfl), ← split]
      exact Dvd.intro_left _ divides.symm
    exact Nat.eq_zero_of_dvd_of_lt divisible short

/-- A number without the digits that follow it, or one that they have rounded, keeps
the digits, if no digit more would fit. -/
theorem keeps_of_lost {number rounded : Decimal} {digits : List Char}
    (unsigned : rounded.negative = false)
    (areDigits : ∀ character ∈ digits, character.isDigit = true)
    (full : digits ≠ [] → number.scale = 28 ∨
      2 ^ 96 * 10 ^ (digits.length - 1) ≤ Nat.ofDigitChars 10 digits number.mantissa)
    (same : Nat.ofDigitChars 10 digits 0 = 0 → rounded = number) :
    rounded.Keeps (Nat.ofDigitChars 10 digits number.mantissa)
      (number.scale + digits.length) := by
  have split : Nat.ofDigitChars 10 digits number.mantissa =
      number.mantissa * 10 ^ digits.length + Nat.ofDigitChars 10 digits 0 := by
    rw [Nat.ofDigitChars_eq_ofDigitChars_zero, Nat.mul_comm]
  have short := ofDigitChars_lt areDigits
  refine ⟨unsigned, ?_, ?_⟩
  · have small := Nat.mul_le_mul_right (10 ^ digits.length)
      (Nat.succ_le_of_lt number.mantissa_lt)
    rw [Nat.succ_mul] at small
    have wider : 10 ^ digits.length ≤ 10 ^ (number.scale + digits.length) :=
      Nat.pow_le_pow_right (by decide) (Nat.le_add_left _ _)
    have := Nat.mul_le_mul_left (2 ^ 96) wider
    omega
  · intro holds
    have isZero : Nat.ofDigitChars 10 digits 0 = 0 := by
      cases digits with
      | nil => rfl
      | cons character rest =>
          exact lost_eq_zero split short (full (by simp)) holds
    rw [same isZero, magnitude_eq_iff, split, isZero]
    ring

/-! ## Numbers of given parts -/

theorem of?_eq_some_iff {negative : Bool} {mantissa scale : Nat} {number : Decimal} :
    of? negative mantissa scale = some number ↔
      number.negative = negative ∧ number.mantissa = mantissa ∧ number.scale = scale := by
  unfold of?
  split
  · rename_i bounded
    constructor
    · intro made
      cases made
      exact ⟨rfl, rfl, rfl⟩
    · rintro ⟨rfl, rfl, rfl⟩
      rfl
  · rename_i unbounded
    constructor
    · intro made
      cases made
    · rintro ⟨-, rfl, rfl⟩
      exact absurd ⟨number.mantissa_lt, number.scale_le⟩ unbounded

theorem of?_eq_none_iff {negative : Bool} {mantissa scale : Nat} :
    of? negative mantissa scale = none ↔ ¬ (mantissa < 2 ^ 96 ∧ scale ≤ 28) := by
  unfold of?
  split <;> simp_all

/-! ## The end of a long numeral -/

theorem checkRest_eq_ok_iff {rest : List Char} :
    checkRest rest = .ok () ↔
      ∀ character ∈ withoutSeparators rest, character.isDigit = true := by
  induction rest with
  | nil => simp [checkRest]
  | cons character rest ih =>
      unfold checkRest
      by_cases isSeparator : character = '_'
      · simpa [isSeparator] using ih
      · rw [withoutSeparators_cons rest isSeparator, List.forall_mem_cons, ← ih]
        cases read : Text.digitValue? character with
        | none => simp [digitValue?_eq_none_iff.mp read, isSeparator]
        | some digit => simp [(digitValue?_eq_some_iff.mp read).1]

/-- Rounding keeps the sign, and a digit that is zero does not round. -/
theorem unsigned_of_roundBy {number rounded : Decimal} {digit : Nat}
    (unsigned : number.negative = false) (read : number.roundBy digit = .ok rounded) :
    rounded.negative = false := by
  have ofParts : ∀ {mantissa scale : Nat} {made : Decimal},
      of? number.negative mantissa scale = some made → made.negative = false :=
    fun made => (of?_eq_some_iff.mp made).1.trans unsigned
  unfold roundBy at read
  split at read
  · cases read
    exact unsigned
  · split at read
    · rename_i isMade
      cases read
      exact ofParts isMade
    · split at read
      · cases read
      · split at read
        · rename_i isMade
          cases read
          exact ofParts isMade
        · cases read

theorem roundBy_zero (number : Decimal) : number.roundBy 0 = .ok number := rfl

/-- Digits that stand for zero begin with a zero. -/
theorem digit_eq_zero {character : Char} {rest : List Char}
    (isZero : Nat.ofDigitChars 10 (character :: rest) 0 = 0) :
    character.toNat - '0'.toNat = 0 := by
  rw [Nat.ofDigitChars_cons, Nat.ofDigitChars_eq_ofDigitChars_zero] at isZero
  have positive : 0 < 10 ^ rest.length := Nat.pow_pos (by decide)
  have first := (Nat.add_eq_zero_iff.mp isZero).1
  rw [Nat.mul_eq_zero] at first
  omega

/-- What is not kept is either a digit that rounds or a separator. -/
theorem finishRounded_eq_ok {number rounded : Decimal} {character : Char}
    {rest : List Char} (read : finishRounded number character rest = .ok rounded) :
    checkRest rest = .ok () ∧
      ((∃ digit, Text.digitValue? character = some digit ∧
          number.roundBy digit = .ok rounded) ∨
        character = '_' ∧ rounded = number) := by
  unfold finishRounded at read
  split at read
  · rename_i digit isDigit
    cases made : number.roundBy digit with
    | error fault =>
        rw [made] at read
        cases read
    | ok result =>
        cases checked : checkRest rest with
        | error fault =>
            rw [made, checked] at read
            cases read
        | ok _ =>
            rw [made, checked] at read
            cases read
            exact ⟨rfl, Or.inl ⟨digit, isDigit, made⟩⟩
  · split at read
    · rename_i isSeparator
      cases checked : checkRest rest with
      | error fault =>
          rw [checked] at read
          cases read
      | ok _ =>
          rw [checked] at read
          cases read
          exact ⟨rfl, Or.inr ⟨isSeparator, rfl⟩⟩
    · cases read

theorem keeps_of_finishRounded {number rounded : Decimal} {character : Char}
    {rest : List Char} (unsigned : number.negative = false)
    (read : finishRounded number character rest = .ok rounded)
    (full : number.scale = 28 ∨ ∃ digit, Text.digitValue? character = some digit ∧
      2 ^ 96 ≤ number.mantissa * 10 + digit) :
    (∀ other ∈ withoutSeparators (character :: rest), other.isDigit = true) ∧
      rounded.Keeps
        (Nat.ofDigitChars 10 (withoutSeparators (character :: rest)) number.mantissa)
        (number.scale + (withoutSeparators (character :: rest)).length) := by
  obtain ⟨checked, byDigit | ⟨rfl, rfl⟩⟩ := finishRounded_eq_ok read <;>
    rw [checkRest_eq_ok_iff] at checked
  · obtain ⟨digit, isDigit, made⟩ := byDigit
    obtain ⟨ofCharacter, isValue⟩ := digitValue?_eq_some_iff.mp isDigit
    rw [withoutSeparators_cons rest (ne_separator_of_isDigit ofCharacter)]
    have areDigits : ∀ other ∈ character :: withoutSeparators rest, other.isDigit = true :=
      List.forall_mem_cons.mpr ⟨ofCharacter, checked⟩
    refine ⟨areDigits, keeps_of_lost (unsigned_of_roundBy unsigned made) areDigits
      (fun _ => full.imp_right ?_) (fun isZero => ?_)⟩
    · rintro ⟨other, isOther, large⟩
      rw [isDigit] at isOther
      cases isOther
      rw [Nat.ofDigitChars_cons, Nat.ofDigitChars_eq_ofDigitChars_zero, isValue,
        List.length_cons, Nat.add_sub_cancel, Nat.mul_comm 10 number.mantissa,
        Nat.mul_comm (2 ^ 96)]
      exact (Nat.mul_le_mul_left _ large).trans (Nat.le_add_right _ _)
    · have isZeroDigit := digit_eq_zero isZero
      rw [isValue] at isZeroDigit
      rw [isZeroDigit, roundBy_zero] at made
      cases made
      rfl
  · rw [withoutSeparators_separator]
    refine ⟨checked, keeps_of_lost unsigned checked (fun _ => ?_) (fun _ => rfl)⟩
    refine Or.inl (full.resolve_right ?_)
    rintro ⟨digit, isDigit, -⟩
    cases isDigit

theorem keeps_of_finishFull {wide : Bool} {number rounded : Decimal} {rest : List Char}
    (unsigned : number.negative = false) (isFull : number.scale = 28)
    (read : finishFull wide number rest = .ok rounded) :
    (∀ other ∈ withoutSeparators rest, other.isDigit = true) ∧
      rounded.Keeps (Nat.ofDigitChars 10 (withoutSeparators rest) number.mantissa)
        (number.scale + (withoutSeparators rest).length) := by
  have same : withoutSeparators (if wide then rest.dropWhile (· == '_') else rest) =
      withoutSeparators rest := by
    split
    · exact withoutSeparators_dropWhile rest
    · rfl
  rw [← same]
  unfold finishFull at read
  split at read
  · rename_i atEnd
    cases read
    rw [atEnd]
    exact ⟨by simp, keeps_self unsigned⟩
  · rename_i character remaining isRest
    rw [isRest]
    exact keeps_of_finishRounded unsigned read (Or.inl isFull)

/-! ## Reading the digits -/

/-- Behind the point. -/
theorem keeps_of_readDigits_fraction {text : List Char} {number result : Decimal}
    (unsigned : number.negative = false)
    (read : readDigits ⟨number, true, true⟩ text = .ok result) :
    (∀ other ∈ withoutSeparators text, other.isDigit = true) ∧
      result.Keeps (Nat.ofDigitChars 10 (withoutSeparators text) number.mantissa)
        (number.scale + (withoutSeparators text).length) := by
  induction text generalizing number with
  | nil =>
      cases read
      exact ⟨by simp, keeps_self unsigned⟩
  | cons character rest ih =>
      simp only [readDigits, if_true, Bool.not_true, Bool.and_false, Bool.false_eq_true,
        if_false, Bool.and_true, decide_eq_true_eq] at read
      split at read
      · rename_i digit isDigit
        obtain ⟨ofCharacter, isValue⟩ := digitValue?_eq_some_iff.mp isDigit
        split at read
        · rename_i notMade
          -- The digit does not fit any more, and rounds the ones before it.
          refine keeps_of_finishRounded unsigned read ?_
          rw [of?_eq_none_iff] at notMade
          have most := number.scale_le
          by_cases isFull : number.scale = 28
          · exact Or.inl isFull
          · exact Or.inr ⟨digit, isDigit, by omega⟩
        · rename_i next made
          rw [of?_eq_some_iff] at made
          rw [withoutSeparators_cons rest (ne_separator_of_isDigit ofCharacter),
            List.forall_mem_cons, Nat.ofDigitChars_cons, isValue, List.length_cons,
            Nat.mul_comm 10, ← made.2.1, Nat.add_comm _ 1, ← Nat.add_assoc, ← made.2.2]
          rw [unsigned] at made
          rw [and_iff_right ofCharacter]
          split at read
          · rename_i isFull
            exact keeps_of_finishFull made.1 (made.2.2.trans isFull) read
          · exact ih made.1 read
      · split at read
        · rename_i isSeparator
          subst isSeparator
          exact ih unsigned read
        · cases read

/-- What is read of the rest of a numeral, the digits so far being `mantissa`. -/
structure ReadsRest (result : Decimal) (mantissa : Nat) (rest whole fraction : List Char) :
    Prop where
  spelled : rest = whole ∧ fraction = [] ∨ rest = whole ++ '.' :: fraction
  areDigits : ∀ character ∈ whole ++ fraction, character.isDigit = true
  keeps : result.Keeps (Nat.ofDigitChars 10 (whole ++ fraction) mantissa) fraction.length

/-- In front of the point. -/
theorem readsRest_of_readDigits {text : List Char} {number result : Decimal}
    (unsigned : number.negative = false) (isWhole : number.scale = 0)
    (read : readDigits ⟨number, false, true⟩ text = .ok result) :
    ∃ whole fraction, ReadsRest result number.mantissa (withoutSeparators text) whole
      fraction := by
  induction text generalizing number with
  | nil =>
      cases read
      have kept := keeps_self unsigned
      rw [isWhole] at kept
      exact ⟨[], [], Or.inl ⟨rfl, rfl⟩, by simp, kept⟩
  | cons character rest ih =>
      simp only [readDigits, Bool.not_false, Bool.and_true, Bool.false_eq_true, if_false,
        decide_eq_true_eq] at read
      split at read
      · rename_i digit isDigit
        obtain ⟨ofCharacter, isValue⟩ := digitValue?_eq_some_iff.mp isDigit
        split at read
        · cases read
        · rename_i next made
          rw [of?_eq_some_iff] at made
          rw [if_neg (by simp [isWhole])] at read
          rw [unsigned, isWhole] at made
          obtain ⟨whole, fraction, rests⟩ := ih made.1 made.2.2 read
          refine ⟨character :: whole, fraction, ?_, ?_, ?_⟩
          · rw [withoutSeparators_cons rest (ne_separator_of_isDigit ofCharacter)]
            rcases rests.spelled with ⟨same, none⟩ | same
            · exact Or.inl ⟨by rw [same], none⟩
            · exact Or.inr (by rw [same]; rfl)
          · exact List.forall_mem_cons.mpr ⟨ofCharacter, rests.areDigits⟩
          · have kept := rests.keeps
            rw [made.2.1, Nat.mul_comm, ← isValue] at kept
            exact kept
      · split at read
        · rename_i isPoint
          subst isPoint
          have kept := keeps_of_readDigits_fraction unsigned read
          rw [isWhole, Nat.zero_add] at kept
          exact ⟨[], withoutSeparators rest,
            Or.inr (withoutSeparators_cons rest (by decide)), kept.1, kept.2⟩
        · split at read
          · rename_i isSeparator
            subst isSeparator
            exact ih unsigned isWhole read
          · cases read

theorem readPlain_eq_readDigits {text : List Char} (started : text ≠ [])
    (noSign : text.head? ≠ some '-' ∧ text.head? ≠ some '+') :
    readPlain text = readDigits (.start false) text := by
  unfold readPlain
  split <;> simp_all

/-- A text that starts with neither a sign nor a point, and is read as a plain numeral,
spells one. -/
theorem isPlain_of_readPlain {text : List Char} {result : Decimal}
    (noSign : text.head? ≠ some '-' ∧ text.head? ≠ some '+')
    (noPoint : text.head? ≠ some '.') (read : readPlain text = .ok result) :
    ∃ numeral, Numeral.IsPlain (withoutSeparators text) numeral ∧
      result.Keeps numeral.significand numeral.places := by
  cases text with
  | nil => cases read
  | cons character rest =>
      rw [readPlain_eq_readDigits (by simp) noSign] at read
      simp only [List.head?_cons, ne_eq, Option.some.injEq] at noPoint
      simp only [readDigits, Scan.start, noPoint, decide_false, Bool.false_and,
        Bool.false_eq_true, if_false, Bool.and_false] at read
      split at read
      · rename_i digit isDigit
        obtain ⟨ofCharacter, isValue⟩ := digitValue?_eq_some_iff.mp isDigit
        split at read
        · cases read
        · rename_i next made
          rw [of?_eq_some_iff] at made
          rw [if_neg (by decide)] at read
          obtain ⟨whole, fraction, rests⟩ := readsRest_of_readDigits made.1 made.2.2 read
          rw [withoutSeparators_cons rest (ne_separator_of_isDigit ofCharacter)]
          have areDigits : ∀ other ∈ (character :: whole) ++ fraction,
              other.isDigit = true :=
            List.forall_mem_cons.mpr ⟨ofCharacter, rests.areDigits⟩
          have kept := rests.keeps
          rw [made.2.1, ← isValue] at kept
          -- The text has either no point or one.
          rcases rests.spelled with ⟨same, rfl⟩ | same
          · rw [List.append_nil] at areDigits kept
            rw [same]
            exact ⟨_, .whole _ (by simp) areDigits, kept⟩
          · rw [same]
            exact ⟨_, .pointed (character :: whole) fraction (by simp) areDigits, kept⟩
      · cases read

/-! ## Numerals that a decimal can hold -/

/-- The digits that are not kept are passed over if they are zeros. -/
theorem finishRounded_of_holds {number : Decimal} {character : Char} {rest : List Char}
    (areDigits : ∀ other ∈ character :: rest, other.isDigit = true)
    (full : number.scale = 28 ∨ 2 ^ 96 * 10 ^ rest.length ≤
      Nat.ofDigitChars 10 (character :: rest) number.mantissa)
    (holds : Holds (Nat.ofDigitChars 10 (character :: rest) number.mantissa /
      10 ^ (number.scale + (character :: rest).length))) :
    finishRounded number character rest = .ok number := by
  have split : Nat.ofDigitChars 10 (character :: rest) number.mantissa =
      number.mantissa * 10 ^ (rest.length + 1) +
        Nat.ofDigitChars 10 (character :: rest) 0 := by
    rw [Nat.ofDigitChars_eq_ofDigitChars_zero, Nat.mul_comm, List.length_cons]
  have isZero := lost_eq_zero split (ofDigitChars_lt areDigits) full holds
  have checked : checkRest rest = .ok () := by
    rw [List.forall_mem_cons] at areDigits
    rw [checkRest_eq_ok_iff, withoutSeparators_of_digits areDigits.2]
    exact areDigits.2
  unfold finishRounded
  rw [digitValue?_of_isDigit (areDigits _ List.mem_cons_self), digit_eq_zero isZero]
  simp only [roundBy_zero, checked]
  rfl

theorem lt_of_holds {significand places : Nat} (holds : Holds (significand / 10 ^ places)) :
    significand < 2 ^ 96 * 10 ^ places := by
  obtain ⟨exact, same⟩ := holds
  rw [magnitude_eq_iff] at same
  have positive : 0 < 10 ^ places := Nat.pow_pos (by decide)
  calc significand ≤ significand * 10 ^ exact.scale :=
        Nat.le_mul_of_pos_right _ (Nat.pow_pos (by decide))
    _ = exact.mantissa * 10 ^ places := same.symm
    _ < 2 ^ 96 * 10 ^ places := Nat.mul_lt_mul_of_pos_right exact.mantissa_lt positive

/-- What the digits so far stand for stays at the head of the number. -/
theorem readDigits_fraction_of_holds {digits : List Char} {number : Decimal}
    (areDigits : ∀ character ∈ digits, character.isDigit = true)
    (holds : Holds (Nat.ofDigitChars 10 digits number.mantissa /
      10 ^ (number.scale + digits.length))) :
    ∃ result, readDigits ⟨number, true, true⟩ digits = .ok result := by
  induction digits generalizing number with
  | nil => exact ⟨number, rfl⟩
  | cons character rest ih =>
      have ofCharacter := areDigits _ List.mem_cons_self
      simp only [readDigits, digitValue?_of_isDigit ofCharacter, if_true]
      split
      · rename_i notMade
        refine ⟨number, finishRounded_of_holds areDigits ?_ holds⟩
        rw [of?_eq_none_iff] at notMade
        have most := number.scale_le
        by_cases isFull : number.scale = 28
        · exact Or.inl isFull
        · right
          have large : 2 ^ 96 ≤ 10 * number.mantissa + (character.toNat - '0'.toNat) := by
            omega
          rw [Nat.ofDigitChars_cons]
          exact (Nat.mul_le_mul_right _ large).trans (Text.mul_pow_le_ofDigitChars _ rest)
      · rename_i next made
        rw [of?_eq_some_iff] at made
        rw [Nat.ofDigitChars_cons, Nat.mul_comm 10, ← made.2.1, List.length_cons,
          Nat.add_comm _ 1, ← Nat.add_assoc, ← made.2.2] at holds
        rw [List.forall_mem_cons] at areDigits
        split
        · rename_i isFull
          have full := made.2.2.trans isFull
          cases rest with
          | nil => exact ⟨next, by simp [finishFull]⟩
          | cons following remaining =>
              have isOther := ne_separator_of_isDigit (areDigits.2 _ List.mem_cons_self)
              refine ⟨next, ?_⟩
              simp only [finishFull, List.dropWhile_cons, beq_iff_eq, isOther, if_false,
                ite_self]
              exact finishRounded_of_holds areDigits.2 (Or.inl full) holds
        · exact ih areDigits.2 holds

theorem readDigits_of_holds {whole fraction rest : List Char} {number : Decimal}
    {seen : Bool} (isWhole : number.scale = 0) (started : whole ≠ [] ∨ seen = true)
    (isRest : rest = whole ∧ fraction = [] ∨ rest = whole ++ '.' :: fraction)
    (areDigits : ∀ character ∈ whole ++ fraction, character.isDigit = true)
    (holds : Holds (Nat.ofDigitChars 10 (whole ++ fraction) number.mantissa /
      10 ^ fraction.length)) :
    ∃ result, readDigits ⟨number, false, seen⟩ rest = .ok result := by
  induction whole generalizing number rest seen with
  | nil =>
      have isSeen : seen = true := by simpa using started
      subst isSeen
      rcases isRest with ⟨rfl, -⟩ | rfl
      · exact ⟨number, rfl⟩
      · refine readDigits_fraction_of_holds areDigits ?_
        rw [isWhole, Nat.zero_add]
        exact holds
  | cons character others ih =>
      have ofCharacter := areDigits character (by simp)
      have small : number.mantissa * 10 + (character.toNat - '0'.toNat) < 2 ^ 96 := by
        have fits := lt_of_holds holds
        rw [List.cons_append, Nat.ofDigitChars_cons, Nat.mul_comm 10] at fits
        refine Nat.lt_of_mul_lt_mul_right (a := 10 ^ fraction.length) ?_
        refine Nat.lt_of_le_of_lt ?_ fits
        refine Nat.le_trans (Nat.mul_le_mul_left _ ?_) (Text.mul_pow_le_ofDigitChars _ _)
        exact Nat.pow_le_pow_right (by decide) (by simp)
      let next : Decimal := ⟨number.negative, _, number.scale, small, number.scale_le⟩
      have made : of? number.negative
          (number.mantissa * 10 + (character.toNat - '0'.toNat)) number.scale =
            some next :=
        of?_eq_some_iff.mpr ⟨rfl, rfl, rfl⟩
      have reads : ∀ tail, readDigits ⟨number, false, seen⟩ (character :: tail) =
          readDigits ⟨next, false, true⟩ tail := by
        intro tail
        simp only [readDigits, digitValue?_of_isDigit ofCharacter, Bool.false_eq_true,
          if_false, made]
        rw [if_neg (by simp [isWhole])]
      rw [List.cons_append, Nat.ofDigitChars_cons, Nat.mul_comm 10] at holds
      have restAreDigits : ∀ other ∈ others ++ fraction, other.isDigit = true :=
        fun other member => areDigits other (List.mem_cons_of_mem _ member)
      have continues : ∀ {tail}, tail = others ∧ fraction = [] ∨
          tail = others ++ '.' :: fraction →
            ∃ result, readDigits ⟨number, false, seen⟩ (character :: tail) = .ok result := by
        intro tail isTail
        rw [reads]
        exact ih isWhole (Or.inr rfl) isTail restAreDigits holds
      rcases isRest with ⟨rfl, none⟩ | rfl
      · exact continues (Or.inl ⟨rfl, none⟩)
      · exact continues (Or.inr rfl)

/-- A plain numeral is read exactly if a decimal can hold the number. -/
theorem readPlain_of_holds {text : List Char} {numeral : Numeral}
    (isPlain : Numeral.IsPlain text numeral) (holds : Holds numeral.base) :
    ∃ result, readPlain text = .ok result ∧ result.negative = false ∧
      result.magnitude = numeral.base := by
  have noSign : text.head? ≠ some '-' ∧ text.head? ≠ some '+' :=
    ⟨isPlain.head_ne (by decide), isPlain.head_ne (by decide)⟩
  have isRead : ∃ result, readPlain text = .ok result := by
    rw [readPlain_eq_readDigits isPlain.ne_nil noSign]
    cases isPlain with
    | whole _ started areDigits =>
        rw [← List.append_nil text] at areDigits
        refine readDigits_of_holds rfl (Or.inl started) (Or.inl ⟨rfl, rfl⟩) areDigits ?_
        rw [List.append_nil]
        exact holds
    | pointed whole fraction started areDigits =>
        exact readDigits_of_holds rfl (Or.inl started) (Or.inr rfl) areDigits holds
  obtain ⟨result, done⟩ := isRead
  obtain ⟨found, foundPlain, keeps⟩ :=
    isPlain_of_readPlain noSign (isPlain.head_ne (by decide)) done
  rw [isPlain.withoutSeparators_eq] at foundPlain
  cases isPlain.unique foundPlain
  exact ⟨result, done, keeps.unsigned, keeps.exact holds⟩

end ClearingHouse.Decimal
