import ClearingHouse.Proofs.Amount.Exact

/-!
# Amounts are read back

The written form of an amount is a plain numeral of the amount, with no blanks around
it, and so it is read as the amount.
-/

namespace ClearingHouse

namespace Text

theorem isBlank_of_isDigit {character : Char} (isDigit : character.isDigit = true) :
    isBlank character = false := by
  obtain ⟨atLeast, atMost⟩ := isDigit_iff_le.mp isDigit
  have low : 48 ≤ character.toNat := atLeast
  have high : character.toNat ≤ 57 := atMost
  simp only [isBlank, isWithin, blankRanges, List.any_cons, List.any_nil, Bool.or_false,
    Bool.or_eq_false_iff, Bool.and_eq_false_iff, decide_eq_false_iff_not]
  omega

/-- Trimming does nothing to a text that neither starts nor ends with a blank. -/
theorem trimmed_eq_self {first last : Char} {characters : List Char}
    (isFirst : characters.head? = some first) (isLast : characters.getLast? = some last)
    (firstShown : isBlank first = false) (lastShown : isBlank last = false) :
    trimmed characters = characters := by
  have kept : ∀ {text : List Char} {character : Char}, text.head? = some character →
      isBlank character = false → text.dropWhile isBlank = text := by
    intro text character isHead shown
    obtain ⟨rest, rfl⟩ := List.head?_eq_some_iff.mp isHead
    exact List.dropWhile_cons_of_neg (by simp [shown])
  rw [trimmed, kept isFirst firstShown, kept (by rwa [List.head?_reverse]) lastShown,
    List.reverse_reverse]

/-- A text with a digit at either end. -/
structure IsEdged (text : List Char) : Prop where
  first : ∃ character, text.head? = some character ∧ character.isDigit = true
  last : ∃ character, text.getLast? = some character ∧ character.isDigit = true

theorem IsEdged.trimmed_eq {text : List Char} (isEdged : IsEdged text) :
    trimmed text = text := by
  obtain ⟨first, isFirst, firstIsDigit⟩ := isEdged.first
  obtain ⟨last, isLast, lastIsDigit⟩ := isEdged.last
  exact trimmed_eq_self isFirst isLast (isBlank_of_isDigit firstIsDigit)
    (isBlank_of_isDigit lastIsDigit)

/-- With a minus sign in front of it, too. -/
theorem IsEdged.trimmed_minus {text : List Char} (isEdged : IsEdged text) :
    trimmed ('-' :: text) = '-' :: text := by
  obtain ⟨last, isLast, lastIsDigit⟩ := isEdged.last
  refine trimmed_eq_self rfl ?_ (by decide) (isBlank_of_isDigit lastIsDigit)
  rw [List.getLast?_cons, isLast]
  rfl

theorem length_padLeft {width : Nat} {fill : Char} {text : List Char}
    (fits : text.length ≤ width) : (padLeft width fill text).length = width := by
  rw [padLeft, List.length_append, List.length_replicate]
  omega

theorem ofDigitChars_padLeft (width value : Nat) (text : List Char) :
    Nat.ofDigitChars 10 (padLeft width '0' text) value =
      Nat.ofDigitChars 10 text (10 ^ (width - text.length) * value) := by
  rw [padLeft, Nat.ofDigitChars_append, Nat.ofDigitChars_replicate_zero]

end Text

namespace Amount

/-- The two digits behind the point. -/
def hundredths (amount : Amount) : List Char :=
  Text.padLeft 2 '0' (Text.digits (amount.minor % 100))

theorem length_hundredths (amount : Amount) : amount.hundredths.length = 2 := by
  have short : (Text.digits (amount.minor % 100)).length ≤ 2 := by
    rw [Text.digits, Nat.length_toDigits_le_iff (by decide) (by decide)]
    exact Nat.mod_lt _ (by decide)
  exact Text.length_padLeft short

theorem isDigit_of_mem_hundredths (amount : Amount) :
    ∀ character ∈ amount.hundredths, character.isDigit = true := by
  intro character member
  rw [hundredths, Text.padLeft, List.mem_append, List.mem_replicate] at member
  rcases member with ⟨-, rfl⟩ | member
  · rfl
  · exact Text.isDigit_of_mem_digits member

theorem ofDigitChars_written (amount : Amount) :
    Nat.ofDigitChars 10 (Text.digits (amount.minor / 100) ++ amount.hundredths) 0 =
      amount.minor := by
  have behind : Nat.ofDigitChars 10 amount.hundredths 0 = amount.minor % 100 := by
    rw [hundredths, Text.ofDigitChars_padLeft, Nat.mul_zero, Text.ofDigitChars_digits]
  rw [Nat.ofDigitChars_append, Text.ofDigitChars_digits,
    Nat.ofDigitChars_eq_ofDigitChars_zero, length_hundredths, behind]
  omega

theorem isPlain_written (amount : Amount) :
    Numeral.IsPlain amount.written ⟨amount.minor, 2, 0⟩ := by
  have areDigits : ∀ character ∈ Text.digits (amount.minor / 100) ++ amount.hundredths,
      character.isDigit = true := by
    intro character member
    rcases List.mem_append.mp member with before | behind
    · exact Text.isDigit_of_mem_digits before
    · exact isDigit_of_mem_hundredths amount character behind
  have isPlain := Numeral.IsPlain.pointed _ _ (Text.digits_ne_nil _) areDigits
  rw [ofDigitChars_written, length_hundredths] at isPlain
  exact isPlain

theorem getLast?_written (amount : Amount) :
    ∃ last, amount.written.getLast? = some last ∧ last.isDigit = true := by
  have notEmpty : amount.hundredths ≠ [] := by
    intro isEmpty
    have long := length_hundredths amount
    rw [isEmpty] at long
    cases long
  refine ⟨amount.hundredths.getLast notEmpty, ?_,
    isDigit_of_mem_hundredths amount _ (List.getLast_mem notEmpty)⟩
  rw [written, ← hundredths, List.getLast?_append, List.getLast?_cons,
    List.getLast?_eq_some_getLast notEmpty]
  rfl

/-- An amount is read back from its written form. -/
theorem parse_text (amount : Amount) : parse amount.text = .ok amount := by
  have isPlain := isPlain_written amount
  have isEdged : Text.IsEdged amount.written := ⟨isPlain.head, getLast?_written amount⟩
  have trimmed : Text.trimmed amount.text.toList = amount.written := by
    rw [text, String.toList_ofList, isEdged.trimmed_eq]
  refine parse_of_isPlain (by rwa [trimmed]) ?_ ?_
  · rw [trimmed]
    exact Text.ne_some_of_isDigit isEdged.last (by decide)
  · rw [isPlain.value_eq, Numeral.base, value]
    norm_num

end Amount

end ClearingHouse
