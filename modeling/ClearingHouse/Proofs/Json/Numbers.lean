import ClearingHouse.Proofs.Amount.Numeral
import ClearingHouse.Proofs.Json.Significand

/-!
# Numbers that are read

A number that is read from the front of a text is a numeral there, possibly behind a minus
sign.  It is held as an integer if it is one that is short and has no point and no
exponent.  Any other numeral is held as a binary number that is made of its digits, all
of them if they fit sixty-four bits.
-/

namespace ClearingHouse.Json.Reader

variable {α β : Type}

/-! ## What has been done -/

/-- If two readers have been run one after the other, each of them has been run. -/
theorem of_bind_ok {first : Reader α} {next : α → Reader β} {text rest : List Char}
    {value : β} (done : (first >>= next) text = .ok (value, rest)) :
    ∃ middle remaining, first text = .ok (middle, remaining) ∧
      next middle remaining = .ok (value, rest) := by
  change Except.bind (first text) _ = _ at done
  cases isFirst : first text with
  | error fault =>
      rw [isFirst] at done
      cases done
  | ok step =>
      rw [isFirst] at done
      exact ⟨step.1, step.2, rfl, done⟩

theorem bind_of_error {first : Reader α} {next : α → Reader β} {text : List Char}
    {fault : Fault} (failed : first text = .error fault) :
    (first >>= next) text = .error fault := by
  change Except.bind (first text) _ = _
  rw [failed]
  rfl

theorem digits_of_digitRun {text run rest : List Char}
    (done : digitRun text = .ok (run, rest)) :
    text = run ++ rest ∧ run ≠ [] ∧ ∀ character ∈ run, character.isDigit = true := by
  obtain ⟨taken, remaining, isTaken, done⟩ := of_bind_ok done
  cases isTaken
  split at done
  · obtain ⟨next, others, -, done⟩ := of_bind_ok done
    split at done <;> cases done
  · rename_i notEmpty
    cases done
    refine ⟨List.takeWhile_append_dropWhile.symm, ?_, fun character member => ?_⟩
    · rwa [List.isEmpty_iff] at notEmpty
    · rw [← isDigit_eq]
      exact List.all_eq_true.mp List.all_takeWhile character member

theorem digits_of_wholeRun {text run rest : List Char}
    (done : wholeRun text = .ok (run, rest)) :
    text = run ++ rest ∧ run ≠ [] ∧ ∀ character ∈ run, character.isDigit = true := by
  obtain ⟨taken, remaining, isTaken, done⟩ := of_bind_ok done
  split at done
  · cases done
  · cases done
    exact digits_of_digitRun isTaken

/-! ## The parts of a numeral -/

theorem of_finishReal {negative : Bool} {held : Significand} {text rest : List Char}
    {number : Number} (done : finishReal negative held text = .ok (number, rest)) :
    rest = text ∧ ∃ value, number = .real value ∧
      Binary64.ofScientific? negative held.value held.exponent = some value := by
  unfold finishReal at done
  cases made : Binary64.ofScientific? negative held.value held.exponent with
  | none =>
      rw [made] at done
      cases done
  | some value =>
      rw [made] at done
      cases done
      exact ⟨rfl, value, rfl, rfl⟩

/-- The digits of an exponent, which are put together with the digits held. -/
theorem of_power {negative : Bool} {value : Nat} (exponentOf : Nat → ℤ)
    {text rest : List Char} {number : Number}
    (done : (digitRun >>= fun run => finishReal negative
      ⟨value, exponentOf ((Text.valueFrom? 0 run).getD 0)⟩) text = .ok (number, rest)) :
    ∃ digits, text = digits ++ rest ∧ digits ≠ [] ∧
      (∀ character ∈ digits, character.isDigit = true) ∧
      ∃ made, number = .real made ∧
        Binary64.ofScientific? negative value
          (exponentOf (Nat.ofDigitChars 10 digits 0)) = some made := by
  obtain ⟨digits, remaining, isRun, done⟩ := of_bind_ok done
  obtain ⟨isText, started, areDigits⟩ := digits_of_digitRun isRun
  obtain ⟨rfl, made, isReal, isMade⟩ := of_finishReal done
  have isValue : Text.valueFrom? 0 digits = some (Nat.ofDigitChars 10 digits 0) :=
    Text.valueFrom?_eq_some_iff.mpr ⟨areDigits, rfl⟩
  rw [isValue, Option.getD_some] at isMade
  exact ⟨digits, isText, started, areDigits, made, isReal, isMade⟩

/-- The mark of an exponent, and the exponent behind it. -/
theorem of_exponentPart {negative : Bool} {held : Significand} {text rest : List Char}
    {number : Number} (isMark : isExponentMark text.head? = true)
    (done : exponentPart negative held text = .ok (number, rest)) :
    ∃ mark sign digits direction, text = mark :: (sign ++ digits) ++ rest ∧
      Decimal.isExponentMark mark = true ∧ (sign, direction) ∈ Numeral.exponentSigns ∧
      digits ≠ [] ∧ (∀ character ∈ digits, character.isDigit = true) ∧
      ∃ made, number = .real made ∧
        Binary64.ofScientific? negative held.value
          (held.exponent + direction * Nat.ofDigitChars 10 digits 0) = some made := by
  cases text with
  | nil => cases isMark
  | cons mark tail =>
      have marks : Decimal.isExponentMark mark = true := by
        simpa [isExponentMark, Decimal.isExponentMark] using isMark
      obtain ⟨_, afterMark, isAdvanced, done⟩ := of_bind_ok done
      cases isAdvanced
      obtain ⟨sign, _, isPeeked, done⟩ := of_bind_ok done
      cases isPeeked
      simp only [List.drop_succ_cons, List.drop_zero] at done
      split at done
      · rename_i isSign
        obtain ⟨_, _, isAdvanced, done⟩ := of_bind_ok done
        cases isAdvanced
        obtain ⟨digits, isText, started, areDigits, made, isReal, isMade⟩ :=
          of_power (fun power => if tail.head? = some '-' then held.exponent - power
            else held.exponent + power) done
        rcases isSign with isPlus | isMinus
        · obtain ⟨others, rfl⟩ := List.head?_eq_some_iff.mp isPlus
          refine ⟨mark, ['+'], digits, 1, ?_, marks, by decide, started, areDigits, made,
            isReal, ?_⟩
          · simpa using isText
          · simpa using isMade
        · obtain ⟨others, rfl⟩ := List.head?_eq_some_iff.mp isMinus
          refine ⟨mark, ['-'], digits, -1, ?_, marks, by decide, started, areDigits, made,
            isReal, ?_⟩
          · simpa using isText
          · simpa [sub_eq_add_neg] using isMade
      · rename_i noSign
        rw [not_or] at noSign
        obtain ⟨digits, isText, started, areDigits, made, isReal, isMade⟩ :=
          of_power (fun power => if tail.head? = some '-' then held.exponent - power
            else held.exponent + power) done
        refine ⟨mark, [], digits, 1, ?_, marks, by decide, started, areDigits, made,
          isReal, ?_⟩
        · simpa using isText
        · simpa [noSign.2] using isMade

/-! ## Numerals -/

/-- What a numeral behind a sign or without one is held as. -/
inductive HeldAs (negative : Bool) (text : List Char) : Numeral → Number → Prop
  | natural (value : Nat) (unsigned : negative = false) (small : value < 2 ^ 64) :
      HeldAs negative text ⟨value, 0, 0⟩ (.natural value)
  | negative (value : Nat) (signed : negative = true) (small : value < 2 ^ 64) :
      HeldAs negative text ⟨value, 0, 0⟩ (.negative value)
  | real {numeral : Numeral} (held : Significand) (value : Binary64)
      (made : Binary64.ofScientific? negative held.value held.exponent = some value)
      (exact : numeral.significand < 2 ^ 64 →
        held = ⟨numeral.significand, numeral.exponent - numeral.places⟩)
      (notNatural : negative = false → numeral.significand < 2 ^ 64 →
        ∃ character ∈ text, character.isDigit = false)
      (nears : held.Nears numeral.value) :
      HeldAs negative text numeral (.real value)

/-- A plain numeral that is held with its places, possibly with an exponent behind it. -/
theorem heldAs_of_end {negative : Bool} {plain text rest : List Char} {numeral : Numeral}
    {held : Significand} {number : Number} (isPlain : Numeral.IsPlain plain numeral)
    (nears : held.Nears numeral.base)
    (exact : numeral.significand < 2 ^ 64 → held = ⟨numeral.significand, -numeral.places⟩)
    (notNatural : isExponentMark text.head? = false → negative = false →
      numeral.significand < 2 ^ 64 → ∃ character ∈ plain, character.isDigit = false)
    (done : (if isExponentMark text.head? then exponentPart negative held
      else finishReal negative held) text = .ok (number, rest)) :
    ∃ written found, plain ++ text = written ++ rest ∧ Numeral.Spells written found ∧
      HeldAs negative written found number := by
  obtain ⟨significand, places, exponent⟩ := numeral
  obtain rfl : exponent = 0 := isPlain.exponent
  simp only at exact notNatural
  split at done
  · rename_i isMark
    obtain ⟨mark, sign, digits, direction, rfl, marks, isSign, started, areDigits, made,
      rfl, isMade⟩ := of_exponentPart isMark done
    refine ⟨plain ++ mark :: (sign ++ digits), _, by simp,
      .scientific mark sign digits direction isPlain marks isSign started areDigits,
      .real ⟨held.value, held.exponent + direction * Nat.ofDigitChars 10 digits 0⟩ made
        isMade ?_ ?_ (nears.scaled _)⟩
    · intro fits
      rw [exact fits, neg_add_eq_sub]
    · exact fun _ _ => ⟨mark, by simp, (Numeral.not_isDigit_of_isExponentMark marks).1⟩
  · rename_i notMark
    obtain ⟨rfl, made, rfl, isMade⟩ := of_finishReal done
    refine ⟨plain, _, rfl, .plain isPlain, .real held made isMade ?_ ?_ ?_⟩
    · intro fits
      rw [exact fits, zero_sub]
    · exact notNatural (Bool.eq_false_of_not_eq_true notMark)
    · rwa [isPlain.value_eq]

/-- Digits with a fraction behind a point, possibly with an exponent behind it. -/
theorem heldAs_of_fraction {negative : Bool} {whole text fraction tail rest : List Char}
    {number : Number} (started : whole ≠ []) (areDigits : ∀ c ∈ whole, c.isDigit = true)
    (isFraction : digitRun text = .ok (fraction, tail))
    (done : (if isExponentMark tail.head?
      then exponentPart negative (fractionPart (wholePart ⟨0, 0⟩ whole) fraction)
      else finishReal negative (fractionPart (wholePart ⟨0, 0⟩ whole) fraction)) tail =
        .ok (number, rest)) :
    ∃ written found, whole ++ '.' :: text = written ++ rest ∧
      Numeral.Spells written found ∧ HeldAs negative written found number := by
  obtain ⟨isText, -, areFraction⟩ := digits_of_digitRun isFraction
  have isPlain := Numeral.IsPlain.pointed whole fraction started
    (List.forall_mem_append.mpr ⟨areDigits, areFraction⟩)
  have isNumeral := heldAs_of_end isPlain
    (nears_pointed (List.forall_mem_append.mpr ⟨areDigits, areFraction⟩))
    (fun fits => by
      rw [Nat.ofDigitChars_append] at fits
      have wholeFits := Nat.lt_of_le_of_lt (Text.le_ofDigitChars _ fraction) fits
      rw [Nat.ofDigitChars_append, wholePart_of_fits wholeFits, fractionPart_of_fits fits,
        zero_sub])
    (fun _ _ _ => ⟨'.', by simp, by decide⟩) done
  rwa [List.append_assoc, List.cons_append, ← isText] at isNumeral

/-- What is taken from the front of the text is a numeral, and held as such. -/
theorem of_numeral {negative : Bool} {text rest : List Char} {number : Number}
    (done : numeral negative text = .ok (number, rest)) :
    ∃ written found, text = written ++ rest ∧ Numeral.Spells written found ∧
      HeldAs negative written found number := by
  rw [Reader.numeral] at done
  obtain ⟨whole, remaining, isWhole, afterWhole⟩ := of_bind_ok done
  obtain ⟨next, _, isPeeked, afterPeek⟩ := of_bind_ok afterWhole
  cases isPeeked
  obtain ⟨isText, started, areDigits⟩ := digits_of_wholeRun isWhole
  rw [isText]
  simp only at afterPeek
  split at afterPeek
  · rename_i isPoint
    obtain ⟨others, isRemaining⟩ := List.head?_eq_some_iff.mp isPoint
    rw [isRemaining] at afterPeek ⊢
    obtain ⟨_, _, isAdvanced, afterPoint⟩ := of_bind_ok afterPeek
    cases isAdvanced
    obtain ⟨fraction, tail, isFraction, afterFraction⟩ := of_bind_ok afterPoint
    obtain ⟨next, _, isPeeked, afterEnd⟩ := of_bind_ok afterFraction
    cases isPeeked
    rw [List.drop_succ_cons, List.drop_zero] at isFraction
    exact heldAs_of_fraction started areDigits isFraction afterEnd
  · have isPlain := Numeral.IsPlain.whole whole started areDigits
    have nears : (wholePart ⟨0, 0⟩ whole).Nears
        (⟨Nat.ofDigitChars 10 whole 0, 0, 0⟩ : Numeral).base := by
      rw [Numeral.base, pow_zero, div_one]
      exact nears_whole areDigits
    split at afterPeek
    · rename_i isMark
      refine heldAs_of_end isPlain nears (fun fits => ?_) (fun notMark => ?_)
        (by rw [if_pos isMark]; exact afterPeek)
      · rw [wholePart_of_fits fits]
        rfl
      · rw [isMark] at notMark
        cases notMark
    · rename_i notMark
      have asReal :
          finishReal negative (wholePart ⟨0, 0⟩ whole) remaining = .ok (number, rest) →
          (negative = false → ¬ Nat.ofDigitChars 10 whole 0 < 2 ^ 64) →
          ∃ written found, whole ++ remaining = written ++ rest ∧
            Numeral.Spells written found ∧ HeldAs negative written found number := by
        intro finished notNatural
        refine heldAs_of_end isPlain nears (fun fits => ?_)
          (fun _ unsigned fits => absurd fits (notNatural unsigned))
          (by rw [if_neg notMark]; exact finished)
        rw [wholePart_of_fits fits]
        rfl
      split at afterPeek
      · rename_i isLarge
        exact asReal afterPeek fun _ fits => isLarge (by rw [wholePart_of_fits fits])
      · rename_i notLarge
        -- A digit that did not fit would have been counted.
        have fits : Nat.ofDigitChars 10 whole 0 < 2 ^ 64 := by
          by_contra large
          exact notLarge (ne_of_gt (wholePart_of_large (by decide) (Nat.le_of_not_lt large)))
        split at afterPeek
        · rename_i unsigned
          rw [wholePart_of_fits fits] at afterPeek
          cases afterPeek
          exact ⟨whole, _, rfl, .plain isPlain, .natural _ (by simpa using unsigned) fits⟩
        · rename_i signed
          split at afterPeek
          · rw [wholePart_of_fits fits] at afterPeek
            cases afterPeek
            exact ⟨whole, _, rfl, .plain isPlain, .negative _ (by simpa using signed) fits⟩
          · exact asReal afterPeek fun unsigned => absurd unsigned (by simpa using signed)

/-- The sign of a number, as it is written. -/
def signText (negative : Bool) : List Char := if negative then ['-'] else []

/-- What is taken from the front of the text is a numeral, possibly behind a minus sign. -/
theorem of_number {first : Char} {text rest : List Char} {number : Number}
    (isFirst : text.head? = some first) (done : Reader.number first text = .ok (number, rest)) :
    ∃ negative unsigned found, text = signText negative ++ unsigned ++ rest ∧
      Numeral.Spells unsigned found ∧ HeldAs negative unsigned found number := by
  rw [Reader.number] at done
  split at done
  · rename_i isMinus
    obtain ⟨_, _, isAdvanced, afterSign⟩ := of_bind_ok done
    cases isAdvanced
    obtain ⟨others, rfl⟩ := List.head?_eq_some_iff.mp isFirst
    obtain ⟨unsigned, found, isText, spells, isHeld⟩ := of_numeral afterSign
    rw [List.drop_succ_cons, List.drop_zero] at isText
    exact ⟨true, unsigned, found, by rw [isMinus, isText]; rfl, spells, isHeld⟩
  · obtain ⟨unsigned, found, isText, spells, isHeld⟩ := of_numeral done
    exact ⟨false, unsigned, found, isText, spells, isHeld⟩

end ClearingHouse.Json.Reader
