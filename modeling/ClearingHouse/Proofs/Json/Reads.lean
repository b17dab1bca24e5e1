import Mathlib.Tactic.SplitIfs
import ClearingHouse.Json.Reader
import ClearingHouse.Json.Text
import ClearingHouse.Proofs.Amount.Digits

/-!
# Reading what was written

A reader reads a value from its text if it takes exactly that text from the front of
any longer one, and makes the value of it.  This holds of strings with any characters
in them, and of integers.
-/

namespace ClearingHouse.Json

namespace Reader

variable {α β : Type}

/-- What can stand behind a value: nothing, or what goes on with the array or the object
that the value is in. -/
def Ends (rest : List Char) : Prop :=
  rest = [] ∨ ∃ character tail, rest = character :: tail ∧ character ∈ [',', '}', ']']

/-- The value is read from the text, and nothing behind the text is touched. -/
def Reads (reader : Reader α) (text : List Char) (value : α) : Prop :=
  ∀ rest, Ends rest → reader (text ++ rest) = .ok (value, rest)

/-! ## Steps of a reader -/

theorem bind_of_ok {first : Reader α} {next : α → Reader β} {text rest : List Char}
    {value : α} (read : first text = .ok (value, rest)) :
    (first >>= next) text = next value rest := by
  show Except.bind (first text) _ = _
  rw [read]
  rfl

@[simp] theorem pure_apply (value : α) (text : List Char) :
    (pure value : Reader α) text = .ok (value, text) := rfl

theorem peek_apply (text : List Char) : peek text = .ok (text.head?, text) := rfl

theorem peekToken_cons {character : Char} {rest : List Char}
    (notSpace : isSpace character = false) :
    peekToken (character :: rest) = .ok (some character, character :: rest) := by
  simp [peekToken, notSpace]

theorem advance_cons (character : Char) (rest : List Char) :
    advance (character :: rest) = .ok ((), rest) := rfl

/-- What a reader makes of the text is put in order by a function. -/
theorem Reads.map {reader : Reader α} {text : List Char} {value : α}
    (reads : reader.Reads text value) (f : α → β) :
    Reads (do let read ← reader; pure (f read)) text (f value) := by
  intro rest ends
  rw [bind_of_ok (reads rest ends)]
  rfl

/-- A whole text is read as the value that it is of. -/
theorem run_of_reads {reader : Reader α} {text : List Char} {value : α}
    (reads : reader.Reads text value) : run reader text = .ok value := by
  have whole := reads [] (Or.inl rfl)
  rw [List.append_nil] at whole
  rw [run]
  show Except.bind (reader text) _ = _
  rw [whole]
  rfl

/-! ## Strings -/

theorem hexValue?_hexDigit {value : Nat} (small : value < 16) :
    Text.hexValue? (Text.hexDigit value) = some value := by
  have all : ∀ value < 16, Text.hexValue? (Text.hexDigit value) = some value := by decide
  exact all value small

theorem hasFourBytes_cons (first second third fourth : Char) (rest : List Char) :
    hasFourBytes (first :: second :: third :: fourth :: rest) = true := by
  have one := first.utf8Size_pos
  have two := second.utf8Size_pos
  have three := third.utf8Size_pos
  have four := fourth.utf8Size_pos
  refine decide_eq_true ?_
  simp only [List.take_succ_cons, List.take_zero, List.foldl_cons, List.foldl_nil]
  omega

theorem ofUnit_control {value : Nat} (small : value < 0x20) :
    ofUnit value none = .ok (.inl (Char.ofNat value)) := by
  have notLow : ¬ (0xDC00 ≤ value ∧ value < 0xE000) := by omega
  have notHigh : ¬ (0xD800 ≤ value ∧ value < 0xDC00) := by omega
  simp [ofUnit, notLow, notHigh]

/-- A letter behind a backslash stands for a character. -/
theorem stringFrom_letter (before : List Char) {letter character : Char}
    (standsFor : unescaped? letter = some character) (rest : List Char) :
    stringFrom before .plain ('\\' :: letter :: rest) =
      stringFrom (character :: before) .plain rest := by
  have notNumber : letter ≠ 'u' := by
    rintro rfl
    revert standsFor
    simp [unescaped?]
  have notQuote : ¬ '\\' = '"' := by decide
  simp only [stringFrom, notQuote, notNumber, standsFor, if_true, if_false]

/-- A control character stands as its number, in four digits. -/
theorem stringFrom_number (before : List Char) {character : Char}
    (control : character.toNat < 0x20) (rest : List Char) :
    stringFrom before .plain ('\\' :: 'u' :: '0' :: '0' ::
        Text.hexDigit (character.toNat / 16) :: Text.hexDigit (character.toNat % 16) ::
          rest) =
      stringFrom (character :: before) .plain rest := by
  have high : Text.hexValue? (Text.hexDigit (character.toNat / 16)) =
      some (character.toNat / 16) := hexValue?_hexDigit (by omega)
  have low : Text.hexValue? (Text.hexDigit (character.toNat % 16)) =
      some (character.toNat % 16) := hexValue?_hexDigit (by omega)
  have zero : Text.hexValue? '0' = some 0 := by decide
  have whole : (character.toNat / 16) * 16 + character.toNat % 16 = character.toNat := by
    omega
  simp [stringFrom, hasFourBytes_cons, zero, high, low, whole, ofUnit_control control,
    Char.ofNat_toNat]

/-- A character is read back, whether it is escaped or not. -/
theorem stringFrom_escaped (before : List Char) (character : Char) (rest : List Char) :
    stringFrom before .plain (escaped character ++ rest) =
      stringFrom (character :: before) .plain rest := by
  rw [escaped]
  split_ifs with isQuote isBackslash isBackspace isTab isLine isFeed isReturn isControl
  · exact stringFrom_letter before (by simp [unescaped?, isQuote]) rest
  · exact stringFrom_letter before (by simp [unescaped?, isBackslash]) rest
  · exact stringFrom_letter before (by simp [unescaped?, isBackspace]) rest
  · exact stringFrom_letter before (by simp [unescaped?, isTab]) rest
  · exact stringFrom_letter before (by simp [unescaped?, isLine]) rest
  · exact stringFrom_letter before (by simp [unescaped?, isFeed]) rest
  · exact stringFrom_letter before (by simp [unescaped?, isReturn]) rest
  · exact stringFrom_number before isControl rest
  · simp only [List.cons_append, List.nil_append, stringFrom, isQuote, isBackslash,
      isControl, if_false]

theorem stringFrom_escapedText (before characters rest : List Char) :
    stringFrom before .plain (escapedText characters ++ '"' :: rest) =
      .ok (before.reverse ++ characters, rest) := by
  induction characters generalizing before with
  | nil => simp [escapedText, stringFrom]
  | cons character others ih =>
      rw [escapedText, List.append_assoc, stringFrom_escaped, ih]
      simp

/-- A string is read up to its closing quote, whatever follows. -/
theorem stringBody_escapedText (text : String) (rest : List Char) :
    stringBody (escapedText text.toList ++ '"' :: rest) = .ok (text, rest) := by
  simp [stringBody, stringFrom_escapedText]

theorem string_append (text : String) (rest : List Char) :
    Json.string text ++ rest = '"' :: (escapedText text.toList ++ '"' :: rest) := by
  simp [Json.string]

theorem string_apply (text : String) (rest : List Char) :
    string (Json.string text ++ rest) = .ok (text, rest) := by
  rw [string_append, string, bind_of_ok (peekToken_cons (by decide))]
  simp only [if_true]
  rw [bind_of_ok (advance_cons _ _)]
  exact stringBody_escapedText text rest

theorem reads_string (text : String) : Reads string (Json.string text) text :=
  fun rest _ => string_apply text rest

/-- A name is read as what it names. -/
theorem reads_choice {named? : String → Option α} {name : String} {value : α}
    (named : named? name = some value) :
    Reads (choice named?) (Json.string name) value := by
  intro rest ends
  have read := string_apply name rest
  rw [string_append] at read ⊢
  rw [choice, bind_of_ok (peekToken_cons (by decide))]
  simp only
  rw [bind_of_ok read, named]
  rfl

/-! ## Integers -/

theorem isDigit_eq (character : Char) : isDigit character = character.isDigit := by
  unfold isDigit
  cases read : Text.digitValue? character with
  | none => rw [Text.digitValue?_eq_none_iff.mp read, Option.isSome_none]
  | some digit => rw [(Text.digitValue?_eq_some_iff.mp read).1, Option.isSome_some]

/-- What a numeral cannot go on with stands behind it. -/
theorem Ends.not_numeral {rest : List Char} (ends : Ends rest) :
    rest.takeWhile isDigit = [] ∧ rest.dropWhile isDigit = rest ∧
      rest.head? ≠ some '.' ∧ isExponentMark rest.head? = false := by
  rcases ends with rfl | ⟨character, tail, rfl, isEnd⟩
  · decide
  · simp only [List.mem_cons, List.not_mem_nil, or_false] at isEnd
    rcases isEnd with rfl | rfl | rfl <;>
      exact ⟨List.takeWhile_cons_of_neg (by decide), List.dropWhile_cons_of_neg (by decide),
        by simp, rfl⟩

theorem takeRun_digits {digits rest : List Char}
    (areDigits : ∀ character ∈ digits, character.isDigit = true) (ends : Ends rest) :
    takeRun isDigit (digits ++ rest) = .ok (digits, rest) := by
  have all : ∀ character ∈ digits, isDigit character = true := by
    simpa [isDigit_eq] using areDigits
  obtain ⟨noDigit, stays, -⟩ := ends.not_numeral
  rw [takeRun, List.takeWhile_append_of_pos all, List.dropWhile_append_of_pos all, noDigit,
    stays, List.append_nil]

/-- A number that is not zero is written without a zero at its front. -/
theorem head?_digits_ne_zero {number : Nat} (positive : 0 < number) :
    (Text.digits number).head? ≠ some '0' := by
  induction number using Nat.strongRecOn with
  | _ number ih =>
      rw [Text.digits, Nat.toDigits_eq_if (by decide)]
      split
      · rename_i small
        simp only [List.head?_cons, ne_eq, Option.some.injEq, Nat.digitChar_eq_zero]
        omega
      · rename_i large
        obtain ⟨first, others, isDigits⟩ :=
          List.exists_cons_of_ne_nil (Text.digits_ne_nil (number / 10))
        have noZero := ih (number / 10) (by omega) (by omega)
        rw [isDigits] at noZero
        rw [← Text.digits, isDigits]
        exact noZero

theorem wholeRun_digits (number : Nat) {rest : List Char} (ends : Ends rest) :
    wholeRun (Text.digits number ++ rest) = .ok (Text.digits number, rest) := by
  have notEmpty : (Text.digits number).isEmpty = false := by
    rw [List.isEmpty_eq_false_iff]
    exact Text.digits_ne_nil number
  have run : digitRun (Text.digits number ++ rest) = .ok (Text.digits number, rest) := by
    rw [digitRun, bind_of_ok (takeRun_digits (fun _ => Text.isDigit_of_mem_digits) ends),
      notEmpty]
    rfl
  have noZero : ∀ next others, Text.digits number ≠ '0' :: next :: others := by
    intro next others isDigits
    rcases Nat.eq_zero_or_pos number with rfl | positive
    · cases isDigits
    · exact absurd (by rw [isDigits]; rfl) (head?_digits_ne_zero positive)
  rw [wholeRun, bind_of_ok run]
  refine congrFun (g := (pure (Text.digits number) : Reader (List Char))) ?_ rest
  split
  · rename_i next others isDigits
    exact absurd isDigits (noZero next others)
  · rfl

/-- All digits of a number that fits sixty-four bits are held. -/
theorem wholePart_of_fits {digits : List Char} {value : Nat}
    (fits : Nat.ofDigitChars 10 digits value < 2 ^ 64) :
    wholePart ⟨value, 0⟩ digits = ⟨Nat.ofDigitChars 10 digits value, 0⟩ := by
  induction digits generalizing value with
  | nil => rfl
  | cons character rest ih =>
      rw [Nat.ofDigitChars_cons, Nat.mul_comm] at fits ⊢
      have within : value * 10 + (character.toNat - '0'.toNat) < 2 ^ 64 :=
        Nat.lt_of_le_of_lt (Text.le_ofDigitChars _ rest) fits
      rw [wholePart]
      simp only [within, and_self, if_true]
      exact ih fits

/-- A natural number, or its negative counterpart if a sign has been taken. -/
def signed (negative : Bool) (number : Nat) : Number :=
  if negative then .negative number else .natural number

theorem numeral_digits {negative : Bool} {number : Nat} {rest : List Char}
    (fits : number < 2 ^ 64) (signFits : negative = true → 0 < number ∧ number ≤ 2 ^ 63)
    (ends : Ends rest) :
    numeral negative (Text.digits number ++ rest) = .ok (signed negative number, rest) := by
  obtain ⟨-, -, noPoint, noMark⟩ := ends.not_numeral
  have held : wholePart ⟨0, 0⟩ (Text.digits number) = ⟨number, 0⟩ := by
    rw [wholePart_of_fits (by rwa [Text.ofDigitChars_digits]), Text.ofDigitChars_digits]
  rw [numeral, bind_of_ok (wholeRun_digits number ends), bind_of_ok (peek_apply rest)]
  simp only [noPoint, if_false, noMark, Bool.false_eq_true, held, ne_eq, not_true_eq_false]
  cases negative with
  | false => rfl
  | true =>
      obtain ⟨positive, small⟩ := signFits rfl
      rw [if_neg (by decide), if_pos ⟨by omega, small⟩]
      rfl

theorem not_isSpace_of_startsNumber {character : Char}
    (starts : startsNumber character = true) : isSpace character = false := by
  rw [startsNumber, isDigit_eq, Bool.or_eq_true, decide_eq_true_eq] at starts
  rcases starts with rfl | isDigit
  · decide
  · rw [Bool.eq_false_iff]
    intro isSpace
    simp only [Reader.isSpace, Bool.or_eq_true, decide_eq_true_eq] at isSpace
    rcases isSpace with ((rfl | rfl) | rfl) | rfl <;> cases isDigit

theorem integer_of_number {least greatest value : Int} {first : Char}
    {text rest : List Char} {read : Number} (starts : startsNumber first = true)
    (done : number first (first :: text) = .ok (read, rest))
    (isValue : (∃ digits : Nat, read = .natural digits ∧ value = digits) ∨
      ∃ digits : Nat, read = .negative digits ∧ value = -(digits : Int))
    (within : least ≤ value ∧ value ≤ greatest) :
    integer least greatest (first :: text) = .ok (value, rest) := by
  rw [integer, bind_of_ok (peekToken_cons (not_isSpace_of_startsNumber starts))]
  simp only [starts, if_true]
  rw [bind_of_ok done]
  rcases isValue with ⟨digits, rfl, rfl⟩ | ⟨digits, rfl, rfl⟩
  · simp only [pure_bind, if_pos within, pure_apply]
  · simp only [pure_bind, if_pos within, pure_apply]

theorem reads_integer {least greatest value : Int} (atLeast : -(2 ^ 63) ≤ value)
    (atMost : value < 2 ^ 64) (within : least ≤ value ∧ value ≤ greatest) :
    Reads (integer least greatest) (Json.integer value) value := by
  intro rest ends
  cases value with
  | ofNat digits =>
      obtain ⟨first, others, isDigits⟩ :=
        List.exists_cons_of_ne_nil (Text.digits_ne_nil digits)
      have ofFirst : first.isDigit = true :=
        Text.isDigit_of_mem_digits (by rw [isDigits]; exact List.mem_cons_self)
      have notMinus : first ≠ '-' := by
        rintro rfl
        cases ofFirst
      have small : digits < 2 ^ 64 := by
        change (digits : Int) < 2 ^ 64 at atMost
        omega
      have read : numeral false (Text.digits digits ++ rest) = .ok (.natural digits, rest) :=
        numeral_digits small (by simp) ends
      rw [isDigits, List.cons_append] at read
      rw [Json.integer, natural, isDigits, List.cons_append]
      refine integer_of_number ?_ ?_ (Or.inl ⟨digits, rfl, rfl⟩) within
      · simp [startsNumber, isDigit_eq, ofFirst]
      · rw [number, if_neg notMinus]
        exact read
  | negSucc digits =>
      have read : numeral true (Text.digits (digits + 1) ++ rest) =
          .ok (.negative (digits + 1), rest) :=
        numeral_digits (by omega) (fun _ => by omega) ends
      rw [Json.integer, natural, List.cons_append]
      refine integer_of_number (by decide) ?_
        (Or.inr ⟨digits + 1, rfl, Int.negSucc_eq digits⟩) within
      rw [number, if_pos rfl, bind_of_ok (advance_cons _ _)]
      exact read

/-! ## Values that may be missing -/

theorem reads_optional {reader : Reader α} {text : List Char} {value : α}
    (reads : reader.Reads text value) {first : Char} {others : List Char}
    (isText : text = first :: others) (notSpace : isSpace first = false)
    (notNull : first ≠ 'n') : Reads (optional reader) text (some value) := by
  intro rest ends
  have done := reads rest ends
  rw [isText, List.cons_append] at done ⊢
  rw [optional, bind_of_ok (peekToken_cons notSpace)]
  refine (congrFun (g := (reader >>= fun value => pure (some value) : Reader (Option α)))
    ?_ _).trans ?_
  · split
    · rename_i isNull
      exact absurd (Option.some.inj isNull) notNull
    · rfl
  · rw [bind_of_ok done]
    rfl

end Reader

end ClearingHouse.Json
