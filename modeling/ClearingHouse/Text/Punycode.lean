import ClearingHouse.Text.Numeral

/-!
# Punycode

A text is written with Latin characters alone.  Those that it has come first, as
they are, and a dash divides them from a list of numbers.  Every number says how
many places a counter has to pass before the next of the other characters is put
in; the counter runs through the places of the text so far, for one character
after the other.  A number is written with digits to the base thirty-six, the
least one first, and ends with a digit below a threshold that follows the size of
the numbers before it.
-/

namespace ClearingHouse.Text.Punycode

/-- Whether a character is one of those that are written as they are. -/
def isLatin (character : Char) : Bool := character.toNat < 0x80

/-! ## Digits -/

/-- The digit with a value below thirty-six: a letter, and then a numeral. -/
def digit (value : Nat) : Char :=
  if value < 26 then Char.ofNat ('a'.toNat + value)
  else Char.ofNat ('0'.toNat + (value - 26))

def value? (character : Char) : Option Nat :=
  if 'a' ≤ character ∧ character ≤ 'z' then
    some (character.toNat - 'a'.toNat)
  else if '0' ≤ character ∧ character ≤ '9' then
    some (character.toNat - '0'.toNat + 26)
  else none

/-- The threshold at a place of a number, of which the first is thirty-six and
every other one thirty-six more. -/
def threshold (bias place : Nat) : Nat := min 26 (max 1 (place - bias))

theorem one_le_threshold (bias place : Nat) : 1 ≤ threshold bias place := by
  unfold threshold
  omega

/-- Divide a size by thirty-five until it is small.  Every time counts
thirty-six. -/
def settled (size count : Nat) : Nat :=
  if 455 < size then settled (size / 35) (count + 36)
  else count + 36 * size / (size + 38)
termination_by size
decreasing_by exact Nat.div_lt_self (by omega) (by omega)

/-- The bias after a number, from the number of characters with the one that it
puts in. -/
def biasAfter (isFirst : Bool) (number characters : Nat) : Nat :=
  let size := if isFirst then number / 700 else number / 2
  settled (size + size / characters) 0

/-! ## Writing -/

/-- The digits of a number from a place on. -/
def digitsFrom (bias place number : Nat) : List Char :=
  let least := threshold bias place
  if number < least then [digit number]
  else
    digit (least + (number - least) % (36 - least)) ::
      digitsFrom bias (place + 36) ((number - least) / (36 - least))
termination_by number
decreasing_by
  have positive := one_le_threshold bias place
  have bounded := Nat.div_le_self (number - threshold bias place)
    (36 - threshold bias place)
  omega

/-- A text of which some characters have been written. -/
structure Writing where
  digits : List Char
  /-- How many characters have been written. -/
  count : Nat
  number : Nat
  bias : Nat

/-- Pass a character of the text on the way to those with the code point
`point`.  `latin` counts the characters that were written first. -/
def Writing.pass (latin point : Nat) (writing : Writing) (character : Char) :
    Writing :=
  if character.toNat < point then { writing with number := writing.number + 1 }
  else if character.toNat = point then
    { digits := writing.digits ++ digitsFrom writing.bias 36 writing.number
      count := writing.count + 1
      number := 0
      bias := biasAfter (writing.count == latin) writing.number (writing.count + 1) }
  else writing

/-- Write the characters with one code point after the other.  The counter stands
at the code point `next`. -/
def Writing.write (text : List Char) (latin : Nat) (next : Nat)
    (writing : Writing) : List Nat → Writing
  | [] => writing
  | point :: rest =>
      let reached :=
        { writing with
          number := writing.number + (point - next) * (writing.count + 1) }
      let passed := text.foldl (Writing.pass latin point) reached
      Writing.write text latin (point + 1)
        { passed with number := passed.number + 1 } rest

/-- A text with Latin characters alone. -/
def encode (text : List Char) : List Char :=
  let latin := text.filter isLatin
  let others := (text.filter (!isLatin ·)).map Char.toNat
  let points := (others.mergeSort (· ≤ ·)).eraseDups
  let start : Writing := ⟨[], latin.length, 0, 72⟩
  latin ++ (if latin.isEmpty then [] else ['-']) ++
    (start.write text latin.length 0x80 points).digits

/-! ## Reading -/

/-- Read a number from a place on, where one more counts `weight`.  Weights have
thirty-two bits. -/
def numberFrom? (bias place weight : Nat) :
    List Char → Option (Nat × List Char)
  | [] => none
  | character :: rest =>
      match value? character with
      | none => none
      | some value =>
          let least := threshold bias place
          if value < least then some (value * weight, rest)
          else if 2 ^ 32 ≤ weight * (36 - least) then none
          else
            (numberFrom? bias (place + 36) (weight * (36 - least)) rest).map
              fun (number, rest) => (value * weight + number, rest)

theorem length_of_numberFrom? {bias place weight number : Nat}
    {text rest : List Char}
    (read : numberFrom? bias place weight text = some (number, rest)) :
    rest.length < text.length := by
  induction text generalizing place weight number rest with
  | nil => simp [numberFrom?] at read
  | cons character others ih =>
      rw [numberFrom?] at read
      split at read
      · simp at read
      · simp only at read
        split at read
        · simp only [Option.some.injEq, Prod.mk.injEq] at read
          simp [read.2]
        · split at read
          · simp at read
          · obtain ⟨⟨inner, behind⟩, innerRead, same⟩ :=
              Option.map_eq_some_iff.1 read
            have shorter := ih innerRead
            simp only [Prod.mk.injEq] at same
            rw [same.2] at shorter
            simp only [List.length_cons]
            omega

/-- Put characters into a text.  The counter stands at the code point `point` and
the place `place`. -/
def insertFrom? (isFirst : Bool) (bias point place : Nat) (shown : List Char)
    (text : List Char) : Option (List Char) :=
  if text.isEmpty then some shown
  else
    match read : numberFrom? bias 36 1 text with
    | none => none
    | some (number, rest) =>
        let characters := shown.length + 1
        let reached := point + (place + number) / characters
        let here := (place + number) % characters
        if reached.isValidChar then
          insertFrom? false (biasAfter isFirst number characters) reached
            (here + 1) (shown.insertIdx here (Char.ofNat reached)) rest
        else none
termination_by text.length
decreasing_by exact length_of_numberFrom? read

def decode? (text : List Char) : Option (List Char) :=
  let digits := (text.reverse.takeWhile (· != '-')).reverse
  let latin := text.take (text.length - digits.length - 1)
  if text.contains '-' && latin.isEmpty then none
  else if latin.all isLatin then insertFrom? true 72 0x80 0 latin digits
  else none

end ClearingHouse.Text.Punycode
