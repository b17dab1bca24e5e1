import ClearingHouse.Text.Blank
import ClearingHouse.Text.Numeral
import ClearingHouse.Text.Pieces
import ClearingHouse.Text.Ranges

/-!
# Tables of characters

Long tables of characters are kept as texts.  Blanks divide the entries of such a
table, and a character stands there as its number in hexadecimal digits.
-/

namespace ClearingHouse.Text

/-- The number that some hexadecimal digits of a table stand for. -/
def codePoint (digits : List Char) : Nat := (valueToBase? 16 digits).getD 0

/-- The closed range that an entry stands for: two numbers with a dash between
them, or one number alone. -/
def rangeOf (entry : List Char) : Nat × Nat :=
  match cut '-' entry with
  | [first, last] => (codePoint first, codePoint last)
  | _ => (codePoint entry, codePoint entry)

/-- The ranges of a table that holds nothing else. -/
def ranges (table : String) : List (Nat × Nat) :=
  (words table).map fun entry => rangeOf entry.toList

/-- What stands in an entry before its colon, and the parts with commas between
them behind it. -/
def headed (entry : List Char) : List Char × List (List Char) :=
  match cut ':' entry with
  | [head, parts] => (head, cut ',' parts)
  | _ => (entry, [])

/-- The ranges of a table whose entries put a head before one range or more. -/
def headedRanges (table : String) : List (List Char × List (Nat × Nat)) :=
  (words table).map fun entry =>
    let (head, parts) := headed entry.toList
    (head, parts.map rangeOf)

/-- The text of a table that is made of characters with points between them. -/
def pointed (text : List Char) : List Char :=
  (cut '.' text).map fun digits => Char.ofNat (codePoint digits)

/-- The characters of a table and the texts that stand for them.  The head of an
entry is the first character of a row, and a text follows for every one. -/
def replacements (table : String) : List (Nat × List Char) :=
  (words table).flatMap fun entry =>
    let (head, texts) := headed entry.toList
    texts.zipIdx.map fun (text, place) => (codePoint head + place, pointed text)

end ClearingHouse.Text
