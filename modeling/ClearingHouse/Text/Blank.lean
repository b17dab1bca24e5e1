import ClearingHouse.Text.Ranges

/-!
# Blank characters

The characters with the Unicode property White_Space, and the two ways in
which texts are cleaned of them: trimming both ends, and splitting into words.
-/

namespace ClearingHouse.Text

/-- The closed ranges of code points with the property White_Space, ascending. -/
def blankRanges : List (Nat × Nat) :=
  [(0x09, 0x0D), (0x20, 0x20), (0x85, 0x85), (0xA0, 0xA0), (0x1680, 0x1680),
    (0x2000, 0x200A), (0x2028, 0x2029), (0x202F, 0x202F), (0x205F, 0x205F),
    (0x3000, 0x3000)]

/-- Whether a character is white space in the sense of Unicode. -/
def isBlank (character : Char) : Bool := isWithin blankRanges character

def trimmed (characters : List Char) : List Char :=
  ((characters.dropWhile isBlank).reverse.dropWhile isBlank).reverse

def trim (text : String) : String :=
  String.ofList (trimmed text.toList)

def isAllBlank (text : String) : Bool :=
  text.toList.all isBlank

/-- Cut a list of characters at blank characters.  The word under way is
`word`, last character first. -/
def wordsFrom (word : List Char) : List Char → List String
  | [] => if word.isEmpty then [] else [String.ofList word.reverse]
  | character :: rest =>
      if isBlank character then
        if word.isEmpty then wordsFrom [] rest
        else String.ofList word.reverse :: wordsFrom [] rest
      else wordsFrom (character :: word) rest

/-- The longest runs of characters that are not blank, in order. -/
def words (text : String) : List String :=
  wordsFrom [] text.toList

end ClearingHouse.Text
