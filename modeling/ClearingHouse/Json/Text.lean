import ClearingHouse.Text.Numeral

/-!
# Writing JSON

Texts are written without any spaces.  Inside a string only the quote, the
backslash and the control characters below U+0020 are escaped; every other
character stands for itself.
-/

namespace ClearingHouse.Json

def escaped (character : Char) : List Char :=
  if character = '"' then ['\\', '"']
  else if character = '\\' then ['\\', '\\']
  else if character = '\x08' then ['\\', 'b']
  else if character = '\t' then ['\\', 't']
  else if character = '\n' then ['\\', 'n']
  else if character = '\x0c' then ['\\', 'f']
  else if character = '\r' then ['\\', 'r']
  else if character.toNat < 0x20 then
    ['\\', 'u', '0', '0', Text.hexDigit (character.toNat / 16),
      Text.hexDigit (character.toNat % 16)]
  else [character]

def escapedText : List Char → List Char
  | [] => []
  | character :: rest => escaped character ++ escapedText rest

def string (text : String) : List Char :=
  '"' :: escapedText text.toList ++ ['"']

def natural (number : Nat) : List Char := Text.digits number

def integer : Int → List Char
  | .ofNat number => natural number
  | .negSucc number => '-' :: natural (number + 1)

/-- The members of an object, each after a comma. -/
def furtherMembers : List (String × List Char) → List Char
  | [] => []
  | (name, value) :: rest =>
      ',' :: string name ++ ':' :: value ++ furtherMembers rest

def object : List (String × List Char) → List Char
  | [] => ['{', '}']
  | (name, value) :: rest =>
      '{' :: string name ++ ':' :: value ++ furtherMembers rest ++ ['}']

end ClearingHouse.Json
