import ClearingHouse.Text.Unshown

/-!
# Quoted texts

A text inside a message is put in quotes.  The quote, the backslash and the
common controls are written behind a backslash, and other characters that are
not shown are written by number, in hexadecimal without padding.
-/

namespace ClearingHouse.Text

def quotedCharacter (character : Char) : List Char :=
  if character = '"' then ['\\', '"']
  else if character = '\\' then ['\\', '\\']
  else if character = '\n' then ['\\', 'n']
  else if character = '\r' then ['\\', 'r']
  else if character = '\t' then ['\\', 't']
  else if character = '\x00' then ['\\', '0']
  else if isUnshown character then
    '\\' :: 'u' :: '\x7b' :: Nat.toDigits 16 character.toNat ++ ['\x7d']
  else [character]

def quoted (text : String) : String :=
  String.ofList ('"' :: text.toList.flatMap quotedCharacter ++ ['"'])

end ClearingHouse.Text
