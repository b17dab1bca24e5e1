import ClearingHouse.Text.Numeral
import ClearingHouse.Text.Pieces

/-!
# Paths

A path is divided into segments by slashes.  Inside a segment a byte can be
given by number, behind a percent sign.
-/

namespace ClearingHouse.Http

/-- The segments of a path, beginning with the empty one before its first slash. -/
def segments (path : List Char) : List (List Char) := Text.cut '/' path

def utf8 (character : Char) : List UInt8 :=
  (String.singleton character).toUTF8.data.toList

/-- A byte by number. -/
def percentByte (byte : UInt8) : List Char :=
  ['%', (Text.hexDigit (byte.toNat / 16)).toUpper,
    (Text.hexDigit (byte.toNat % 16)).toUpper]

/-- A text with some of its characters written as bytes by number. -/
def percentEncoded (isEncoded : Char → Bool) (text : List Char) : List Char :=
  text.flatMap fun character =>
    if isEncoded character then (utf8 character).flatMap percentByte
    else [character]

/-- The bytes of a segment.  A percent sign without two digits behind it stands
for itself. -/
def segmentBytes : List Char → List UInt8
  | [] => []
  | [first] => utf8 first
  | [first, second] => utf8 first ++ utf8 second
  | first :: second :: third :: rest =>
      if first = '%' then
        match Text.hexValue? second, Text.hexValue? third with
        | some high, some low => UInt8.ofNat (high * 16 + low) :: segmentBytes rest
        | _, _ => utf8 first ++ segmentBytes (second :: third :: rest)
      else utf8 first ++ segmentBytes (second :: third :: rest)

/-- The text that a segment stands for, if its bytes are a text. -/
def segmentText? (segment : List Char) : Option String :=
  String.fromUTF8? ⟨(segmentBytes segment).toArray⟩

end ClearingHouse.Http
