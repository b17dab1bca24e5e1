/-!
# Base 64 for addresses

Three bytes are written as four letters out of an alphabet of sixty-four; one
or two bytes that are left over take two or three letters, without padding.
Reading accepts exactly what writing produces.
-/

namespace ClearingHouse.Signature.Base64Url

def letter (value : Nat) : Char :=
  if value < 26 then Char.ofNat ('A'.toNat + value)
  else if value < 52 then Char.ofNat ('a'.toNat + (value - 26))
  else if value < 62 then Char.ofNat ('0'.toNat + (value - 52))
  else if value = 62 then '-'
  else '_'

def value? (character : Char) : Option Nat :=
  if 'A' ≤ character ∧ character ≤ 'Z' then
    some (character.toNat - 'A'.toNat)
  else if 'a' ≤ character ∧ character ≤ 'z' then
    some (character.toNat - 'a'.toNat + 26)
  else if '0' ≤ character ∧ character ≤ '9' then
    some (character.toNat - '0'.toNat + 52)
  else if character = '-' then some 62
  else if character = '_' then some 63
  else none

def encode : List UInt8 → List Char
  | [] => []
  | [first] =>
      [letter (first.toNat / 4), letter (first.toNat % 4 * 16)]
  | [first, second] =>
      [letter (first.toNat / 4),
        letter (first.toNat % 4 * 16 + second.toNat / 16),
        letter (second.toNat % 16 * 4)]
  | first :: second :: third :: rest =>
      letter (first.toNat / 4) ::
        letter (first.toNat % 4 * 16 + second.toNat / 16) ::
        letter (second.toNat % 16 * 4 + third.toNat / 64) ::
        letter (third.toNat % 64) :: encode rest

/-- The bytes that a text of letters stands for.  Bits that are left over have
to be zero. -/
def decode? : List Char → Option (List UInt8)
  | [] => some []
  | [_] => none
  | [first, second] => do
      let a ← value? first
      let b ← value? second
      if b % 16 = 0 then some [UInt8.ofNat (a * 4 + b / 16)] else none
  | [first, second, third] => do
      let a ← value? first
      let b ← value? second
      let c ← value? third
      if c % 4 = 0 then
        some [UInt8.ofNat (a * 4 + b / 16), UInt8.ofNat (b % 16 * 16 + c / 4)]
      else none
  | first :: second :: third :: fourth :: rest => do
      let a ← value? first
      let b ← value? second
      let c ← value? third
      let d ← value? fourth
      let bytes ← decode? rest
      some (UInt8.ofNat (a * 4 + b / 16) :: UInt8.ofNat (b % 16 * 16 + c / 4) ::
        UInt8.ofNat (c % 4 * 64 + d) :: bytes)

end ClearingHouse.Signature.Base64Url
