import ClearingHouse.Http.Domain
import ClearingHouse.Http.Path
import ClearingHouse.Text.Numeral
import ClearingHouse.Text.Pieces

/-!
# Hosts

A host is given by a name or by a number: four bytes, or eight pieces of sixteen
bits.  A number of four bytes has many spellings, which all stand for the usual
one; any name whose last part looks like a number has to be one of them.
-/

namespace ClearingHouse.Http

inductive Host where
  | name (text : List Char)
  /-- A number of four bytes. -/
  | short (address : Nat)
  /-- A number of eight pieces. -/
  | long (pieces : List Nat)
  deriving DecidableEq

namespace Host

/-! ## Numbers of four bytes -/

/-- A part of a number: in decimal digits, in octal ones behind a zero, or in
hexadecimal ones behind a mark, where none at all stand for zero. -/
def part? : List Char → Option Nat
  | '0' :: 'x' :: digits | '0' :: 'X' :: digits =>
      if digits.isEmpty then some 0 else Text.valueToBase? 16 digits
  | '0' :: digit :: digits => Text.valueToBase? 8 (digit :: digits)
  | digits => Text.valueToBase? 10 digits

/-- The number that parts make up.  The last one fills all bytes that the others
leave. -/
def ofParts? (parts : List Nat) : Option Nat :=
  match parts.reverse with
  | [] => none
  | last :: others =>
      let heads := others.reverse
      if heads.length ≤ 3 ∧ heads.all (· < 256) ∧ last < 256 ^ (4 - heads.length) then
        some (heads.foldl (fun value head => value * 256 + head) 0 *
          256 ^ (4 - heads.length) + last)
      else none

/-- The parts of a name.  An empty one at the end does not count. -/
def parts (name : List Char) : List (List Char) :=
  let all := Text.cut '.' name
  if all.getLast? = some [] ∧ all.length > 1 then all.dropLast else all

def endsInNumber (name : List Char) : Bool :=
  match (parts name).getLast? with
  | none => false
  | some last =>
      (!last.isEmpty && last.all Char.isDigit) || (part? last).isSome

def ofName? (name : List Char) : Option Host :=
  if name.isEmpty then none
  else if endsInNumber name then
    ((parts name).mapM part?).bind fun parts => (ofParts? parts).map .short
  else some (.name name)

/-! ## Numbers of eight pieces -/

/-- A piece: four hexadecimal digits at most. -/
def piece? (text : List Char) : Option Nat :=
  if text.length ≤ 4 then Text.valueToBase? 16 text else none

/-- A byte in decimal digits without leading zeros. -/
def byte? (text : List Char) : Option Nat :=
  match text with
  | '0' :: _ :: _ => none
  | _ => if text.length ≤ 3 then (Text.value? text).filter (· < 256) else none

def bytePieces? (text : List Char) : Option (List Nat) :=
  match (Text.cut '.' text).mapM byte? with
  | some [first, second, third, fourth] =>
      some [first * 256 + second, third * 256 + fourth]
  | _ => none

/-- The pieces of one side of the number.  The last two may be given as bytes if
`isEnd` holds. -/
def pieces? (isEnd : Bool) (text : List Char) : Option (List Nat) :=
  if text.isEmpty then some []
  else
    let texts := Text.cut ':' text
    let last := texts.getLastD []
    if isEnd && last.contains '.' then do
      let before ← texts.dropLast.mapM piece?
      some (before ++ (← bytePieces? last))
    else texts.mapM piece?

def cutAtPair (before : List Char) : List Char → Option (List Char × List Char)
  | ':' :: ':' :: rest => some (before.reverse, rest)
  | character :: rest => cutAtPair (character :: before) rest
  | [] => none

/-- The host that a text in square brackets stands for.  A pair of colons stands
for as many zeros as are missing. -/
def ofBrackets? (text : List Char) : Option Host :=
  match cutAtPair [] text with
  | none => do
      let pieces ← pieces? true text
      if pieces.length = 8 then some (.long pieces) else none
  | some (before, behind) => do
      let start ← pieces? false before
      let rest ← pieces? true behind
      let count := start.length + rest.length
      if count ≤ 7 then
        some (.long (start ++ List.replicate (8 - count) 0 ++ rest))
      else none

/-! ## Reading -/

/-- Whether a character is a control character or not Latin, so that it may stand
nowhere in an address. -/
def isForeign (character : Char) : Bool :=
  character.toNat < 0x20 || 0x7E < character.toNat

/-- Whether a character may not stand in a name that is taken as it is. -/
def isBarred (character : Char) : Bool :=
  "\x00\t\n\r #/:<>?@[\\]^|".toList.contains character

def inBrackets? (text : List Char) : Option (List Char) :=
  match text.getLast? with
  | some ']' => some (text.tail.dropLast)
  | _ => none

/-- Read a host.  Names of hosts for the schemes that have them are put into
their standard form, and other names are taken as they are. -/
def parse? (isSpecial : Bool) (text : List Char) : Option Host :=
  if text.head? = some '[' then (inBrackets? text).bind ofBrackets?
  else if isSpecial then (domain? (segmentBytes text)).bind ofName?
  else if text.any isBarred then none
  else some (.name (percentEncoded isForeign text))

/-! ## Writing -/

def shortText (address : Nat) : List Char :=
  let byte (index : Nat) := Text.digits (address / 256 ^ index % 256)
  byte 3 ++ '.' :: byte 2 ++ '.' :: byte 1 ++ '.' :: byte 0

/-- The length of the run of zeros at the start of some pieces. -/
def zeroRun (pieces : List Nat) : Nat := (pieces.takeWhile (· == 0)).length

/-- The place and the length of the longest run of zeros, the first one of
several; `place` is that of the first piece. -/
def longestRun (place : Nat) : List Nat → Nat × Nat
  | [] => (place, 0)
  | piece :: rest =>
      let here := zeroRun (piece :: rest)
      let later := longestRun (place + 1) rest
      if here < later.2 then later else (place, here)

/-- Pieces as they are written, with colons between them. -/
def piecesText (pieces : List Nat) : List Char :=
  (pieces.map (Nat.toDigits 16)).intersperse [':'] |>.flatten

/-- A number of eight pieces as it is written.  The longest run of two or more
zeros is left out between two colons. -/
def longText (pieces : List Nat) : List Char :=
  let (place, length) := longestRun 0 pieces
  if length < 2 then piecesText pieces
  else
    piecesText (pieces.take place) ++ "::".toList ++
      piecesText (pieces.drop (place + length))

def written : Host → List Char
  | .name text => text
  | .short address => shortText address
  | .long pieces => '[' :: longText pieces ++ [']']

end Host

end ClearingHouse.Http
