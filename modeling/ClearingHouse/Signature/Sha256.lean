import ClearingHouse.Power

/-!
# The digest SHA-256

A message is padded to blocks of sixty-four bytes.  Every block is spread over
sixty-four words and mixed into a state of eight words, which at the end are
the thirty-two bytes of the digest.
-/

namespace ClearingHouse.Signature.Sha256

/-- The words that are added in the sixty-four rounds. -/
def roundWords : List UInt32 :=
  [0x428a2f98, 0x71374491, 0xb5c0fbcf, 0xe9b5dba5, 0x3956c25b, 0x59f111f1,
    0x923f82a4, 0xab1c5ed5, 0xd807aa98, 0x12835b01, 0x243185be, 0x550c7dc3,
    0x72be5d74, 0x80deb1fe, 0x9bdc06a7, 0xc19bf174, 0xe49b69c1, 0xefbe4786,
    0x0fc19dc6, 0x240ca1cc, 0x2de92c6f, 0x4a7484aa, 0x5cb0a9dc, 0x76f988da,
    0x983e5152, 0xa831c66d, 0xb00327c8, 0xbf597fc7, 0xc6e00bf3, 0xd5a79147,
    0x06ca6351, 0x14292967, 0x27b70a85, 0x2e1b2138, 0x4d2c6dfc, 0x53380d13,
    0x650a7354, 0x766a0abb, 0x81c2c92e, 0x92722c85, 0xa2bfe8a1, 0xa81a664b,
    0xc24b8b70, 0xc76c51a3, 0xd192e819, 0xd6990624, 0xf40e3585, 0x106aa070,
    0x19a4c116, 0x1e376c08, 0x2748774c, 0x34b0bcb5, 0x391c0cb3, 0x4ed8aa4a,
    0x5b9cca4f, 0x682e6ff3, 0x748f82ee, 0x78a5636f, 0x84c87814, 0x8cc70208,
    0x90befffa, 0xa4506ceb, 0xbef9a3f7, 0xc67178f2]

/-- The eight words that are mixed with the message. -/
structure State where
  a : UInt32
  b : UInt32
  c : UInt32
  d : UInt32
  e : UInt32
  f : UInt32
  g : UInt32
  h : UInt32

def start : State where
  a := 0x6a09e667
  b := 0xbb67ae85
  c := 0x3c6ef372
  d := 0xa54ff53a
  e := 0x510e527f
  f := 0x9b05688c
  g := 0x1f83d9ab
  h := 0x5be0cd19

/-- Turn a word to the right. -/
def rotate (word : UInt32) (places : UInt32) : UInt32 :=
  (word >>> places) ||| (word <<< (32 - places))

/-- Mix one word of the message into the state. -/
def round (state : State) (input : UInt32 × UInt32) : State :=
  let high := rotate state.e 6 ^^^ rotate state.e 11 ^^^ rotate state.e 25
  let choice := (state.e &&& state.f) ^^^ (~~~state.e &&& state.g)
  let first := state.h + high + choice + input.1 + input.2
  let low := rotate state.a 2 ^^^ rotate state.a 13 ^^^ rotate state.a 22
  let majority :=
    (state.a &&& state.b) ^^^ (state.a &&& state.c) ^^^ (state.b &&& state.c)
  { a := first + (low + majority)
    b := state.a
    c := state.b
    d := state.c
    e := state.d + first
    f := state.e
    g := state.f
    h := state.g }

/-- Prolong a list of words, given latest first, by further words. -/
def extend : Nat → List UInt32 → List UInt32
  | 0, words => words
  | count + 1, words =>
      let near := words.getD 14 0
      let far := words.getD 1 0
      let spreadNear := rotate near 7 ^^^ rotate near 18 ^^^ (near >>> 3)
      let spreadFar := rotate far 17 ^^^ rotate far 19 ^^^ (far >>> 10)
      extend count
        ((words.getD 15 0 + spreadNear + words.getD 6 0 + spreadFar) :: words)

/-- The words of a list of bytes, most significant byte first. -/
def wordsOf : List UInt8 → List UInt32
  | first :: second :: third :: fourth :: rest =>
      ((first.toUInt32 <<< 24) ||| (second.toUInt32 <<< 16) |||
        (third.toUInt32 <<< 8) ||| fourth.toUInt32) :: wordsOf rest
  | _ => []

def bytesOf (word : UInt32) : List UInt8 :=
  [(word >>> 24).toUInt8, (word >>> 16).toUInt8, (word >>> 8).toUInt8,
    word.toUInt8]

/-- Mix a block of sixteen words into the state. -/
def block (state : State) (words : List UInt32) : State :=
  let schedule := (extend 48 words.reverse).reverse
  let mixed := (roundWords.zip schedule).foldl round state
  { a := state.a + mixed.a
    b := state.b + mixed.b
    c := state.c + mixed.c
    d := state.d + mixed.d
    e := state.e + mixed.e
    f := state.f + mixed.f
    g := state.g + mixed.g
    h := state.h + mixed.h }

def blocks : Nat → State → List UInt32 → State
  | 0, state, _ => state
  | count + 1, state, words =>
      blocks count (block state (words.take 16)) (words.drop 16)

/-- The message with a mark behind it, zeros, and its length in bits. -/
def padded (message : List UInt8) : List UInt8 :=
  let length := message.length
  let zeros := (119 - length % 64) % 64
  message ++ 0x80 :: List.replicate zeros 0 ++
    bytesOf (UInt32.ofNat (length * 8 / 2 ^ 32)) ++
    bytesOf (UInt32.ofNat (length * 8))

def digest (message : List UInt8) : List UInt8 :=
  let words := wordsOf (padded message)
  let state := blocks (words.length / 16) start words
  bytesOf state.a ++ bytesOf state.b ++ bytesOf state.c ++ bytesOf state.d ++
    bytesOf state.e ++ bytesOf state.f ++ bytesOf state.g ++ bytesOf state.h

end ClearingHouse.Signature.Sha256
