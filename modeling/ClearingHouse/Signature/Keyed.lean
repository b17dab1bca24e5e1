import ClearingHouse.Signature.Sha256

/-!
# Keyed digests

The digest of a message under a secret key: the key is mixed into the message
twice, in two different ways.
-/

namespace ClearingHouse.Signature

def blockSize : Nat := 64

/-- The key, shortened to its digest if it is longer than a block, and filled up
with zeros. -/
def blockKey (key : List UInt8) : List UInt8 :=
  let short := if blockSize < key.length then Sha256.digest key else key
  short ++ List.replicate (blockSize - short.length) 0

def keyedDigest (key message : List UInt8) : List UInt8 :=
  let inner := (blockKey key).map (· ^^^ 0x36)
  let outer := (blockKey key).map (· ^^^ 0x5c)
  Sha256.digest (outer ++ Sha256.digest (inner ++ message))

end ClearingHouse.Signature
