import ClearingHouse.Http.Domain.Label

/-!
# Names of hosts

A name is put into its standard form: folded, composed, and with its labels
written in Latin characters alone.  If one label is written to the left, every
label has to have one direction.
-/

namespace ClearingHouse.Http

def isBarredInDomain (character : Char) : Bool :=
  character.toNat ≤ 0x20 || character.toNat = 0x7F ||
    "%#/:<>?@[\\]^|".toList.contains character

def labels? (name : List Char) : Option (List Label) := do
  let folded ← name.mapM Folding.folded?
  let labels ← (Text.cut '.' (Text.composed folded.flatten)).mapM Label.parse?
  let directions := labels.map Label.directions
  if labels.all Label.isJoint &&
      (!directions.any Direction.turnsLeft || directions.all Direction.isUniform) then
    some labels
  else none

/-- Whether a name has Latin characters alone, and no label with the sign for
others. -/
def isPlainDomain (name : List Char) : Bool :=
  name.all Text.Punycode.isLatin &&
    (Text.cut '.' (name.map Char.toLower)).all (!Label.sign.isPrefixOf ·)

/-- The standard form of a name, whichever characters it has.  A plain name is
only put in lower case. -/
def standardDomain? (name : List Char) : Option (List Char) :=
  if isPlainDomain name then some (name.map Char.toLower)
  else
    (labels? name).map fun labels =>
      ((labels.map Label.written).intersperse ['.']).flatten

/-- The standard form of the name of a host that is given by its bytes. -/
def domain? (bytes : List UInt8) : Option (List Char) := do
  let text ← String.fromUTF8? ⟨bytes.toArray⟩
  let name ← standardDomain? text.toList
  if name.any isBarredInDomain then none else some name

end ClearingHouse.Http
