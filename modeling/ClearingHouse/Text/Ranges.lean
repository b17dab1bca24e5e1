/-!
# Ranges of characters

A set of characters is kept as closed ranges of their numbers.
-/

namespace ClearingHouse.Text

def isWithin (ranges : List (Nat × Nat)) (character : Char) : Bool :=
  ranges.any fun range =>
    range.1 ≤ character.toNat && character.toNat ≤ range.2

end ClearingHouse.Text
