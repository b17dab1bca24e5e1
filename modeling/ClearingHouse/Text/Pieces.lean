/-!
# Pieces of a text

A text is cut at every place where one character stands.  There is one piece more
than there are such places, so an empty text has one empty piece.
-/

namespace ClearingHouse.Text

/-- The pieces of a text between the places where a character stands; `piece`
holds the characters of the one under way, last one first. -/
def cutFrom (divider : Char) (piece : List Char) : List Char → List (List Char)
  | [] => [piece.reverse]
  | character :: rest =>
      if character = divider then piece.reverse :: cutFrom divider [] rest
      else cutFrom divider (character :: piece) rest

/-- The pieces of a text between the places where a character stands. -/
def cut (divider : Char) (text : List Char) : List (List Char) :=
  cutFrom divider [] text

end ClearingHouse.Text
