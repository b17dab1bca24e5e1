import ClearingHouse.Http.Domain.Direction
import ClearingHouse.Http.Domain.Folding
import ClearingHouse.Http.Domain.Joining
import ClearingHouse.Text.Composition
import ClearingHouse.Text.Punycode

/-!
# Labels

The name of a host is made of labels with points between them.  A label that has
other characters than Latin ones is written with Latin ones alone, behind a mark.
-/

namespace ClearingHouse.Http

open Text.Punycode (isLatin)

structure Label where
  /-- The characters that it stands for. -/
  shown : List Char
  /-- The characters that it is written with. -/
  written : List Char

namespace Label

/-- What stands in front of a label that is written with other characters than it
stands for. -/
def sign : List Char := "xn--".toList

/-- The longest text that is written with Latin characters. -/
def longestShown : Nat := 1000

/-- The longest text that is read behind the sign. -/
def longestWritten : Nat := 2000

/-- The label that is written with a text behind the sign.  It needs the sign: it
stands for a text in its standard form that has not Latin characters alone. -/
def ofWritten? (text : List Char) : Option Label :=
  if longestWritten < text.length then none
  else
    match Text.Punycode.decode? text with
    | none => none
    | some shown =>
        if shown.all isLatin || !shown.all Folding.isFolded ||
            Text.composed shown != shown || sign.isPrefixOf shown then none
        else some ⟨shown, sign ++ text⟩

def ofShown? (text : List Char) : Option Label :=
  if text.all isLatin then some ⟨text, text⟩
  else if longestShown < text.length then none
  else some ⟨text, sign ++ Text.Punycode.encode text⟩

/-- The label that a text stands for, whether it is written behind the sign or
not. -/
def parse? (text : List Char) : Option Label :=
  if sign.isPrefixOf text then
    if text.all isLatin then ofWritten? (text.drop sign.length) else none
  else ofShown? text

def directions (label : Label) : List Direction := label.shown.map .ofChar

/-- Whether the characters of a label may stand together: it does not begin with a
mark, and its joiners make a difference. -/
def isJoint (label : Label) : Bool :=
  !label.shown.head?.any Text.isMark && Joining.allFit label.shown

end Label

end ClearingHouse.Http
