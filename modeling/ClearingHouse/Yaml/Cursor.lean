import ClearingHouse.Text.Numeral

/-!
# Places in a YAML text

A cursor stands before a character of a text, and knows the line and the column.
There are five line breaks; all but the last two of them count as one and the
same.
-/

namespace ClearingHouse.Yaml

def isBreak (character : Char) : Bool :=
  character = '\n' || character = '\r' || character = '\x85' ||
    character = '\u2028' || character = '\u2029'

/-- Whether a character is a space or a tab. -/
def isBlank (character : Char) : Bool := character = ' ' || character = '\t'

/-- Whether there is a space, a tab, a line break or nothing at all. -/
def endsWord : Option Char → Bool
  | none => true
  | some character => isBlank character || isBreak character

/-- Whether there is a line break or nothing at all. -/
def endsLine : Option Char → Bool
  | none => true
  | some character => isBreak character

def isAllowed (character : Char) : Bool :=
  let code := character.toNat
  code == 0x09 || code == 0x0A || code == 0x0D ||
    (0x20 ≤ code && code ≤ 0x7E) || code == 0x85 ||
    (0xA0 ≤ code && code ≤ 0xFFFD) || 0x10000 ≤ code

structure Cursor where
  rest : List Char
  /-- The number of characters before the place. -/
  index : Nat := 0
  line : Nat := 0
  /-- The number of characters before the place in its line. -/
  column : Nat := 0

namespace Cursor

def peek (cursor : Cursor) : Option Char := cursor.rest.head?

def peekAt (cursor : Cursor) (offset : Nat) : Option Char :=
  cursor.rest[offset]?

/-- The place behind the next character, which is no line break. -/
def step (cursor : Cursor) : Cursor :=
  { cursor with
    rest := cursor.rest.tail
    index := cursor.index + 1
    column := cursor.column + 1 }

/-- The place some characters further on, none of which is a line break. -/
def steps : Nat → Cursor → Cursor
  | 0, cursor => cursor
  | count + 1, cursor => steps count cursor.step

/-- The line break behind the place, as it counts, and the place behind it. -/
def takeBreak (cursor : Cursor) : List Char × Cursor :=
  let below (length : Nat) : Cursor :=
    { rest := cursor.rest.drop length
      index := cursor.index + length
      line := cursor.line + 1
      column := 0 }
  match cursor.rest with
  | '\r' :: '\n' :: _ => (['\n'], below 2)
  | character :: _ =>
      if character = '\u2028' ∨ character = '\u2029' then ([character], below 1)
      else if isBreak character then (['\n'], below 1)
      else ([], cursor)
  | [] => ([], cursor)

/-- The longest run of characters that satisfy a test and are no line breaks, and
the place behind it. -/
def takeRun (cursor : Cursor) (test : Char → Bool) : List Char × Cursor :=
  let run := cursor.rest.takeWhile fun character =>
    test character && !isBreak character
  (run, cursor.steps run.length)

/-- The place behind a mark of the byte order, if one starts the line here. -/
def skipByteOrder (cursor : Cursor) : Cursor :=
  if cursor.column = 0 ∧ cursor.peek = some '\uFEFF' then cursor.step else cursor

def skipBlanks (cursor : Cursor) : Cursor := (cursor.takeRun isBlank).2

/-- The place at the end of the line, if there is a comment before it. -/
def skipComment (cursor : Cursor) : Cursor :=
  if cursor.peek = some '#' then (cursor.takeRun fun _ => true).2 else cursor

/-- Whether a line starts here with three times the same character, alone. -/
def isMarker (cursor : Cursor) (character : Char) : Bool :=
  cursor.column == 0 && cursor.rest.take 3 == [character, character, character] &&
    endsWord (cursor.peekAt 3)

/-- Whether a document starts or ends here with a marker of its own. -/
def isDocumentMarker (cursor : Cursor) : Bool :=
  cursor.isMarker '-' || cursor.isMarker '.'

end Cursor

end ClearingHouse.Yaml
