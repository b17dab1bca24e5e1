import ClearingHouse.Yaml.Cursor

/-!
# Scalars of YAML

A scalar is a piece of text.  It stands plain, between single or double quotes,
or as a block of lines.  Lines are folded: a single line break counts as a
space, and further ones stand for themselves.
-/

namespace ClearingHouse.Yaml

/-- Blank characters and line breaks that have been passed over, and are joined
once it is known what follows. -/
structure Gap where
  /-- The blank characters of the first line, last one first. -/
  blanks : List Char := []
  first : List Char := []
  further : List Char := []
  /-- Whether a line has ended. -/
  isFolded : Bool := false

namespace Gap

def folded (gap : Gap) : List Char :=
  match gap.first with
  | '\n' :: _ => if gap.further.isEmpty then [' '] else gap.further
  | first => first ++ gap.further

/-- What a gap counts as. -/
def joined (gap : Gap) : List Char :=
  if gap.isFolded then gap.folded else gap.blanks.reverse

def isEmpty (gap : Gap) : Bool := !gap.isFolded && gap.blanks.isEmpty

/-- Pass over blank characters and line breaks.  Before the column `indent` of a
further line no tab may stand. -/
def scan (indent : Nat) : Nat → Gap → Cursor → Option (Gap × Cursor)
  | 0, gap, cursor => some (gap, cursor)
  | fuel + 1, gap, cursor =>
      match cursor.peek with
      | none => some (gap, cursor)
      | some character =>
          if isBlank character then
            if gap.isFolded && cursor.column < indent && character == '\t' then none
            else if gap.isFolded then scan indent fuel gap cursor.step
            else
              scan indent fuel { gap with blanks := character :: gap.blanks }
                cursor.step
          else if isBreak character then
            let (read, below) := cursor.takeBreak
            if gap.isFolded then
              scan indent fuel { gap with further := gap.further ++ read } below
            else
              scan indent fuel { first := read, isFolded := true } below
          else some (gap, cursor)

def take (indent : Nat) (cursor : Cursor) : Option (Gap × Cursor) :=
  scan indent (cursor.rest.length + 1) {} cursor

end Gap

/-! ## Plain scalars -/

/-- Whether a character is one of those that structure flow collections. -/
def isFlowMark (character : Char) : Bool :=
  character = ',' || character = '[' || character = ']' || character = '\x7b' ||
    character = '\x7d'

/-- Whether a plain scalar ends before the next character.  Inside a flow
collection a colon before a mark is refused. -/
def plainEnds (inFlow : Bool) (cursor : Cursor) : Option Bool :=
  match cursor.peek with
  | none => some true
  | some character =>
      if isBlank character || isBreak character then some true
      else if character = ':' then
        match cursor.peekAt 1 with
        | some next =>
            if inFlow && (isFlowMark next || next == '?') then none
            else some (isBlank next || isBreak next)
        | none => some true
      else some (inFlow && isFlowMark character)

/-- Take a word of a plain scalar; `word` holds its characters so far, last one
first. -/
def plainWord (inFlow : Bool) : Nat → List Char → Cursor →
    Option (List Char × Cursor)
  | 0, word, cursor => some (word.reverse, cursor)
  | fuel + 1, word, cursor => do
      if ← plainEnds inFlow cursor then some (word.reverse, cursor)
      else
        match cursor.peek with
        | none => some (word.reverse, cursor)
        | some character => plainWord inFlow fuel (character :: word) cursor.step

structure PlainScan where
  text : List Char
  cursor : Cursor
  /-- Whether the scalar was ended by the start of a line. -/
  endsAtLine : Bool

def plainFrom (inFlow : Bool) (indent : Nat) : Nat → List Char → Gap → Cursor →
    Option PlainScan
  | 0, text, gap, cursor => some ⟨text, cursor, gap.isFolded⟩
  | fuel + 1, text, gap, cursor =>
      if cursor.isDocumentMarker || cursor.peek == some '#' then
        some ⟨text, cursor, gap.isFolded⟩
      else do
        let (word, behind) ← plainWord inFlow (cursor.rest.length + 1) [] cursor
        let (joined, open_) :=
          if word.isEmpty then (text, gap) else (text ++ gap.joined ++ word, {})
        match behind.peek with
        | none => some ⟨joined, behind, open_.isFolded⟩
        | some next =>
            if isBlank next || isBreak next then do
              let (later, cursor) ← Gap.take indent behind
              if !inFlow && cursor.column < indent then
                some ⟨joined, cursor, later.isFolded⟩
              else plainFrom inFlow indent fuel joined later cursor
            else some ⟨joined, behind, open_.isFolded⟩

/-- Take a plain scalar.  Its further lines have to be indented. -/
def plainScalar (inFlow : Bool) (indent : Nat) (cursor : Cursor) :
    Option PlainScan :=
  plainFrom inFlow indent (cursor.rest.length + 1) [] {} cursor

/-! ## Quoted scalars -/

/-- The character that an escape of one letter stands for. -/
def escaped? (letter : Char) : Option Char :=
  if letter = '0' then some '\x00'
  else if letter = 'a' then some '\x07'
  else if letter = 'b' then some '\x08'
  else if letter = 't' ∨ letter = '\t' then some '\t'
  else if letter = 'n' then some '\n'
  else if letter = 'v' then some '\x0b'
  else if letter = 'f' then some '\x0c'
  else if letter = 'r' then some '\r'
  else if letter = 'e' then some '\x1b'
  else if letter = ' ' then some ' '
  else if letter = '"' then some '"'
  else if letter = '/' then some '/'
  else if letter = '\\' then some '\\'
  else if letter = 'N' then some '\x85'
  else if letter = '_' then some '\xa0'
  else if letter = 'L' then some '\u2028'
  else if letter = 'P' then some '\u2029'
  else none

/-- How many digits follow the letter of an escape by number. -/
def escapeLength? (letter : Char) : Option Nat :=
  if letter = 'x' then some 2
  else if letter = 'u' then some 4
  else if letter = 'U' then some 8
  else none

def hexFrom? (value : Nat) : List Char → Option Nat
  | [] => some value
  | digit :: rest => do
      let next ← Text.hexValue? digit
      hexFrom? (value * 16 + next) rest

/-- Take an escape behind its backslash. -/
def escape? (cursor : Cursor) : Option (Char × Cursor) := do
  let letter ← cursor.peek
  match escapeLength? letter with
  | some length =>
      let digits := cursor.step.rest.take length
      if digits.length < length then none
      else do
        let value ← hexFrom? 0 digits
        if value.isValidChar then
          some (Char.ofNat value, cursor.steps (length + 1))
        else none
  | none => do
      let character ← escaped? letter
      some (character, cursor.step)

/-- Take characters of a quoted scalar up to a gap or the closing quote; `word`
holds those taken so far, last one first.  The answer also tells whether a
backslash before a line break has ended the word. -/
def quotedWord (single : Bool) : Nat → List Char → Cursor →
    Option (List Char × Bool × Cursor)
  | 0, word, cursor => some (word.reverse, false, cursor)
  | fuel + 1, word, cursor =>
      match cursor.peek with
      | none => some (word.reverse, false, cursor)
      | some character =>
          if isBlank character || isBreak character then
            some (word.reverse, false, cursor)
          else if single then
            if character = '\'' then
              if cursor.peekAt 1 = some '\'' then
                quotedWord single fuel ('\'' :: word) (cursor.steps 2)
              else some (word.reverse, false, cursor)
            else quotedWord single fuel (character :: word) cursor.step
          else if character = '"' then some (word.reverse, false, cursor)
          else if character = '\\' then
            match cursor.peekAt 1 with
            | none => none
            | some next =>
                if isBreak next then
                  some (word.reverse, true, cursor.step.takeBreak.2)
                else do
                  let (meant, behind) ← escape? cursor.step
                  quotedWord single fuel (meant :: word) behind
          else quotedWord single fuel (character :: word) cursor.step

def quotedFrom (single : Bool) : Nat → List Char → Cursor →
    Option (List Char × Cursor)
  | 0, _, _ => none
  | fuel + 1, text, cursor =>
      if cursor.isDocumentMarker then none
      else do
        let (word, isContinued, behind) ←
          quotedWord single (cursor.rest.length + 1) [] cursor
        let longer := text ++ word
        match behind.peek with
        | none => none
        | some next =>
            if next == (if single then '\'' else '"') then
              some (longer, behind.step)
            else do
              let start : Gap := { isFolded := isContinued }
              let (gap, cursor) ← Gap.scan 0 (behind.rest.length + 1) start behind
              quotedFrom single fuel (longer ++ gap.joined) cursor

def quotedScalar (single : Bool) (cursor : Cursor) : Option (List Char × Cursor) :=
  quotedFrom single (cursor.rest.length + 1) [] cursor.step

/-! ## Block scalars -/

/-- What becomes of the line breaks at the end of a block. -/
inductive Chomping where
  /-- The last line break is dropped too. -/
  | strip
  /-- One line break is kept. -/
  | clip
  /-- All line breaks are kept. -/
  | keep
  deriving DecidableEq

/-- The first line of a block: what becomes of its end, and by how much it is
indented, if that is given. -/
structure BlockHeader where
  chomping : Chomping := .clip
  increment : Option Nat := none

def takeChomping (cursor : Cursor) : Option Chomping × Cursor :=
  match cursor.peek with
  | some '+' => (some .keep, cursor.step)
  | some '-' => (some .strip, cursor.step)
  | _ => (none, cursor)

def takeIncrement (cursor : Cursor) : Option (Option Nat × Cursor) :=
  match cursor.peek.bind Text.digitValue? with
  | some 0 => none
  | some digit => some (some digit, cursor.step)
  | none => some (none, cursor)

/-- Take the first line of a block, behind its indicator. -/
def blockHeader (cursor : Cursor) : Option (BlockHeader × Cursor) := do
  let (early, cursor) := takeChomping cursor
  let (increment, cursor) ← takeIncrement cursor
  let (late, cursor) :=
    match early with
    | some _ => (none, cursor)
    | none => takeChomping cursor
  let cursor := cursor.skipBlanks.skipComment
  if endsLine cursor.peek then
    some (⟨(early.or late).getD .clip, increment⟩, cursor.takeBreak.2)
  else none

/-- Pass over the empty lines of a block and the indentation of the next line.
Where the indentation is not known it is that of the deepest line passed over. -/
def blockBreaks (outer : Int) : Nat → Option Nat → Nat → List Char → Cursor →
    Option (Nat × List Char × Cursor)
  | 0, indent, deepest, breaks, cursor =>
      some (indent.getD (max deepest (max (outer + 1).toNat 1)), breaks, cursor)
  | fuel + 1, indent, deepest, breaks, cursor =>
      let isShort (column : Nat) : Bool :=
        match indent with
        | some limit => column < limit
        | none => true
      let spaces := (cursor.rest.takeWhile fun character => character == ' ').length
      let room :=
        match indent with
        | some limit => min spaces (limit - cursor.column)
        | none => spaces
      let moved := cursor.steps room
      let deeper := max deepest moved.column
      if isShort moved.column && moved.peek == some '\t' then none
      else
        match moved.peek with
        | some character =>
            if isBreak character then
              let (read, below) := moved.takeBreak
              blockBreaks outer fuel indent deeper (breaks ++ read) below
            else
              some (indent.getD (max deeper (max (outer + 1).toNat 1)), breaks, moved)
        | none =>
            some (indent.getD (max deeper (max (outer + 1).toNat 1)), breaks, moved)

structure BlockScan where
  text : List Char := []
  /-- The line break at the end of the last line. -/
  lastBreak : List Char := []
  /-- The line breaks of the empty lines behind it. -/
  breaks : List Char := []
  startsBlank : Bool := false

def blockLines (folded : Bool) (indent : Nat) : Nat → BlockScan → Cursor →
    Option (BlockScan × Cursor)
  | 0, scan, cursor => some (scan, cursor)
  | fuel + 1, scan, cursor =>
      match cursor.peek with
      | none => some (scan, cursor)
      | some first =>
          if cursor.column ≠ indent then some (scan, cursor)
          else do
            let joins := folded && scan.lastBreak.head? == some '\n' &&
              !scan.startsBlank && !isBlank first
            let opening :=
              if joins then (if scan.breaks.isEmpty then [' '] else [])
              else scan.lastBreak
            let (line, behind) := cursor.takeRun fun _ => true
            let (lastBreak, below) := behind.takeBreak
            let (_, breaks, next) ←
              blockBreaks 0 (below.rest.length + 1) (some indent) 0 [] below
            blockLines folded indent fuel
              ⟨scan.text ++ opening ++ scan.breaks ++ line, lastBreak, breaks,
                isBlank first⟩ next

/-- Take a block scalar, whose indicator comes next, inside a collection that is
indented by `outer`. -/
def blockScalar (folded : Bool) (outer : Int) (cursor : Cursor) :
    Option (List Char × Cursor) := do
  let (header, below) ← blockHeader cursor.step
  let given := header.increment.map fun increment =>
    if 0 ≤ outer then outer.toNat + increment else increment
  let (indent, breaks, start) ←
    blockBreaks outer (below.rest.length + 1) given 0 [] below
  let (scan, behind) ←
    blockLines folded indent (start.rest.length + 1) { breaks := breaks } start
  let ending :=
    match header.chomping with
    | .strip => []
    | .clip => scan.lastBreak
    | .keep => scan.lastBreak ++ scan.breaks
  some (scan.text ++ ending, behind)

end ClearingHouse.Yaml
