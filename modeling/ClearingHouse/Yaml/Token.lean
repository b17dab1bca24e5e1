import ClearingHouse.Yaml.Scalar

/-!
# Tokens of YAML

A text is cut into tokens.  Indentation becomes tokens of its own: a deeper line
opens a collection, and a line further out closes one.  A key shows itself only
by the colon behind it, so that every token that could be a key is remembered
until its line ends, and the mark for a key is set in front of it later.
-/

namespace ClearingHouse.Yaml

inductive ScalarStyle where
  | plain
  | quoted
  | literal
  | folded
  deriving DecidableEq

inductive Token where
  | version (major minor : Nat)
  | tagHandle (handle start : List Char)
  | documentStart
  | documentEnd
  | blockSequence
  | blockMapping
  | blockEnd
  | flowSequence
  | flowSequenceEnd
  | flowMapping
  | flowMappingEnd
  | blockEntry
  | flowEntry
  | key
  | value
  | alias (name : List Char)
  | anchor (name : List Char)
  | tag (handle suffix : List Char)
  | scalar (text : List Char) (style : ScalarStyle)
  deriving DecidableEq

/-! ## Names, tags and directives -/

def isNameCharacter (character : Char) : Bool :=
  character.isAlphanum || character = '_' || character = '-'

/-- Take the name of an anchor or an alias, whose indicator comes next. -/
def anchorName (cursor : Cursor) : Option (List Char × Cursor) :=
  let (name, behind) := cursor.step.takeRun isNameCharacter
  let isEnded :=
    endsWord behind.peek ||
      behind.peek.any fun next => "?:,]\x7d%@\x60".toList.contains next
  if name.isEmpty || !isEnded then none else some (name, behind)

/-- Whether a character may occur in a tag; inside angle brackets more of them
may. -/
def isTagCharacter (verbatim : Bool) (character : Char) : Bool :=
  isNameCharacter character || ";/?:@&=+$.%!~*'()".toList.contains character ||
    (verbatim && ",[]".toList.contains character)

/-- Take bytes that are written as two hexadecimal digits after a percent sign. -/
def percentBytes : Nat → List UInt8 → Cursor → Option (List UInt8 × Cursor)
  | 0, bytes, cursor => some (bytes, cursor)
  | count + 1, bytes, cursor =>
      match cursor.rest with
      | '%' :: high :: low :: _ => do
          let value ← hexFrom? 0 [high, low]
          percentBytes count (bytes ++ [UInt8.ofNat value]) (cursor.steps 3)
      | _ => none

/-- How many bytes a character takes whose first byte is given. -/
def encodedLength? (first : UInt8) : Option Nat :=
  if first < 0x80 then some 1
  else if first &&& 0xE0 == 0xC0 then some 2
  else if first &&& 0xF0 == 0xE0 then some 3
  else if first &&& 0xF8 == 0xF0 then some 4
  else none

/-- Whether a byte may stand inside a character. -/
def isContinuation (byte : UInt8) : Bool := byte &&& 0xC0 == 0x80

/-- Take a character that is written as bytes in hexadecimal digits.  Since a
tag is only compared, its bytes are held as the characters with their numbers,
and only their number is checked. -/
def percentCharacter (cursor : Cursor) : Option (List Char × Cursor) := do
  let (first, _) ← percentBytes 1 [] cursor
  let length ← first.head?.bind encodedLength?
  let (bytes, behind) ← percentBytes length [] cursor
  if bytes.tail.all isContinuation then
    some (bytes.map fun byte => Char.ofNat byte.toNat, behind)
  else none

/-- A part of a tag as far as it counts: a zero byte ends it. -/
def counted (part : List Char) : List Char :=
  part.takeWhile fun character => character != '\x00'

def tagCharacters (verbatim : Bool) : Nat → List Char → Cursor →
    Option (List Char × Cursor)
  | 0, taken, cursor => some (taken, cursor)
  | fuel + 1, taken, cursor =>
      match cursor.peek with
      | none => some (taken, cursor)
      | some character =>
          if !isTagCharacter verbatim character then some (taken, cursor)
          else if character = '%' then do
            let (meant, behind) ← percentCharacter cursor
            tagCharacters verbatim fuel (taken ++ meant) behind
          else tagCharacters verbatim fuel (taken ++ [character]) cursor.step

/-- Take the handle of a tag: an exclamation mark, or a name between two. -/
def tagHandle (inDirective : Bool) (cursor : Cursor) : Option (List Char × Cursor) :=
  if cursor.peek = some '!' then
    let (name, behind) := cursor.step.takeRun isNameCharacter
    if behind.peek = some '!' then some ('!' :: name ++ ['!'], behind.step)
    else if inDirective && !name.isEmpty then none
    else some ('!' :: name, behind)
  else none

/-- Take a tag behind its handle, which may turn out to be part of it. -/
def tagSuffix (handle : List Char) (behind : Cursor) : Option (Token × Cursor) := do
  let isClosed := handle.length > 1 && handle.getLast? == some '!'
  let head := if isClosed then [] else handle.tail
  let (suffix, cursor) ←
    tagCharacters false (behind.rest.length + 1) head behind
  if isClosed then
    if suffix.isEmpty then none else some (.tag handle (counted suffix), cursor)
  else if (counted suffix).isEmpty then some (.tag [] ['!'], cursor)
  else some (.tag ['!'] (counted suffix), cursor)

def tagToken (inFlow : Bool) (cursor : Cursor) : Option (Token × Cursor) := do
  let (token, behind) ←
    if cursor.peekAt 1 = some '<' then do
      let start := cursor.steps 2
      let (suffix, behind) ← tagCharacters true (start.rest.length + 1) [] start
      if suffix.isEmpty || behind.peek != some '>' then none
      else some (Token.tag [] (counted suffix), behind.step)
    else do
      let (handle, behind) ← tagHandle false cursor
      tagSuffix handle behind
  if endsWord behind.peek || (inFlow && behind.peek == some ',') then
    some (token, behind)
  else none

/-- Take a number of a version, which has nine digits at most. -/
def versionNumber (cursor : Cursor) : Option (Nat × Cursor) := do
  let (digits, behind) := cursor.takeRun Char.isDigit
  let number ← Text.value? digits
  if digits.length > 9 then none else some (number, behind)

def versionToken (cursor : Cursor) : Option (Token × Cursor) := do
  let (major, behind) ← versionNumber cursor.skipBlanks
  if behind.peek = some '.' then do
    let (minor, behind) ← versionNumber behind.step
    some (.version major minor, behind)
  else none

/-- Take a handle and what it stands for, behind the name of their directive. -/
def tagHandleToken (cursor : Cursor) : Option (Token × Cursor) := do
  let (handle, behind) ← tagHandle true cursor.skipBlanks
  if behind.peek.any isBlank then do
    let start := behind.skipBlanks
    let (meant, behind) ← tagCharacters true (start.rest.length + 1) [] start
    if meant.isEmpty || !endsWord behind.peek then none
    else some (.tagHandle handle (counted meant), behind)
  else none

/-- Take a directive, whose percent sign comes next, with its whole line. -/
def directiveToken (cursor : Cursor) : Option (Token × Cursor) := do
  let (name, behind) := cursor.step.takeRun isNameCharacter
  let (token, behind) ←
    if !endsWord behind.peek then none
    else if name = "YAML".toList then versionToken behind
    else if name = "TAG".toList then tagHandleToken behind
    else none
  let behind := behind.skipBlanks.skipComment
  if endsLine behind.peek then some (token, behind.takeBreak.2) else none

/-! ## The state of the cutting -/

/-- A token that is a key if a colon follows. -/
structure PossibleKey where
  /-- Whether the token stands where only a key can stand. -/
  isRequired : Bool
  /-- The number of tokens before it. -/
  place : Nat
  cursor : Cursor

structure Cutting where
  cursor : Cursor
  tokens : List Token := []
  /-- The columns of the open block collections, innermost first. -/
  indents : List Nat := []
  /-- The token that may be a key, in the innermost flow collection. -/
  possible : Option PossibleKey := none
  /-- The same for the collections around it, innermost first. -/
  outer : List (Option PossibleKey) := []
  keyAllowed : Bool := true

namespace Cutting

def inFlow (cutting : Cutting) : Bool := !cutting.outer.isEmpty

/-- The column of the innermost block collection; −1 outside all of them. -/
def indent (cutting : Cutting) : Int :=
  match cutting.indents with
  | [] => -1
  | column :: _ => column

def emit (cutting : Cutting) (token : Token) : Cutting :=
  { cutting with tokens := cutting.tokens ++ [token] }

def emitOver (cutting : Cutting) (token : Token) (length : Nat) : Cutting :=
  { cutting.emit token with cursor := cutting.cursor.steps length }

/-- Close the block collections that are indented further than a column. -/
def closeFrom (column : Int) : List Nat → List Token → List Nat × List Token
  | [], tokens => ([], tokens)
  | innermost :: indents, tokens =>
      if column < innermost then closeFrom column indents (tokens ++ [.blockEnd])
      else (innermost :: indents, tokens)

/-- Close the block collections that are indented further than a column, unless
the place is inside a flow collection. -/
def close (cutting : Cutting) (column : Int) : Cutting :=
  if cutting.inFlow then cutting
  else
    let (indents, tokens) := closeFrom column cutting.indents cutting.tokens
    { cutting with indents := indents, tokens := tokens }

/-- Open a block collection at a column that is indented further than the
innermost one, with its token at a given place among the tokens. -/
def openAt (cutting : Cutting) (column place : Nat) (token : Token) : Cutting :=
  if !cutting.inFlow && cutting.indent < column then
    { cutting with
      indents := column :: cutting.indents
      tokens := cutting.tokens.take place ++ token :: cutting.tokens.drop place }
  else cutting

/-- Open a block collection here, if it is indented further than the innermost
one.  Outside flow collections it may only start where a key may start. -/
def openHere (cutting : Cutting) (token : Token) : Option Cutting :=
  if cutting.inFlow then some cutting
  else if cutting.keyAllowed then
    some (cutting.openAt cutting.cursor.column cutting.tokens.length token)
  else none

/-- Give up the token that may be a key; refused if it has to be one. -/
def dropKey (cutting : Cutting) : Option Cutting :=
  match cutting.possible with
  | none => some cutting
  | some key =>
      if key.isRequired then none else some { cutting with possible := none }

/-- Remember that the next token may be a key, if a key may start here. -/
def keepKey (cutting : Cutting) : Option Cutting :=
  if cutting.keyAllowed then do
    let cutting ← cutting.dropKey
    let key : PossibleKey :=
      { isRequired := !cutting.inFlow && cutting.indent == cutting.cursor.column
        place := cutting.tokens.length
        cursor := cutting.cursor }
    some { cutting with possible := some key }
  else some cutting

/-- Whether a key that starts at a place cannot be continued here, since it ends
with its line and is no longer than 1024 characters. -/
def isStale (cutting : Cutting) (key : PossibleKey) : Bool :=
  key.cursor.line < cutting.cursor.line ||
    key.cursor.index + 1024 < cutting.cursor.index

/-- What is left of a token that may be a key; refused if it has to be one and
cannot. -/
def refresh (cutting : Cutting) : Option PossibleKey → Option (Option PossibleKey)
  | none => some none
  | some key =>
      if cutting.isStale key then (if key.isRequired then none else some none)
      else some (some key)

def dropStale (cutting : Cutting) : Option Cutting := do
  let possible ← cutting.refresh cutting.possible
  let outer ← cutting.outer.mapM cutting.refresh
  some { cutting with possible := possible, outer := outer }

/-- Pass over spaces, comments, line breaks, and marks of the byte order at the
start of a line.  A tab is passed over only where no key may start. -/
def skipSpaceFrom : Nat → Cutting → Cutting
  | 0, cutting => cutting
  | fuel + 1, cutting =>
      let tabs := cutting.inFlow || !cutting.keyAllowed
      let cursor :=
        (cutting.cursor.skipByteOrder.takeRun fun character =>
          character == ' ' || (tabs && character == '\t')).2.skipComment
      if cursor.peek.any isBreak then
        skipSpaceFrom fuel
          { cutting with
            cursor := cursor.takeBreak.2
            keyAllowed := cutting.keyAllowed || !cutting.inFlow }
      else { cutting with cursor := cursor }

def skipSpace (cutting : Cutting) : Cutting :=
  skipSpaceFrom (cutting.cursor.rest.length + 1) cutting

/-! ## The next token -/

def beforeDocument (cutting : Cutting) : Option Cutting := do
  let cutting ← (cutting.close (-1)).dropKey
  some { cutting with keyAllowed := false }

def directive (cutting : Cutting) : Option Cutting := do
  let cutting ← cutting.beforeDocument
  let (token, behind) ← directiveToken cutting.cursor
  some { cutting.emit token with cursor := behind }

def documentMark (cutting : Cutting) (token : Token) : Option Cutting := do
  let cutting ← cutting.beforeDocument
  some (cutting.emitOver token 3)

def flowStart (cutting : Cutting) (token : Token) : Option Cutting := do
  let cutting ← cutting.keepKey
  some
    { cutting.emitOver token 1 with
      possible := none
      outer := cutting.possible :: cutting.outer
      keyAllowed := true }

def flowEnd (cutting : Cutting) (token : Token) : Option Cutting := do
  let cutting ← cutting.dropKey
  let (possible, outer) :=
    match cutting.outer with
    | [] => (none, [])
    | possible :: outer => (possible, outer)
  some
    { cutting.emitOver token 1 with
      possible := possible
      outer := outer
      keyAllowed := false }

/-- Take the comma between the entries of a flow collection. -/
def flowEntry (cutting : Cutting) : Option Cutting := do
  let cutting ← cutting.dropKey
  some { cutting.emitOver .flowEntry 1 with keyAllowed := true }

/-- Take the dash before an entry of a block sequence. -/
def blockEntry (cutting : Cutting) : Option Cutting := do
  let cutting ← (← cutting.openHere .blockSequence).dropKey
  some { cutting.emitOver .blockEntry 1 with keyAllowed := true }

/-- Take the question mark before a key. -/
def explicitKey (cutting : Cutting) : Option Cutting := do
  let cutting ← (← cutting.openHere .blockMapping).dropKey
  some { cutting.emitOver .key 1 with keyAllowed := !cutting.inFlow }

/-- Take the colon before a value.  If a token before it may be a key, it is
one. -/
def value (cutting : Cutting) : Option Cutting :=
  match cutting.possible with
  | some key =>
      let marked :=
        { cutting with
          tokens :=
            cutting.tokens.take key.place ++
              Token.key :: cutting.tokens.drop key.place
          possible := none }
      let opened := marked.openAt key.cursor.column key.place .blockMapping
      some { opened.emitOver .value 1 with keyAllowed := false }
  | none => do
      let cutting ← cutting.openHere .blockMapping
      some { cutting.emitOver .value 1 with keyAllowed := !cutting.inFlow }

def possibleKey (cutting : Cutting) (take : Cursor → Option (Token × Cursor)) :
    Option Cutting := do
  let cutting ← cutting.keepKey
  let (token, behind) ← take cutting.cursor
  some { cutting.emit token with cursor := behind, keyAllowed := false }

/-- Take a plain scalar.  If it was ended by the start of a line, a key may
start there. -/
def plain (cutting : Cutting) : Option Cutting := do
  let cutting ← cutting.keepKey
  let scan ←
    plainScalar cutting.inFlow (cutting.indent + 1).toNat cutting.cursor
  some
    { cutting.emit (.scalar scan.text .plain) with
      cursor := scan.cursor
      keyAllowed := scan.endsAtLine }

def block (cutting : Cutting) (style : ScalarStyle) : Option Cutting := do
  let cutting ← cutting.dropKey
  let (text, behind) ←
    blockScalar (style == .folded) cutting.indent cutting.cursor
  some
    { cutting.emit (.scalar text style) with
      cursor := behind
      keyAllowed := true }

/-- Whether a character that is no indicator stands here, so that a plain scalar
starts. -/
def startsPlain (cutting : Cutting) (character : Char) : Bool :=
  let next := cutting.cursor.peekAt 1
  !"-?:,[]\x7b\x7d#&*!|>'\"%@\x60".toList.contains character ||
    (character == '-' && !next.any isBlank) ||
    (!cutting.inFlow && (character == '?' || character == ':') && !endsWord next)

def next (cutting : Cutting) (character : Char) : Option Cutting :=
  let cursor := cutting.cursor
  let endsHere := endsWord (cursor.peekAt 1)
  if cursor.column == 0 && character == '%' then cutting.directive
  else if cursor.isMarker '-' then cutting.documentMark .documentStart
  else if cursor.isMarker '.' then cutting.documentMark .documentEnd
  else
    match character with
    | '[' => cutting.flowStart .flowSequence
    | '\x7b' => cutting.flowStart .flowMapping
    | ']' => cutting.flowEnd .flowSequenceEnd
    | '\x7d' => cutting.flowEnd .flowMappingEnd
    | ',' => cutting.flowEntry
    | '*' =>
        cutting.possibleKey fun cursor =>
          (anchorName cursor).map fun (name, behind) => (.alias name, behind)
    | '&' =>
        cutting.possibleKey fun cursor =>
          (anchorName cursor).map fun (name, behind) => (.anchor name, behind)
    | '!' => cutting.possibleKey (tagToken cutting.inFlow)
    | '\'' =>
        cutting.possibleKey fun cursor =>
          (quotedScalar true cursor).map fun (text, behind) =>
            (.scalar text .quoted, behind)
    | '"' =>
        cutting.possibleKey fun cursor =>
          (quotedScalar false cursor).map fun (text, behind) =>
            (.scalar text .quoted, behind)
    | other =>
        if other = '-' ∧ endsHere then cutting.blockEntry
        else if other = '?' ∧ (cutting.inFlow ∨ endsHere) then cutting.explicitKey
        else if other = ':' ∧ (cutting.inFlow ∨ endsHere) then cutting.value
        else if other = '|' ∧ ¬cutting.inFlow then cutting.block .literal
        else if other = '>' ∧ ¬cutting.inFlow then cutting.block .folded
        else if cutting.startsPlain other && !isBlank other then cutting.plain
        else none

def finish (cutting : Cutting) : Option (List Token) := do
  let cutting ← (cutting.close (-1)).dropKey
  some cutting.tokens

def run : Nat → Cutting → Option (List Token)
  | 0, _ => none
  | fuel + 1, cutting => do
      let cutting ← cutting.skipSpace.dropStale
      let cutting := cutting.close cutting.cursor.column
      match cutting.cursor.peek with
      | none => cutting.finish
      | some character => run fuel (← cutting.next character)

end Cutting

def tokens? (text : List Char) : Option (List Token) :=
  if text.all isAllowed then
    Cutting.run (text.length + 1) { cursor := { rest := text } }
  else none

end ClearingHouse.Yaml
