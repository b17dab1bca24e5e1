import ClearingHouse.Decimal.Shortest

/-!
# Reading JSON

Readers take characters from the front of a text and stop at the first thing
that is wrong.  A fault is of one of three kinds: the text is not JSON, it ends
too early, or it is JSON of another shape than the one wanted.  Since reading
goes from left to right, the first fault met decides.

Records are read from an object, whose unknown members are only checked for
being JSON, or from an array that holds exactly the fields in their order.
-/

namespace ClearingHouse.Json

inductive Fault where
  /-- The text is not JSON. -/
  | malformed
  /-- The text ends where something more is needed. -/
  | truncated
  /-- The text is JSON, but not of the shape wanted. -/
  | mismatched
  deriving DecidableEq

def Fault.name : Fault → String
  | .malformed => "syntax"
  | .truncated => "eof"
  | .mismatched => "data"

/-- Takes a value from the front of a text. -/
abbrev Reader (α : Type) : Type := StateT (List Char) (Except Fault) α

namespace Reader

def isSpace (character : Char) : Bool :=
  character = ' ' || character = '\n' || character = '\t' || character = '\r'

def fail {α : Type} (fault : Fault) : Reader α := fun _ => .error fault

/-- The next character, left in place. -/
def peek : Reader (Option Char) := fun text => .ok (text.head?, text)

/-- The next character that is no space, left in place. -/
def peekToken : Reader (Option Char) := fun text =>
  let rest := text.dropWhile isSpace
  .ok (rest.head?, rest)

def advance : Reader Unit := fun text => .ok ((), text.drop 1)

/-- Take the longest run of characters that satisfy a test. -/
def takeRun (test : Char → Bool) : Reader (List Char) := fun text =>
  .ok (text.takeWhile test, text.dropWhile test)

/-- Take exactly these characters. -/
def literal : List Char → Reader Unit
  | [] => pure ()
  | wanted :: others => do
      match ← peek with
      | none => fail .truncated
      | some character =>
          if character = wanted then do
            advance
            literal others
          else fail .malformed

/-! ## Strings -/

/-- The character that a letter stands for behind a backslash. -/
def unescaped? (character : Char) : Option Char :=
  if character = '"' then some '"'
  else if character = '\\' then some '\\'
  else if character = '/' then some '/'
  else if character = 'b' then some '\x08'
  else if character = 'f' then some '\x0c'
  else if character = 'n' then some '\n'
  else if character = 'r' then some '\r'
  else if character = 't' then some '\t'
  else none

def hasFourBytes (text : List Char) : Bool :=
  4 ≤ (text.take 4).foldl (fun bytes character => bytes + character.utf8Size) 0

/-- Where a reader stands inside a string. -/
inductive StringState where
  | plain
  | escape
  /-- Inside an escape by number: digits left, the number so far, and the high
  half that this one has to complete. -/
  | number (left : Nat) (value : Nat) (high : Option Nat)
  /-- Behind a high half, where a backslash has to follow. -/
  | completion (high : Nat)
  /-- Behind a high half and a backslash, where a `u` has to follow. -/
  | completionMark (high : Nat)

/-- What a complete escape by number stands for: a character, or a high half
that waits for its low half. -/
def ofUnit (value : Nat) (high : Option Nat) : Except Fault (Char ⊕ Nat) :=
  let isLow := decide (0xDC00 ≤ value ∧ value < 0xE000)
  match high with
  | some upper =>
      if isLow then
        .ok (.inl (Char.ofNat
          (0x10000 + (upper - 0xD800) * 0x400 + (value - 0xDC00))))
      else .error .malformed
  | none =>
      if isLow then .error .malformed
      else if 0xD800 ≤ value ∧ value < 0xDC00 then .ok (.inr value)
      else .ok (.inl (Char.ofNat value))

/-- Read the characters of a string up to its closing quote.  Those already
read are in `before`, last one first. -/
def stringFrom (before : List Char) : StringState → List Char →
    Except Fault (List Char × List Char)
  | _, [] => .error .truncated
  | .plain, character :: rest =>
      if character = '"' then .ok (before.reverse, rest)
      else if character = '\\' then stringFrom before .escape rest
      else if character.toNat < 0x20 then .error .malformed
      else stringFrom (character :: before) .plain rest
  | .escape, character :: rest =>
      if character = 'u' then
        if hasFourBytes rest then stringFrom before (.number 4 0 none) rest
        else .error .truncated
      else
        match unescaped? character with
        | some plain => stringFrom (plain :: before) .plain rest
        | none => .error .malformed
  | .number left value high, character :: rest =>
      match Text.hexValue? character with
      | none => .error .malformed
      | some digit =>
          let unit := value * 16 + digit
          if 1 < left then stringFrom before (.number (left - 1) unit high) rest
          else
            match ofUnit unit high with
            | .ok (.inl complete) =>
                stringFrom (complete :: before) .plain rest
            | .ok (.inr upper) => stringFrom before (.completion upper) rest
            | .error fault => .error fault
  | .completion upper, character :: rest =>
      if character = '\\' then stringFrom before (.completionMark upper) rest
      else .error .malformed
  | .completionMark upper, character :: rest =>
      if character = 'u' then
        if hasFourBytes rest then
          stringFrom before (.number 4 0 (some upper)) rest
        else .error .truncated
      else .error .malformed

/-- Read a string whose opening quote has been taken. -/
def stringBody : Reader String := fun text =>
  match stringFrom [] .plain text with
  | .ok (characters, rest) => .ok (String.ofList characters, rest)
  | .error fault => .error fault

/-- Where a reader stands inside a string that is passed over. -/
inductive SkipState where
  | plain
  | escape
  | number (left : Nat)

/-- Pass over a string up to its closing quote.  Escapes by number are only
checked for their digits. -/
def skipStringFrom : SkipState → List Char → Except Fault (Unit × List Char)
  | _, [] => .error .truncated
  | .plain, character :: rest =>
      if character = '"' then .ok ((), rest)
      else if character = '\\' then skipStringFrom .escape rest
      else if character.toNat < 0x20 then .error .malformed
      else skipStringFrom .plain rest
  | .escape, character :: rest =>
      if character = 'u' then
        if hasFourBytes rest then skipStringFrom (.number 4) rest
        else .error .truncated
      else if (unescaped? character).isSome then skipStringFrom .plain rest
      else .error .malformed
  | .number left, character :: rest =>
      if (Text.hexValue? character).isSome then
        skipStringFrom (if 1 < left then .number (left - 1) else .plain) rest
      else .error .malformed

/-! ## Numbers -/

end Reader

/-- A number, held as its written form allows. -/
inductive Number where
  /-- A numeral without sign, point and exponent that fits sixty-four bits. -/
  | natural (value : Nat)
  /-- Its negative counterpart, not zero, that fits a signed word. -/
  | negative (value : Nat)
  /-- Any other numeral. -/
  | real (value : Binary64)
  deriving DecidableEq

/-- The text of a number: a numeral, or the shortest one that reads back. -/
def Number.written : Number → List Char
  | .natural value => Text.digits value
  | .negative value => '-' :: Text.digits value
  | .real value => value.written

namespace Reader

/-- The digits of a numeral that are held, and the power of ten that makes up
for those that are not. -/
structure Significand where
  value : Nat
  exponent : Int

/-- Hold digits before the point while they fit sixty-four bits, and count the
others. -/
def wholePart (held : Significand) : List Char → Significand
  | [] => held
  | character :: rest =>
      let value := held.value * 10 + (character.toNat - '0'.toNat)
      if held.exponent = 0 ∧ value < 2 ^ 64 then
        wholePart ⟨value, 0⟩ rest
      else wholePart ⟨held.value, held.exponent + 1⟩ rest

/-- Hold digits after the point up to the first that does not fit, and drop the
others. -/
def fractionPart (held : Significand) : List Char → Significand
  | [] => held
  | character :: rest =>
      let value := held.value * 10 + (character.toNat - '0'.toNat)
      if value < 2 ^ 64 then fractionPart ⟨value, held.exponent - 1⟩ rest
      else held

def isDigit (character : Char) : Bool :=
  (Text.digitValue? character).isSome

/-- Take one or more digits. -/
def digitRun : Reader (List Char) := do
  let run ← takeRun isDigit
  if run.isEmpty then
    match ← peek with
    | none => fail .truncated
    | some _ => fail .malformed
  else pure run

/-- Take the digits before the point: a zero alone, or digits of which the
first is not zero. -/
def wholeRun : Reader (List Char) := do
  let run ← digitRun
  match run with
  | '0' :: _ :: _ => fail .malformed
  | _ => pure run

def finishReal (negative : Bool) (held : Significand) : Reader Number :=
  match Binary64.ofScientific? negative held.value held.exponent with
  | some value => pure (.real value)
  | none => fail .malformed

def exponentPart (negative : Bool) (held : Significand) : Reader Number := do
  advance
  let sign ← peek
  if sign = some '+' ∨ sign = some '-' then advance
  let run ← digitRun
  let power : Int := ((Text.valueFrom? 0 run).getD 0 : Nat)
  let exponent :=
    if sign = some '-' then held.exponent - power else held.exponent + power
  finishReal negative ⟨held.value, exponent⟩

def isExponentMark (character : Option Char) : Bool :=
  character = some 'e' || character = some 'E'

/-- Read a numeral whose sign has been taken. -/
def numeral (negative : Bool) : Reader Number := do
  let run ← wholeRun
  let held := wholePart ⟨0, 0⟩ run
  let next ← peek
  if next = some '.' then do
    advance
    let fraction ← digitRun
    let exact := fractionPart held fraction
    if isExponentMark (← peek) then exponentPart negative exact
    else finishReal negative exact
  else if isExponentMark next then exponentPart negative held
  else if held.exponent ≠ 0 then finishReal negative held
  else if !negative then pure (.natural held.value)
  else if held.value ≠ 0 ∧ held.value ≤ 2 ^ 63 then
    pure (.negative held.value)
  else finishReal negative held

def number (first : Char) : Reader Number :=
  if first = '-' then do
    advance
    numeral true
  else numeral false

def startsNumber (character : Char) : Bool :=
  character = '-' || isDigit character

def skipDigitRun : Reader (List Char) := do
  let run ← takeRun isDigit
  if run.isEmpty then fail .malformed else pure run

def skipExponent : Reader Unit := do
  if isExponentMark (← peek) then
    advance
    let sign ← peek
    if sign = some '+' ∨ sign = some '-' then advance
    let _ ← skipDigitRun

def skipNumeral : Reader Unit := do
  match ← skipDigitRun with
  | '0' :: _ :: _ => fail .malformed
  | _ => do
      if (← peek) = some '.' then
        advance
        let _ ← skipDigitRun
      skipExponent

/-! ## Values that are passed over -/

/-- An array or an object that is still open. -/
inductive Open where
  | array
  | object
  deriving DecidableEq

/-- Pass over a value that holds no other value; the answer is the bracket that
it opens, if it is one. -/
def skipAtom : Reader (Option Open) := do
  match ← peekToken with
  | none => fail .truncated
  | some first =>
      if first = 'n' then do literal "null".toList; pure none
      else if first = 't' then do literal "true".toList; pure none
      else if first = 'f' then do literal "false".toList; pure none
      else if first = '-' then do advance; skipNumeral; pure none
      else if isDigit first then do skipNumeral; pure none
      else if first = '"' then do
        advance
        fun text => skipStringFrom .plain text
        pure none
      else if first = '[' then do advance; pure (some .array)
      else if first = '{' then do advance; pure (some .object)
      else fail .malformed

/-- Pass over the name of a member and its colon. -/
def skipName : Reader Unit := do
  match ← peekToken with
  | none => fail .truncated
  | some '"' => do
      advance
      fun text => skipStringFrom .plain text
      match ← peekToken with
      | none => fail .truncated
      | some ':' => advance
      | some _ => fail .malformed
  | some _ => fail .malformed

/-- Pass over closing brackets and one comma.  `first` says whether nothing has
been read since the innermost bracket was opened. -/
def closeBrackets : List Open → Bool → Reader (List Open)
  | [], _ => pure []
  | bracket :: outer, first => do
      match ← peekToken with
      | none => fail .truncated
      | some character =>
          if character = ',' ∧ !first then do
            advance
            pure (bracket :: outer)
          else if (character = ']' ∧ bracket = .array) ∨
              (character = '}' ∧ bracket = .object) then do
            advance
            closeBrackets outer false
          else if first then pure (bracket :: outer)
          else fail .malformed

/-- Pass over values until no bracket is open.  Every round takes a character,
so as many rounds as characters are enough. -/
def skipFrom : Nat → List Open → Reader Unit
  | 0, _ => fail .truncated
  | fuel + 1, brackets => do
      let opened ← skipAtom
      let remaining ←
        match opened with
        | some bracket => closeBrackets (bracket :: brackets) true
        | none => closeBrackets brackets false
      match remaining with
      | [] => pure ()
      | innermost :: _ => do
          if innermost = .object then skipName
          skipFrom fuel remaining

/-- Pass over one value, however deeply nested. -/
def skipValue : Reader Unit := fun text =>
  skipFrom (text.length + 1) [] text

/-! ## Values of a wanted type -/

/-- The fault of a value that starts with this character and has another type
than the one wanted.  Values without parts are read first, and may turn out
not to be JSON. -/
def mismatch {α : Type} (first : Char) : Reader α :=
  if first = 'n' then do literal "null".toList; fail .mismatched
  else if first = 't' then do literal "true".toList; fail .mismatched
  else if first = 'f' then do literal "false".toList; fail .mismatched
  else if startsNumber first then do
    let _ ← number first
    fail .mismatched
  else if first = '"' then do
    advance
    let _ ← stringBody
    fail .mismatched
  else if first = '[' ∨ first = '{' then fail .mismatched
  else fail .malformed

def string : Reader String := do
  match ← peekToken with
  | none => fail .truncated
  | some first =>
      if first = '"' then do
        advance
        stringBody
      else mismatch first

def integer (least greatest : Int) : Reader Int := do
  match ← peekToken with
  | none => fail .truncated
  | some first =>
      if startsNumber first then do
        let value ←
          match ← number first with
          | .natural value => pure (value : Int)
          | .negative value => pure (-(value : Int))
          | .real _ => fail .mismatched
        if least ≤ value ∧ value ≤ greatest then pure value
        else fail .mismatched
      else mismatch first

def null : Reader Unit := do
  match ← peekToken with
  | none => fail .truncated
  | some first =>
      if first = 'n' then literal "null".toList else mismatch first

/-- Read a value that may be `null`. -/
def optional {α : Type} (reader : Reader α) : Reader (Option α) := do
  match ← peekToken with
  | some 'n' => do
      literal "null".toList
      pure none
  | _ => do
      let value ← reader
      pure (some value)

/-- Read one of several names, given as a string or as an object with that name
as its only member and the value `null`. -/
def choice {α : Type} (named? : String → Option α) : Reader α := do
  let wanted : Reader α := do
    let name ← string
    match named? name with
    | some value => pure value
    | none => fail .mismatched
  match ← peekToken with
  | none => fail .truncated
  | some '"' => wanted
  | some '{' => do
      advance
      let value ← wanted
      match ← peekToken with
      | none => fail .truncated
      | some ':' => advance
      | some _ => fail .malformed
      null
      match ← peekToken with
      | none => fail .truncated
      | some '}' => do
          advance
          pure value
      | some _ => fail .malformed
  | some _ => fail .malformed

/-! ## Records and lists -/

/-- One field of a record that is read into a draft of type `δ`. -/
structure Field (δ : Type) where
  name : String
  isFilled : δ → Bool
  fill : δ → Reader δ

/-- The field that is read by `reader`, and kept in a place of the draft. -/
def Field.of {δ α : Type} (name : String) (get : δ → Option α)
    (set : δ → α → δ) (reader : Reader α) : Field δ where
  name := name
  isFilled := fun draft => (get draft).isSome
  fill := fun draft => do
    let value ← reader
    pure (set draft value)

/-- Go on to the next element of an array; the answer is whether there is one.
The closing bracket is left in place. -/
def nextElement (first : Bool) : Reader Bool := do
  match ← peekToken with
  | none => fail .truncated
  | some ']' => pure false
  | some character =>
      if first then pure true
      else if character = ',' then do
        advance
        match ← peekToken with
        | none => fail .truncated
        | some ']' => fail .malformed
        | some _ => pure true
      else fail .malformed

def closeArray : Reader Unit := do
  match ← peekToken with
  | none => fail .truncated
  | some ']' => advance
  | some _ => fail .malformed

/-- Go on to the next member of an object; the answer is its name, which
`nameReader` reads behind its opening quote.  The closing bracket is left in
place. -/
def nextMemberBy (nameReader : Reader String) (first : Bool) :
    Reader (Option String) := do
  let name : Reader (Option String) := do
    advance
    let text ← nameReader
    pure (some text)
  match ← peekToken with
  | none => fail .truncated
  | some '}' => pure none
  | some character =>
      if first then
        if character = '"' then name else fail .malformed
      else if character = ',' then do
        advance
        match ← peekToken with
        | none => fail .truncated
        | some '"' => name
        | some _ => fail .malformed
      else fail .malformed

def nextMember (first : Bool) : Reader (Option String) :=
  nextMemberBy stringBody first

def colon : Reader Unit := do
  match ← peekToken with
  | none => fail .truncated
  | some ':' => advance
  | some _ => fail .malformed

def closeObject : Reader Unit := do
  match ← peekToken with
  | none => fail .truncated
  | some '}' => advance
  | some _ => fail .malformed

def fieldsFromArray {δ : Type} (draft : δ) (first : Bool) :
    List (Field δ) → Reader δ
  | [] => pure draft
  | field :: others => do
      if ← nextElement first then do
        let filled ← field.fill draft
        fieldsFromArray filled false others
      else fail .mismatched

/-- Read the fields of a record from the members of an object, whose names
`nameReader` reads.  Every member takes a character, so as many rounds as
characters are enough. -/
def fieldsFromObject {δ : Type} (nameReader : Reader String)
    (fields : List (Field δ)) : Nat → δ → Bool → Reader δ
  | 0, _, _ => fail .truncated
  | fuel + 1, draft, first => do
      match ← nextMemberBy nameReader first with
      | none => pure draft
      | some name =>
          match fields.find? fun field => field.name == name with
          | none => do
              colon
              skipValue
              fieldsFromObject nameReader fields fuel draft false
          | some field =>
              if field.isFilled draft then fail .mismatched
              else do
                colon
                let filled ← field.fill draft
                fieldsFromObject nameReader fields fuel filled false

/-- The value that a draft makes up, if all of its fields are there. -/
def completed {δ α : Type} (complete : δ → Option α) (draft : δ) : Reader α :=
  match complete draft with
  | some value => pure value
  | none => fail .mismatched

/-- Read a record from an object, whose opening bracket comes next. -/
def recordObject {δ α : Type} (nameReader : Reader String)
    (fields : List (Field δ)) (draft : δ) (complete : δ → Option α) :
    Reader α := do
  advance
  let remaining ← get
  let filled ←
    fieldsFromObject nameReader fields (remaining.length + 1) draft true
  let value ← completed complete filled
  closeObject
  pure value

/-- Read a record: its fields, from an object whose names `nameReader` reads, or
from an array, and from them the value that they make up. -/
def recordBy {δ α : Type} (nameReader : Reader String)
    (fields : List (Field δ)) (draft : δ) (complete : δ → Option α) :
    Reader α := do
  match ← peekToken with
  | none => fail .truncated
  | some '[' => do
      advance
      let filled ← fieldsFromArray draft true fields
      let value ← completed complete filled
      closeArray
      pure value
  | some '{' => recordObject nameReader fields draft complete
  | some first => mismatch first

/-- Read a record from an object or an array. -/
def record {δ α : Type} (fields : List (Field δ)) (draft : δ)
    (complete : δ → Option α) : Reader α :=
  recordBy stringBody fields draft complete

def elementsFrom {α : Type} (reader : Reader α) : Nat → Bool → Reader (List α)
  | 0, _ => fail .truncated
  | fuel + 1, first => do
      if ← nextElement first then do
        let element ← reader
        let others ← elementsFrom reader fuel false
        pure (element :: others)
      else pure []

def list {α : Type} (reader : Reader α) : Reader (List α) := do
  match ← peekToken with
  | none => fail .truncated
  | some '[' => do
      advance
      let remaining ← get
      let elements ← elementsFrom reader (remaining.length + 1) true
      closeArray
      pure elements
  | some first => mismatch first

def membersFrom {α : Type} (reader : Reader α) :
    Nat → Bool → Reader (List (String × α))
  | 0, _ => fail .truncated
  | fuel + 1, first => do
      match ← nextMember first with
      | none => pure []
      | some name => do
          colon
          let value ← reader
          let others ← membersFrom reader fuel false
          pure ((name, value) :: others)

/-- Read an object whose members are of one type, in their order. -/
def members {α : Type} (reader : Reader α) : Reader (List (String × α)) := do
  match ← peekToken with
  | none => fail .truncated
  | some '{' => do
      advance
      let remaining ← get
      let entries ← membersFrom reader (remaining.length + 1) true
      closeObject
      pure entries
  | some first => mismatch first

/-- Read a whole text as one value. -/
def run {α : Type} (reader : Reader α) (text : List Char) : Except Fault α := do
  let (value, rest) ← StateT.run reader text
  if rest.all isSpace then .ok value else .error .malformed

end Reader

end ClearingHouse.Json
