import ClearingHouse.Json.Reader

/-!
# JSON values of any shape

A value of any shape is read from bytes, which are held as the characters with
their numbers.  Where the shape of a value does not matter, neither does whether
it can be held: a string whose bytes are no text, and a number that is too
large, are passed over.  What stands around them is passed over too, as long as
nothing but closing brackets follows.
-/

namespace ClearingHouse.Json

/-- A JSON value. -/
inductive Tree where
  | null
  | truth (value : Bool)
  | number (value : Number)
  | text (value : String)
  | list (elements : List Tree)
  | object (members : List (String × Tree))

namespace Tree

def text? : Tree → Option String
  | .text value => some value
  | _ => none

def isText (tree : Tree) : Bool := tree.text?.isSome

def isTextList : Tree → Bool
  | .list elements => elements.all isText
  | _ => false

def natural? (bound : Nat) : Tree → Option Nat
  | .number (.natural value) => if value < bound then some value else none
  | _ => none

def isNull : Tree → Bool
  | .null => true
  | _ => false

end Tree

namespace Reader

/-- The text that bytes stand for, if they are a text. -/
def decoded? (bytes : List Char) : Option (List Char) :=
  (String.fromUTF8? ⟨(bytes.map fun byte => UInt8.ofNat byte.toNat).toArray⟩).map
    String.toList

/-- Read a string of bytes whose opening quote has been taken; there is no
answer if they are no text. -/
def heldString : Reader (Option String) := fun text => do
  let (_, rest) ← stringFrom [] .plain text
  match decoded? (text.take (text.length - rest.length)) with
  | none => .ok (none, rest)
  | some characters =>
      let (value, _) ← stringFrom [] .plain characters
      .ok (some (String.ofList value), rest)

def byteString : Reader String := do
  match ← heldString with
  | some text => pure text
  | none => fail .malformed

/-- The digits of the exponent of a numeral, if it has no negative sign. -/
def exponentDigits (numeral : List Char) : List Char :=
  match numeral.dropWhile fun character => !isExponentMark (some character) with
  | _ :: '+' :: digits => digits
  | _ :: '-' :: _ => []
  | _ :: digits => digits
  | [] => []

/-- Whether the exponent of a numeral leaves a signed word of thirty-two bits
before its last digit. -/
def isExponentEndless (numeral : List Char) : Bool :=
  2 ^ 31 ≤ (Text.valueFrom? 0 (exponentDigits numeral).dropLast).getD 0

/-- Read a number; there is no answer if it is too large.  An exponent that is
too large before its last digit is not read to its end. -/
def heldNumber (first : Char) : Reader (Option Number) := fun text =>
  match number first text with
  | .ok (value, rest) => .ok (some value, rest)
  | .error fault => do
      let ((), rest) ← skipValue text
      if isExponentEndless (text.take (text.length - rest.length)) then
        .error fault
      else .ok (none, rest)

/-- Read the elements of an array up to its closing bracket.  One that cannot be
held is the last one read. -/
def heldElements {α : Type} (reader : Reader (Option α)) :
    Nat → Bool → Reader (Option (List α))
  | 0, _ => fail .truncated
  | fuel + 1, first => do
      if ← nextElement first then
        match ← reader with
        | none => pure none
        | some element => do
            let others ← heldElements reader fuel false
            pure (others.map fun list => element :: list)
      else pure (some [])

def heldMembers {α : Type} (reader : Reader (Option α)) :
    Nat → Bool → Reader (Option (List (String × α)))
  | 0, _ => fail .truncated
  | fuel + 1, first => do
      match ← nextMemberBy byteString first with
      | none => pure (some [])
      | some name => do
          colon
          match ← reader with
          | none => pure none
          | some value => do
              let others ← heldMembers reader fuel false
              pure (others.map fun list => (name, value) :: list)

/-- Read a value that holds no other value and starts with this character; there
is no answer if it cannot be held. -/
def atom (first : Char) : Reader (Option Tree) :=
  if first = 'n' then do
    literal "null".toList
    pure (some .null)
  else if first = 't' then do
    literal "true".toList
    pure (some (.truth true))
  else if first = 'f' then do
    literal "false".toList
    pure (some (.truth false))
  else if startsNumber first then do
    let value ← heldNumber first
    pure (value.map .number)
  else if first = '"' then do
    advance
    let value ← heldString
    pure (value.map .text)
  else fail .malformed

/-- Read a value in which at most so many brackets are open at a time; there is
no answer if it cannot be held. -/
def tree : Nat → Reader (Option Tree)
  | 0 => do
      match ← peekToken with
      | none => fail .truncated
      | some first => atom first
  | depth + 1 => do
      match ← peekToken with
      | none => fail .truncated
      | some '[' => do
          advance
          let remaining ← get
          let elements ←
            heldElements (tree depth) (remaining.length + 1) true
          closeArray
          pure (elements.map .list)
      | some '{' => do
          advance
          let remaining ← get
          let members ←
            heldMembers (tree depth) (remaining.length + 1) true
          closeObject
          pure (members.map .object)
      | some first => atom first

end Reader

end ClearingHouse.Json
