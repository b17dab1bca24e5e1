/-!
# Media types

A media type has a type, a subtype, possibly a suffix behind a plus sign, and
parameters.  The only question asked of it is whether it announces JSON.
-/

namespace ClearingHouse.Http

def isNameCharacter (character : Char) : Bool :=
  ('a' ≤ character && character ≤ 'z') || ('A' ≤ character && character ≤ 'Z') ||
    ('0' ≤ character && character ≤ '9') ||
    "!#$%&'*+-.^_|~".toList.contains character || character == '\x60'

def isQuotable (character : Char) : Bool :=
  0x20 ≤ character.toNat && character.toNat ≤ 0x7E

def untilQuote? : List Char → Option (List Char)
  | [] => none
  | character :: rest =>
      if character = '"' then some rest
      else if isQuotable character then untilQuote? rest
      else none

/-- Take a parameter value in quotes, whose opening quote has been taken.  A
value is not empty, so a quote at its start belongs to it.  A backslash has no
meaning of its own. -/
def quotedRest? : List Char → Option (List Char)
  | [] => none
  | character :: rest => if isQuotable character then untilQuote? rest else none

/-- Whether a text is a list of parameters.  Each is a name, an equals sign and
a value, and is divided from the next by a semicolon.  There are no more
parameters than characters. -/
def areParameters : Nat → List Char → Bool
  | 0, text => text.isEmpty
  | fuel + 1, text =>
      match text.dropWhile fun character => character == ' ' with
      | [] => true
      | start =>
          let name := start.takeWhile isNameCharacter
          match start.drop name.length with
          | '=' :: '"' :: quoted =>
              let behind := (quotedRest? quoted).map fun rest =>
                rest.dropWhile fun character => character == ' '
              !name.isEmpty &&
                match behind with
                | some [] => true
                | some (';' :: rest) => areParameters fuel rest
                | _ => false
          | '=' :: plain =>
              let value := plain.takeWhile isNameCharacter
              !name.isEmpty &&
                match plain.drop value.length with
                | [] => true
                | ';' :: rest => !value.isEmpty && areParameters fuel rest
                | _ => false
          | _ => false

/-- Whether a subtype is JSON with or without a suffix, or has JSON as its
suffix.  The suffix stands behind the last plus sign; one at the very start
belongs to the name. -/
def isJsonSubtype (subtype : List Char) : Bool :=
  let suffix := (subtype.reverse.takeWhile fun character => character != '+').reverse
  let name := subtype.take (subtype.length - suffix.length - 1)
  if name.isEmpty then subtype == "json".toList
  else name == "json".toList || suffix == "json".toList

def isJson (mediaType : String) : Bool :=
  let text := mediaType.toList
  let kind := text.takeWhile isNameCharacter
  match text.drop kind.length with
  | '/' :: rest =>
      let subtype := rest.takeWhile isNameCharacter
      let parameters := rest.drop subtype.length
      kind.map Char.toLower == "application".toList &&
        isJsonSubtype (subtype.map Char.toLower) &&
        match parameters with
        | [] => true
        | ';' :: list => areParameters list.length list
        | _ => false
  | _ => false

end ClearingHouse.Http
