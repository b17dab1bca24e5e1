import ClearingHouse.Json.Tree

/-!
# Keys in headers

The header of a signed token may hold a key as a JSON value.  The key is not
used, but it has to be one: an object that says of which of four forms the key
is, and holds what makes up a key of that form.
-/

namespace ClearingHouse

namespace Key

open Json (Tree)

/-- The name that a value gives: a string, or an object with that name as its
only member and nothing in it. -/
def named? (isNothing : Tree → Bool) : Tree → Option String
  | .text name => some name
  | .object [(name, value)] => if isNothing value then some name else none
  | _ => none

def isOneOf (isNothing : Tree → Bool) (names : List String) (value : Tree) :
    Bool :=
  ((named? isNothing value).map names.contains).getD false

def orNull (test : Tree → Bool) (value : Tree) : Bool :=
  value.isNull || test value

/-- Whether a value is null or an empty object. -/
def isBlank : Tree → Bool
  | .null => true
  | .object members => members.isEmpty
  | _ => false

/-- The names of the ways to use a key. -/
def algorithms : List String :=
  ["HS256", "HS384", "HS512", "ES256", "ES384", "RS256", "RS384", "RS512",
    "PS256", "PS384", "PS512", "EdDSA", "RSA1_5", "RSA-OAEP", "RSA-OAEP-256"]

/-- The members that a key of any form may have, each at most once. -/
def commonMembers : List (String × (Tree → Bool)) :=
  [("use", orNull Tree.isText), ("key_ops", orNull Tree.isTextList),
    ("alg", orNull (isOneOf isBlank algorithms)), ("kid", orNull Tree.isText),
    ("x5u", orNull Tree.isText), ("x5c", orNull Tree.isTextList),
    ("x5t", orNull Tree.isText), ("x5t#S256", orNull Tree.isText)]

/-- The members that say of which form a key is. -/
def kind (name : String) : String × (Tree → Bool) :=
  ("kty", isOneOf Tree.isNull [name])

def curve : String × (Tree → Bool) :=
  ("crv", isOneOf Tree.isNull ["P-256", "P-384", "P-521", "Ed25519"])

/-- The members that a key has to have, in each of the forms. -/
def forms : List (List (String × (Tree → Bool))) :=
  [[kind "EC", curve, ("x", Tree.isText), ("y", Tree.isText)],
    [kind "RSA", ("n", Tree.isText), ("e", Tree.isText)],
    [kind "oct", ("k", Tree.isText)],
    [kind "OKP", curve, ("x", Tree.isText)]]

def valuesOf (name : String) (members : List (String × Tree)) : List Tree :=
  (members.filter fun member => member.1 == name).map Prod.snd

def isKeyOf (members : List (String × Tree)) : Bool :=
  let areCommon := commonMembers.all fun (name, test) =>
    match valuesOf name members with
    | [] => true
    | [value] => test value
    | _ => false
  let hasForm (form : List (String × (Tree → Bool))) := form.all fun (name, test) =>
    match valuesOf name members with
    | [value] => test value
    | _ => false
  areCommon && forms.any hasForm

def isKey : Tree → Bool
  | .object members => isKeyOf members
  | _ => false

end Key

end ClearingHouse
