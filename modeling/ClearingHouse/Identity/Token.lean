import ClearingHouse.Identity.Key
import ClearingHouse.Json.Text
import ClearingHouse.Signature.Base64Url
import ClearingHouse.Signature.Keyed

/-!
# Signed tokens

A token has three parts with points between them: a header, the claims, and a
signature of the first two.  Each is written in base 64.  A token is accepted
if it is signed with the secret, has not expired, and is meant for nobody in
particular.
-/

namespace ClearingHouse

/-- What a token says about its bearer. -/
structure Claims where
  username : String
  role : String
  /-- When the token expires, in seconds. -/
  expiry : Nat
  /-- When the token was issued, in seconds. -/
  issued : Nat
  deriving DecidableEq

namespace Token

def bytes (text : List Char) : List UInt8 :=
  (String.ofList text).toUTF8.data.toList

/-- The bytes of a part of a token in base 64, as the characters with their
numbers. -/
def part? (letters : List Char) : Option (List Char) :=
  (Signature.Base64Url.decode? letters).map fun bytes =>
    bytes.map fun byte => Char.ofNat byte.toNat

/-- How many brackets may be open at a time inside the outermost ones of a
part. -/
def depth : Nat := 126

/-- Read a value of which `pick` takes what is wanted. -/
def picked {α : Type} (pick : Json.Tree → Option α) : Json.Reader α := do
  match (← Json.Reader.tree depth).bind pick with
  | some value => pure value
  | none => Json.Reader.fail .mismatched

/-- The signature of the first two parts of a token. -/
def signature (secret : String) (message : List Char) : List Char :=
  Signature.Base64Url.encode
    (Signature.keyedDigest (bytes secret.toList) (bytes message))

/-! ## The header -/

/-- The names of the ways to sign that a header may give. -/
def knownAlgorithms : List String :=
  ["HS256", "HS384", "HS512", "ES256", "ES384", "RS256", "RS384", "RS512",
    "PS256", "PS384", "PS512", "EdDSA"]

/-- The only way to sign that is accepted. -/
def algorithm : String := "HS256"

def algorithm? (value : Json.Tree) : Option String :=
  (Key.named? Json.Tree.isNull value).filter knownAlgorithms.contains

structure HeaderDraft where
  algorithm : Option String := none
  others : List String := []

/-- A field of a header that may be null, and is not used. -/
def headerField (name : String) (test : Json.Tree → Bool) :
    Json.Reader.Field HeaderDraft where
  name := name
  isFilled := fun draft => draft.others.contains name
  fill := fun draft =>
    picked fun value =>
      if Key.orNull test value then
        some { draft with others := name :: draft.others }
      else none

def headerFields : List (Json.Reader.Field HeaderDraft) :=
  [headerField "typ" Json.Tree.isText,
    Json.Reader.Field.of "alg" HeaderDraft.algorithm
      (fun draft algorithm => { draft with algorithm := some algorithm })
      (picked algorithm?),
    headerField "cty" Json.Tree.isText, headerField "jku" Json.Tree.isText,
    headerField "jwk" Key.isKey, headerField "kid" Json.Tree.isText,
    headerField "x5u" Json.Tree.isText, headerField "x5c" Json.Tree.isTextList,
    headerField "x5t" Json.Tree.isText, headerField "x5t#S256" Json.Tree.isText]

/-- Read a header; the answer is the name of the way to sign. -/
def headerReader : Json.Reader String :=
  Json.Reader.recordBy Json.Reader.byteString headerFields {}
    HeaderDraft.algorithm

def issuedHeader : List Char :=
  Json.object [("typ", Json.string "JWT"), ("alg", Json.string algorithm)]

/-! ## The claims -/

/-- Whether a value names whom a token is meant for: a string or a list of
strings. -/
def isNamed (value : Json.Tree) : Bool := value.isText || value.isTextList

structure ClaimsDraft where
  username : Option String := none
  role : Option String := none
  expiry : Option Nat := none
  issued : Option Nat := none
  /-- Whether the token says in some way whom it is meant for, and whether that
  names somebody. -/
  isMeant : Option Bool := none
  /-- The names of the claims that are passed over. -/
  others : List String := []

def secondsReader : Json.Reader Nat := picked (Json.Tree.natural? (2 ^ 64))

def usernameClaim (name : String) : Json.Reader.Field ClaimsDraft :=
  Json.Reader.Field.of name ClaimsDraft.username
    (fun draft username => { draft with username := some username })
    (picked Json.Tree.text?)

/-- A claim that is passed over by `skip`, and may not occur twice. -/
def otherClaim (name : String) (skip : Json.Reader Unit) :
    Json.Reader.Field ClaimsDraft where
  name := name
  isFilled := fun draft => draft.others.contains name
  fill := fun draft => do
    skip
    pure { draft with others := name :: draft.others }

/-- Pass over a value of any shape. -/
def skipTree (depth : Nat) : Json.Reader Unit := do
  let _ ← Json.Reader.tree depth

/-- Pass over the time before which a token is not meant to be used.  A list or
an object in its place has to be empty. -/
def skipNotBefore : Json.Reader Unit := do
  match ← Json.Reader.peekToken with
  | some '[' => do
      Json.Reader.advance
      Json.Reader.closeArray
  | some '{' => do
      Json.Reader.advance
      Json.Reader.closeObject
  | _ => skipTree 0

def claimFields : List (Json.Reader.Field ClaimsDraft) :=
  [usernameClaim "sub", usernameClaim "username",
    Json.Reader.Field.of "role" ClaimsDraft.role
      (fun draft role => { draft with role := some role })
      (picked Json.Tree.text?),
    Json.Reader.Field.of "exp" ClaimsDraft.expiry
      (fun draft expiry => { draft with expiry := some expiry }) secondsReader,
    Json.Reader.Field.of "iat" ClaimsDraft.issued
      (fun draft issued => { draft with issued := some issued }) secondsReader,
    Json.Reader.Field.of "aud" ClaimsDraft.isMeant
      (fun draft isMeant => { draft with isMeant := some isMeant })
      (do return ((← Json.Reader.tree depth).map isNamed).getD false),
    otherClaim "nbf" skipNotBefore, otherClaim "iss" (skipTree depth)]

/-- The claims of a token that is meant for nobody in particular. -/
def ClaimsDraft.complete (draft : ClaimsDraft) : Option Claims := do
  let username ← draft.username
  let expiry ← draft.expiry
  if draft.isMeant.getD false then none
  else
    some ⟨username, draft.role.getD "", expiry, draft.issued.getD 0⟩

def claimsReader : Json.Reader Claims := do
  match ← Json.Reader.peekToken with
  | some '{' =>
      Json.Reader.recordObject Json.Reader.byteString claimFields {}
        ClaimsDraft.complete
  | _ => Json.Reader.fail .mismatched

def claimsText (claims : Claims) : List Char :=
  Json.object
    [("sub", Json.string claims.username), ("role", Json.string claims.role),
      ("exp", Json.natural claims.expiry), ("iat", Json.natural claims.issued)]

/-! ## Tokens -/

/-- For how many seconds a token is still accepted after it has expired. -/
def leeway : Nat := 60

def cutAtLastPoint (text : List Char) : Option (List Char × List Char) :=
  let behind := text.reverse.takeWhile fun character => character != '.'
  if behind.length < text.length then
    some (text.take (text.length - behind.length - 1), behind.reverse)
  else none

/-- The claims of a token, if it is accepted. -/
def verify (secret : String) (now : Nat) (token : String) : Option Claims := do
  let (message, signed) ← cutAtLastPoint token.toList
  let (header, payload) ← cutAtLastPoint message
  let headerText ← part? header
  let named ← (Json.Reader.run headerReader headerText).toOption
  if named ≠ algorithm then none
  else if signed ≠ signature secret message then none
  else do
    let claimsText ← part? payload
    let claims ← (Json.Reader.run claimsReader claimsText).toOption
    if claims.expiry < now - leeway then none else some claims

/-- A point in time as the unsigned word of sixty-four bits in which a token
holds it. -/
def timeWord (seconds : Int) : Nat := (seconds % (2 ^ 64 : Int)).toNat

def signedWord (word : Nat) : Int :=
  if word < 2 ^ 63 then word else (word : Int) - 2 ^ 64

/-- For how many seconds a token with these claims is valid. -/
def lifetime (claims : Claims) : Int :=
  signedWord claims.expiry - signedWord claims.issued

def ofClaims (secret : String) (claims : Claims) : String :=
  let encoded (text : List Char) := Signature.Base64Url.encode (bytes text)
  let message := encoded issuedHeader ++ '.' :: encoded (claimsText claims)
  String.ofList (message ++ '.' :: signature secret message)

/-- A token for a user in a role that expires after a number of seconds. -/
def issue (secret : String) (now : Nat) (username role : String)
    (lifetime : Int) : String :=
  ofClaims secret ⟨username, role, timeWord (now + lifetime), now⟩

end Token

end ClearingHouse
