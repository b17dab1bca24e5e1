import ClearingHouse.Identity.Caller

/-!
# Requests and responses over HTTP

Only those parts are kept that decide what is done: method, path, headers and
body of a request, and of a response its status and its JSON text.
-/

namespace ClearingHouse.Http

structure Request where
  method : String
  /-- The path, possibly behind a scheme and a host, and possibly followed by a
  query and a fragment. -/
  path : String
  headers : List (String × String) := []
  body : String := ""
  deriving DecidableEq

structure Response where
  status : Nat
  /-- The JSON text, if the response carries JSON. -/
  json : Option (List Char) := none
  deriving DecidableEq

namespace Request

/-- The value of the first header with a name, which is given in lower case. -/
def header? (request : Request) (name : String) : Option String :=
  (request.headers.find? fun header =>
    header.1.toList.map Char.toLower == name.toList).map Prod.snd

def endsPath (character : Char) : Bool := character == '?' || character == '#'

def behindScheme? (address : List Char) : Option (List Char) :=
  match address.dropWhile fun character => character != ':' with
  | ':' :: '/' :: '/' :: rest => some rest
  | _ => none

/-- The path alone.  An address without a path is one with the shortest path;
a host without a scheme has none. -/
def plainPath (request : Request) : List Char :=
  let target := request.path.toList
  let path (text : List Char) := text.takeWhile fun character => !endsPath character
  if target.head? = some '/' then path target
  else
    match behindScheme? target with
    | none => []
    | some rest =>
        match path (rest.dropWhile fun character =>
          character != '/' && !endsPath character) with
        | [] => ['/']
        | found => found

end Request

/-- Whether a text holds only characters that a header may show. -/
def isShown (text : String) : Bool :=
  text.toList.all fun character =>
    (0x20 ≤ character.toNat && character.toNat < 0x7F) || character == '\t'

def Request.token (request : Request) : Except TransferFailure String :=
  match request.header? "authorization" with
  | none => Caller.bearerToken none
  | some value =>
      if isShown value then Caller.bearerToken (some value)
      else .error .invalidToken

/-- The response with the body left out, which is what a request with the method
HEAD gets. -/
def Response.headOnly (response : Response) : Response :=
  { response with json := response.json.map fun _ => [] }

end ClearingHouse.Http
