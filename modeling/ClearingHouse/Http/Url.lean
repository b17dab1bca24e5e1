import ClearingHouse.Http.Host

/-!
# Addresses

The address of a request: a scheme, possibly a host with a port, a path, and
possibly a query and a fragment.  An address is put into its standard form when it
is read: characters that may not stand in their places are written as bytes by
number, and the segments that stand for the same or the upper directory are
resolved.  What an address says about a user is checked and left out, since it is
never shown.
-/

namespace ClearingHouse.Http

inductive UrlPath where
  /-- Segments, with a slash in front of each of them. -/
  | segments (segments : List (List Char))
  /-- A text without any slash in front. -/
  | plain (text : List Char)
  deriving DecidableEq

/-- A host, whose name may be empty, and the port, unless it is the usual one. -/
structure Authority where
  host : Host
  port : Option Nat
  deriving DecidableEq

/-- An address in its standard form. -/
structure Url where
  scheme : List Char
  authority : Option Authority
  urlPath : UrlPath
  query : Option (List Char)
  fragment : Option (List Char)
  deriving DecidableEq

namespace Url

open Host (isForeign)

/-! ## Characters -/

def isEncodedInFragment (character : Char) : Bool :=
  isForeign character || " \"<>\x60".toList.contains character

/-- Whether a character may not stand in a query; for the schemes that have names
of hosts, neither may an apostrophe. -/
def isEncodedInQuery (isSpecial : Bool) (character : Char) : Bool :=
  isForeign character || " \"#<>".toList.contains character ||
    (isSpecial && character == '\'')

def isEncodedInPath (character : Char) : Bool :=
  isEncodedInFragment character || "#?\x7b\x7d".toList.contains character

/-- Whether a character may not stand in a segment that is added to a path. -/
def isEncodedInSegment (character : Char) : Bool :=
  isEncodedInPath character || "/%\\".toList.contains character

def isDropped (character : Char) : Bool :=
  character = '\t' || character = '\n' || character = '\r'

/-- Whether a character divides the segments of a path.  A backslash does so for
the schemes that have names of hosts. -/
def isSlash (isSpecial : Bool) (character : Char) : Bool :=
  character == '/' || (isSpecial && character == '\\')

/-! ## Schemes -/

/-- The schemes that have names of hosts, with their usual ports. -/
def specialSchemes : List (String × Option Nat) :=
  [("http", some 80), ("https", some 443), ("ws", some 80), ("wss", some 443),
    ("ftp", some 21), ("file", none)]

def isSpecialScheme (scheme : List Char) : Bool :=
  specialSchemes.any fun special => special.1.toList == scheme

def usualPort? (scheme : List Char) : Option Nat :=
  (specialSchemes.find? fun special => special.1.toList == scheme).bind Prod.snd

/-- Whether a character may stand in a scheme, behind its first letter. -/
def isSchemeCharacter (character : Char) : Bool :=
  character.isAlphanum || "+-.".toList.contains character

def cutScheme? (address : List Char) : Option (List Char × List Char) :=
  let scheme := address.takeWhile isSchemeCharacter
  match scheme, address.drop scheme.length with
  | first :: _, ':' :: rest =>
      if first.isAlpha then some (scheme.map Char.toLower, rest) else none
  | _, _ => none

/-! ## Segments -/

/-- Whether a segment stands for the same directory. -/
def isSame (segment : List Char) : Bool :=
  ["." , "%2e"].contains (String.ofList (segment.map Char.toLower))

/-- Whether a segment stands for the upper directory. -/
def isUpper (segment : List Char) : Bool :=
  ["..", ".%2e", "%2e.", "%2e%2e"].contains
    (String.ofList (segment.map Char.toLower))

/-- Whether a segment is a letter with a colon or a bar, which stands for a drive
and has no upper directory. -/
def isDrive : List Char → Bool
  | [letter, mark] => letter.isAlpha && (mark == ':' || mark == '|')
  | _ => false

/-- The segments of the upper directory, where the last one stands first. -/
def upper : List (List Char) → List (List Char)
  | [] => []
  | last :: others => if isDrive last then last :: others else others

/-- Resolve the segments of a path; `before` holds those in front of them, last
one first. -/
def resolved (before : List (List Char)) : List (List Char) → List (List Char)
  | [] => before.reverse
  | segment :: rest =>
      let kept :=
        if isUpper segment then upper before
        else if isSame segment then before
        else percentEncoded isEncodedInPath segment :: before
      if rest.isEmpty && (isUpper segment || isSame segment) then
        ([] :: kept).reverse
      else resolved kept rest

def segmentsOf (isSpecial : Bool) (text : List Char) : List (List Char) :=
  resolved [] (segments (text.map fun character =>
    if isSlash isSpecial character then '/' else character))

/-! ## Hosts and ports -/

def cutAtLast? (divider : Char) (text : List Char) :
    Option (List Char × List Char) :=
  let behind := (text.reverse.takeWhile fun character => character != divider).reverse
  if behind.length < text.length then
    some (text.take (text.length - behind.length - 1), behind)
  else none

/-- The rest of a text behind what it says about a user, and whether it says
anything.  Nothing is refused here but an at sign alone in front of a slash. -/
def withoutUser (isSpecial : Bool) (text : List Char) : Option (Bool × List Char) :=
  let start := text.takeWhile fun character => !isSlash isSpecial character
  let rest := text.drop start.length
  match cutAtLast? '@' start with
  | none => some (false, text)
  | some (user, host) =>
      if user.isEmpty && host.isEmpty && !rest.isEmpty then none
      else some (!user.isEmpty && user != [':'], host ++ rest)

/-- The characters of a host at the start of a text: up to a slash, or up to a
colon that is not in square brackets. -/
def hostRun (isSpecial inBrackets : Bool) : List Char → List Char
  | [] => []
  | character :: rest =>
      if isSlash isSpecial character || (character == ':' && !inBrackets) then []
      else
        let inside := character == '[' || (inBrackets && character != ']')
        character :: hostRun isSpecial inside rest

/-- Read a port, whose colon has been taken; the answer is also what follows. -/
def port? (usual : Option Nat) (text : List Char) :
    Option (Option Nat × List Char) :=
  let digits := text.takeWhile Char.isDigit
  let rest := text.drop digits.length
  let value := (Text.value? digits).getD 0
  if 2 ^ 16 ≤ value || !(rest.isEmpty || rest.head?.any (isSlash true)) then none
  else if digits.isEmpty || some value == usual then some (none, rest)
  else some (some value, rest)

def authority? (scheme : List Char) (text : List Char) :
    Option (Authority × List Char) := do
  let isSpecial := isSpecialScheme scheme
  let (hasUser, text) ← withoutUser isSpecial text
  let run := hostRun isSpecial false text
  let behind := text.drop run.length
  if run.isEmpty && (isSpecial || hasUser || behind.head? == some ':') then none
  else do
    let host ← Host.parse? isSpecial run
    match behind with
    | ':' :: rest => do
        let (port, rest) ← port? (usualPort? scheme) rest
        some (⟨host, port⟩, rest)
    | rest => some (⟨host, none⟩, rest)

/-! ## Reading -/

/-- The parts of an address that depend on its scheme. -/
abbrev Place : Type := Option Authority × UrlPath

/-- Read what stands behind two slashes. -/
def hosted? (scheme : List Char) (text : List Char) : Option Place := do
  let isSpecial := isSpecialScheme scheme
  let (authority, rest) ← authority? scheme text
  let path :=
    match rest with
    | [] => if isSpecial then [[]] else []
    | first :: others =>
        if isSlash isSpecial first then segmentsOf isSpecial others
        else segmentsOf isSpecial rest
  some (some authority, .segments path)

/-- The segments of a path in a system of files.  Empty ones at the start are left
out, and a drive has a colon. -/
def fileSegments (text : List Char) : List (List Char) :=
  match (segmentsOf true text).dropWhile List.isEmpty with
  | [] => [[]]
  | first :: rest =>
      match first with
      | [letter, '|'] => (if letter.isAlpha then [letter, ':'] else first) :: rest
      | _ => first :: rest

/-- Read what stands behind the scheme of a system of files.  A host that is this
one, or stands in front of a drive, is left out. -/
def file? (text : List Char) : Option Place :=
  let nobody : Authority := ⟨.name [], none⟩
  match text with
  | first :: second :: rest =>
      if isSlash true first && isSlash true second then
        let run := rest.takeWhile fun character => !isSlash true character
        let behind := rest.drop run.length
        if run.isEmpty then some (some nobody, .segments (fileSegments behind))
        else if isDrive run then some (some nobody, .segments (fileSegments rest))
        else do
          let host ← Host.parse? true run
          let path := fileSegments behind
          let isHere := host == .name "localhost".toList || path.head?.any isDrive
          some (some (if isHere then nobody else ⟨host, none⟩), .segments path)
      else some (some nobody, .segments (fileSegments text))
  | _ => some (some nobody, .segments (fileSegments text))

/-- Read what stands behind a scheme that has no names of hosts. -/
def place? (scheme : List Char) : List Char → Option Place
  | '/' :: '/' :: rest => hosted? scheme rest
  | '/' :: rest => some (none, .segments (segmentsOf false rest))
  | text => some (none, .plain (percentEncoded isForeign text))

/-- Cut a text at a character, which is dropped. -/
def cutAt (divider : Char) (text : List Char) : List Char × Option (List Char) :=
  let before := text.takeWhile fun character => character != divider
  match text.drop before.length with
  | [] => (before, none)
  | _ :: behind => (before, some behind)

def parse? (text : String) : Option Url := do
  let isOutside (character : Char) : Bool := character.toNat ≤ 0x20
  let inside :=
    ((text.toList.dropWhile isOutside).reverse.dropWhile isOutside).reverse
  let cleaned := inside.filter fun character => !isDropped character
  let (scheme, rest) ← cutScheme? cleaned
  let (rest, fragment) := cutAt '#' rest
  let (rest, query) := cutAt '?' rest
  let isSpecial := isSpecialScheme scheme
  let (authority, path) ←
    if scheme = "file".toList then file? rest
    else if isSpecial then hosted? scheme (rest.dropWhile (isSlash true))
    else place? scheme rest
  some
    { scheme := scheme
      authority := authority
      urlPath := path
      query := query.map (percentEncoded (isEncodedInQuery isSpecial))
      fragment := fragment.map (percentEncoded isEncodedInFragment) }

/-! ## Writing -/

def path (url : Url) : List Char :=
  match url.urlPath with
  | .segments segments => segments.flatMap fun segment => '/' :: segment
  | .plain text => text

/-- A part of an address behind its mark, if there is one. -/
def marked (mark : Char) : Option (List Char) → List Char
  | none => []
  | some text => mark :: text

/-- The path and the query, as they are sent. -/
def target (url : Url) : List Char := url.path ++ marked '?' url.query

def Authority.written (authority : Authority) : List Char :=
  authority.host.written ++
    marked ':' (authority.port.map Text.digits)

/-- What stands between the scheme and the path.  A path without a host may not
look as if it had one. -/
def beforePath (url : Url) : List Char :=
  match url.authority with
  | some authority => "//".toList ++ Authority.written authority
  | none => if "//".toList.isPrefixOf url.path then "/.".toList else []

def written (url : Url) : List Char :=
  url.scheme ++ ':' :: url.beforePath ++ url.target ++ marked '#' url.fragment

/-! ## Adding segments -/

/-- The segments of a path without an empty one at the end, unless it is the only
one. -/
def withoutEmptyEnd (segments : List (List Char)) : List (List Char) :=
  if segments.length > 1 ∧ segments.getLast? = some [] then segments.dropLast
  else segments

/-- Add a segment to a path.  A single empty segment is replaced. -/
def withSegment (segments : List (List Char)) (added : List Char) :
    List (List Char) :=
  let start := if segments = [[]] then [] else segments
  if isUpper added then (upper start.reverse).reverse ++ [[]]
  else if isSame added then start ++ [[]]
  else start ++ [percentEncoded isEncodedInSegment added]

/-- Add segments to the path.  Those that are given as the same or the upper
directory are left out. -/
def extended (url : Url) (added : List String) : Url :=
  let kept := added.filter fun segment => segment != "." && segment != ".."
  match url.urlPath with
  | .plain _ => url
  | .segments segments =>
      { url with
        urlPath := .segments (kept.foldl
          (fun path segment =>
            withSegment path (segment.toList.filter fun character =>
              !isDropped character))
          (withoutEmptyEnd segments)) }

/-! ## Requests over HTTP -/

def hasHost (url : Url) : Bool :=
  url.authority.any fun authority => authority.host != .name []

/-- Whether requests can be sent to the address: it is one for HTTP, and the name
of the host holds none of some characters. -/
def isSendable (url : Url) : Bool :=
  (url.scheme == "http".toList || url.scheme == "https".toList) &&
    url.authority.any fun authority =>
      authority.host.written.all fun character =>
        !"\"\x60\x7b\x7d".toList.contains character

end Url

end ClearingHouse.Http
