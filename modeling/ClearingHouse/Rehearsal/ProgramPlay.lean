import ClearingHouse.CommandLine.Bank
import ClearingHouse.CommandLine.Client
import ClearingHouse.CommandLine.House

/-!
# Rehearsals of programs

A program runs on a machine that has some files and on which nobody else can be
reached.  What it prints is kept, and time passes only while it waits.  Names and
tokens that differ from run to run can be hidden.
-/

namespace ClearingHouse.Rehearsal

/-- What a program finds and leaves behind. -/
structure Place where
  /-- The texts of the files by the parts of their paths. -/
  files : List (List String × String)
  /-- The directories that have been made, by the parts of their paths. -/
  made : List (List String) := []
  /-- The lines that have been printed, last one first. -/
  printed : List String := []
  now : Nat := 0
  /-- How many names for transfers have been made up. -/
  names : Nat := 0

/-- The pieces of a text between the places where a character stands. -/
def piecesOf (divider : Char) (text : String) : List String :=
  (Text.cut divider text.toList).map String.ofList

/-- The parts of a path, those that lead nowhere left out. -/
def pathParts (path : String) : List String :=
  (piecesOf '/' path).filter fun part => part != "" && part != "."

/-- Whether there is a directory at a place, given by the parts of its path: it
has been made, or there is a file in it. -/
def Place.isDirectory (place : Place) (parts : List String) : Bool :=
  parts.isEmpty || place.made.contains parts ||
    place.files.any fun file =>
      parts.isPrefixOf file.1 && parts.length < file.1.length

/-- Follow the parts of a path from a directory.  Every part leads out of a
directory, and none leads out of the place. -/
def Place.follow (place : Place) (directory : List String) :
    List String → Option (List String)
  | [] => some directory
  | part :: rest =>
      if !place.isDirectory directory then none
      else if part = "" ∨ part = "." then place.follow directory rest
      else if part = ".." then
        if directory.isEmpty then none else place.follow directory.dropLast rest
      else place.follow (directory ++ [part]) rest

/-- The file outside every place that holds nothing. -/
def emptyFile : String := "/dev/null"

/-- The text of a file.  Nothing else is known of what lies outside the place. -/
def Place.file? (place : Place) (path : String) : Option String :=
  if path = emptyFile then some ""
  else if path.toList.head? = some '/' then none
  else
    (place.follow [] (piecesOf '/' path)).bind fun parts =>
      place.files.lookup parts

def Place.makeAlong (place : Place) (directory : List String) :
    List String → Place
  | [] => place
  | part :: rest =>
      if part = "" ∨ part = "." then place.makeAlong directory rest
      else if part = ".." then place.makeAlong directory.dropLast rest
      else
        let next := directory ++ [part]
        ({ place with made := next :: place.made } : Place).makeAlong next rest

def Place.make (place : Place) (path : String) : Place :=
  if path.toList.head? = some '/' then place
  else place.makeAlong [] (piecesOf '/' path)

def Place.makeFile (place : Place) (directory file : String) : Place :=
  if directory.toList.head? = some '/' then place
  else
    let path := piecesOf '/' directory ++ piecesOf '/' file
    let around := place.makeAlong [] path.dropLast
    match around.follow [] path with
    | none => around
    | some parts =>
        if (around.files.lookup parts).isSome || around.isDirectory parts then around
        else { around with files := (parts, "") :: around.files }

/-- A line without the break at its end, of which the line feed is gone. -/
def lineOf (line : String) : String :=
  match line.toList.getLast? with
  | some '\r' => String.ofList line.toList.dropLast
  | _ => line

/-- The lines of a text.  Nothing behind the last line break is no line. -/
def linesOf (text : String) : List String :=
  let lines := piecesOf '\n' text
  (if lines.getLast? = some "" then lines.dropLast else lines).map lineOf

/-- Whether a host is given by a number of four bytes, in any spelling without an
empty part. -/
def isShortNumber (host : String) : Bool :=
  let parts := Text.cut '.' host.toList
  let isMissing (part : List Char) : Bool :=
    ["", "0x", "0X"].contains (String.ofList part)
  !parts.any isMissing &&
    ((parts.mapM Http.Host.part?).bind Http.Host.ofParts?).isSome

/-- Whether a host is given by a number of eight pieces that stands for all
addresses, or for a number of four bytes. -/
def isWideNumber (host : String) : Bool :=
  match Http.Host.ofBrackets? host.toList with
  | some (.long pieces) =>
      pieces.all (· == 0) || pieces.take 6 == [0, 0, 0, 0, 0, 0xFFFF]
  | _ => false

/-- Whether a program can listen at a host.  Without a network no number of four
bytes is known to belong to another machine. -/
def isOwnHost (host : String) : Bool :=
  host.toList.map Char.toLower == "localhost".toList ||
    isShortNumber host || isWideNumber host

def nameTransfer (place : Place) : TransferId × Place :=
  (TransferId.fresh place.now place.names, { place with names := place.names + 1 })

def machine (clock : Nat) : Machine (StateM Place) where
  readFile path := do return (← get).file? path
  makeDirectory path := modify fun place => place.make path
  makeFile directory file := modify fun place => place.makeFile directory file
  printLine line :=
    modify fun place => { place with printed := line :: place.printed }
  now := do return (← get).now
  clock := pure clock
  pause time := modify fun place => { place with now := place.now + time }
  newTransfer := modifyGet nameTransfer
  listen host port :=
    pure (if isOwnHost host then some s!"http://{host}:{port}" else none)
  exchange _ _ := pure (.error .unreachable)

inductive ProgramName where
  | client
  | house
  | bank
  deriving DecidableEq

structure Ending where
  printed : List String
  /-- The first line of what is said if the program could not go on. -/
  problem : Option String

def runProgram (name : ProgramName) (machine : Machine (StateM Place))
    (arguments : List String) (input : String) : Program (StateM Place) Unit :=
  match name with
  | .client => ClientProgram.run machine arguments (linesOf input)
  | .house => do
      let _ ← HouseProgram.run machine arguments
      return
  | .bank => do
      let _ ← BankProgram.run machine arguments
      return

def rehearseProgram (name : ProgramName) (machine : Machine (StateM Place))
    (files : List (String × String)) (arguments : List String) (input : String) :
    Ending :=
  let place : Place :=
    { files := files.map fun (path, text) => (pathParts path, text) }
  let (result, after) := StateT.run (runProgram name machine arguments input).run place
  { printed := after.printed.reverse
    problem :=
      match result with
      | .ok () => none
      | .error message => some ((linesOf s!"Error: {message}").headD "") }

def nameMark : List Char := "(tx ".toList

def withoutName : List Char → List Char
  | [] => []
  | character :: rest =>
      if nameMark.isPrefixOf (character :: rest) then
        nameMark ++ "<ULID>".toList ++ (character :: rest).drop (nameMark.length + 26)
      else character :: withoutName rest

/-- Whether a line is a token: three parts, the first of which is a header. -/
def isToken (line : List Char) : Bool :=
  "eyJ".toList.isPrefixOf line && line.count '.' == 2

/-- A printed line, with names and tokens hidden. -/
def shown (line : String) : String :=
  if isToken line.toList then "<JWT>" else String.ofList (withoutName line.toList)

end ClearingHouse.Rehearsal
