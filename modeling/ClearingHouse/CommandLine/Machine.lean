import ClearingHouse.Remote.Outgoing
import ClearingHouse.Settings.Reader

/-!
# What programs need of a machine

A program reads files, writes lines, knows the time and exchanges requests for
responses.  Everything else that it does is said without a machine.  A program
ends with a message if it cannot go on.
-/

namespace ClearingHouse

/-- A machine on which programs run, each step being an effect of `m`. -/
structure Machine (m : Type → Type) where
  readFile : String → m (Option String)
  makeDirectory : String → m Unit
  /-- Make an empty file in a directory, unless there is one. -/
  makeFile : (directory file : String) → m Unit
  printLine : String → m Unit
  /-- The time in milliseconds since some start. -/
  now : m Nat
  /-- The time in seconds since the start of 1970. -/
  clock : m Nat
  /-- Wait for some milliseconds. -/
  pause : Nat → m Unit
  /-- A name for a transfer that has never been used. -/
  newTransfer : m TransferId
  /-- Listen at a host and a port.  The answer is the address at which others
  find the program. -/
  listen : String → Nat → m (Option String)
  /-- Send a request, and wait some milliseconds at most for the response. -/
  exchange : Nat → Outgoing → m (Except Outage Http.Response)

/-- A program that may end with a message. -/
abbrev Program (m : Type → Type) (α : Type) : Type := ExceptT String m α

namespace Program

variable {m : Type → Type} [Monad m] {α : Type}

def stop (message : String) : Program m α := throw message

def orStop (value : Option α) (message : String) : Program m α :=
  match value with
  | some value => pure value
  | none => stop message

end Program

/-! ## Arguments -/

namespace Arguments

/-- The argument behind the first one that is a given flag. -/
def valueOf? (flag : String) : List String → Option String
  | [] => none
  | argument :: rest => if argument = flag then rest.head? else valueOf? flag rest

/-- The first argument that is no flag.  Whatever follows a flag belongs to it. -/
def firstPlain? : List String → Option String
  | [] => none
  | argument :: rest =>
      if argument.toList.head? = some '-' then
        match rest with
        | [] => none
        | _ :: further => firstPlain? further
      else some argument

/-- The port that the arguments ask for, or else the usual one. -/
def port {m : Type → Type} [Monad m] (arguments : List String) (usual : Nat) :
    Program m Nat :=
  match valueOf? "--port" arguments with
  | none => pure usual
  | some text =>
      Program.orStop (Text.unsignedBelow? (2 ^ 16) text.toList)
        s!"invalid --port {text}"

end Arguments

def Settings.load {m : Type → Type} [Monad m] (machine : Machine m)
    (environment : String) : Program m Settings := do
  let path := s!"config/{environment}.yaml"
  let text ←
    Program.orStop (← machine.readFile path) s!"Failed to read config file: {path}"
  Program.orStop (Settings.parse? text) s!"Failed to parse {path}"

def Settings.openLog {m : Type → Type} [Monad m] (machine : Machine m)
    (settings : Settings) (component : String) : Program m Unit := do
  let log := settings.log
  (machine.makeDirectory log.directory : m Unit)
  if !log.isRotated then
    (machine.makeFile log.directory (log.fileOf component) : m Unit)

def Settings.usualEnvironment : String := "dev"

end ClearingHouse
