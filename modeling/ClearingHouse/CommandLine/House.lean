import ClearingHouse.CommandLine.Machine
import ClearingHouse.House

/-!
# The program of the clearing house

The program prints a token for a user, or opens a clearing house that serves
callers.
-/

namespace ClearingHouse.HouseProgram

variable {m : Type → Type} [Monad m]

structure Serving where
  house : House
  sweeps : SweepSchedule
  /-- The address at which callers find it. -/
  address : String

def environment (arguments : List String) : String :=
  ((Arguments.valueOf? "--env" arguments).or
    (Arguments.valueOf? "-e" arguments)).getD Settings.usualEnvironment

def directory (machine : Machine m) (path : String) : Program m Directory := do
  let text ←
    Program.orStop (← machine.readFile path)
      s!"Failed to read user directory: {path}"
  Program.orStop (Directory.parse text).toOption Directory.malformedMessage

/-- For how many seconds an issued token is valid. -/
def tokenLifetime : Int := 24 * 60 * 60

def issueToken (machine : Machine m) (settings : HouseSettings)
    (username : String) : Program m Unit := do
  let users ← directory machine settings.usersFile
  match users.user? username with
  | none => Program.stop s!"unknown user {username}"
  | some user =>
      let token := Credentials.issueCustomer settings.secret (← machine.clock)
        user.username tokenLifetime
      machine.printLine token

def opening (machine : Machine m) (settings : HouseSettings)
    (arguments : List String) : Program m Serving := do
  let port ← Arguments.port arguments settings.port
  let users ← directory machine settings.usersFile
  let address ←
    Program.orStop (← machine.listen settings.host port)
      s!"Failed to bind {settings.host}:{port}"
  return {
    house := House.opening (.signed settings.secret users) settings.callTimeout
    sweeps :=
      { interval := settings.sweepInterval, retention := settings.retention }
    address := address }

/-- Run the program.  The answer is the clearing house that serves from now on, if
there is one. -/
def run (machine : Machine m) (arguments : List String) :
    Program m (Option Serving) := do
  let settings ← Settings.load machine (environment arguments)
  match Arguments.valueOf? "--issue-token" arguments with
  | some username =>
      issueToken machine settings.house username
      return none
  | none =>
      settings.openLog machine "gateway"
      return some (← opening machine settings.house arguments)

end ClearingHouse.HouseProgram
