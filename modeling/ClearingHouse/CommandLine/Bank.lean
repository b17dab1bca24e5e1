import ClearingHouse.Bank.OpeningBalances
import ClearingHouse.CommandLine.Machine
import ClearingHouse.Remote.Registration
import ClearingHouse.Transfer.Journal

/-!
# The program of a bank

The program opens the bank with the index given, and registers it at the clearing
house.
-/

namespace ClearingHouse.BankProgram

variable {m : Type → Type} [Monad m]

/-- A bank that serves the clearing house. -/
structure Serving where
  bank : Bank
  sweeps : SweepSchedule
  /-- The address at which the clearing house finds it. -/
  address : String

def usage : String := "usage: bank_server <id> [--env <name>] [--port <port>]"

def bankName (arguments : List String) : Program m BankName := do
  let text ← Program.orStop (Arguments.firstPlain? arguments) usage
  let index ←
    Program.orStop (Text.unsignedBelow? (2 ^ 32) text.toList)
      s!"bank id must be a number, got {text}"
  return BankName.ofIndex index

def balances (machine : Machine m) (path : String) (name : BankName) :
    Program m (List (AccountNumber × Amount)) := do
  let text ←
    Program.orStop (← machine.readFile path)
      s!"Failed to read customer seed: {path}"
  match OpeningBalances.parse text name with
  | .ok balances => return balances
  | .error error => Program.stop error.message

/-- How long the registration may take, in milliseconds. -/
def registrationTimeout : Nat := 5000

def register (machine : Machine m) (houseAddress : String)
    (registration : Registration) : Program m Unit := do
  let unreachable :=
    RegistrationFailure.unreachable (Registration.target houseAddress)
  match registration.outgoing houseAddress with
  | .error failure => Program.stop failure.message
  | .ok outgoing =>
      match ← machine.exchange registrationTimeout outgoing with
      | .error _ => Program.stop unreachable.message
      | .ok response =>
          match registration.outcome response with
          | .ok () => return
          | .error failure => Program.stop failure.message

/-- Run the program.  The answer is the bank that serves from now on. -/
def run (machine : Machine m) (arguments : List String) : Program m Serving := do
  let name ← bankName arguments
  let environment :=
    (Arguments.valueOf? "--env" arguments).getD Settings.usualEnvironment
  let loaded ← Settings.load machine environment
  loaded.openLog machine name.text
  let settings := loaded.bank
  let opening ← balances machine settings.customersFile name
  let port ← Arguments.port arguments settings.port
  let address ←
    Program.orStop (← machine.listen settings.host port)
      s!"Failed to bind {settings.host}:{port}"
  register machine settings.houseAddress ⟨name, address⟩
  return {
    bank := Bank.opening name settings.holdPolicy opening
    sweeps :=
      { interval := settings.sweepInterval, retention := settings.retention }
    address := address }

end ClearingHouse.BankProgram
