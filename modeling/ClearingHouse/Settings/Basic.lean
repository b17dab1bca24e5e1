import ClearingHouse.Bank.Basic
import ClearingHouse.Client.Delivery

/-!
# Settings

The settings of the house, of a bank and of a client, and of what they log.
Every duration is in milliseconds.
-/

namespace ClearingHouse

structure LogSettings where
  level : String := "info"
  directory : String := "./logs"
  file : String := "interbank.log"
  asJson : Bool := false
  rotation : String := "daily"
  deriving DecidableEq

def LogSettings.fileOf (settings : LogSettings) (component : String) : String :=
  component ++ "." ++ settings.file

/-- Whether there is a new log file every hour or every day.  Its name then ends
with the time. -/
def LogSettings.isRotated (settings : LogSettings) : Bool :=
  settings.rotation == "hourly" || settings.rotation == "daily"

structure HouseSettings where
  host : String := "127.0.0.1"
  port : Nat := 8080
  usersFile : String := "sample_data/pg_users.json"
  /-- The secret with which tokens are signed. -/
  secret : String := "interbank-dev-secret"
  callTimeout : Nat := 5000
  /-- How long the outcome of a transfer is remembered. -/
  retention : Nat := 3600000
  sweepInterval : Nat := 60000
  deriving DecidableEq

structure BankSettings where
  host : String := "127.0.0.1"
  /-- The port to listen at; zero stands for any free one. -/
  port : Nat := 0
  /-- The file that holds the opening balances. -/
  customersFile : String := "sample_data/bank_customers.json"
  houseAddress : String := "http://127.0.0.1:8080"
  holdAttempts : Nat := 3
  holdBackoff : Nat := 100
  /-- How long a finished leg is remembered. -/
  retention : Nat := 3600000
  sweepInterval : Nat := 60000
  deriving DecidableEq

def BankSettings.holdPolicy (settings : BankSettings) : HoldPolicy :=
  { attempts := settings.holdAttempts, backoff := settings.holdBackoff }

structure ClientSettings where
  houseAddress : String := "http://127.0.0.1:8080"
  token : String := ""
  maxAttempts : Nat := 5
  attemptTimeout : Nat := 5000
  backoff : Nat := 1000
  offlineInterval : Nat := 15000
  /-- How often the outbox is looked through. -/
  drainInterval : Nat := 3000
  deriving DecidableEq

/-- How often and how long a client with these settings sends an instruction:
once at least. -/
def ClientSettings.retryPolicy (settings : ClientSettings) : RetryPolicy :=
  { attempts := max 1 settings.maxAttempts
    timeout := settings.attemptTimeout
    backoff := settings.backoff }

structure Settings where
  log : LogSettings := {}
  house : HouseSettings := {}
  bank : BankSettings := {}
  client : ClientSettings := {}
  deriving DecidableEq

end ClearingHouse
