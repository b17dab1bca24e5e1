import ClearingHouse.Message.Payment
import ClearingHouse.Table

/-!
# The roster of banks

The roster tells for every registered bank its address and how it is reached.
A name is registered once and for all.
-/

namespace ClearingHouse

inductive Connection where
  /-- The bank of this name is part of the same program. -/
  | inside (bank : BankName)
  /-- The bank of this name is called over HTTP, at addresses that start with
  `base`. -/
  | remote (bank : BankName) (base : String)
  deriving DecidableEq

def Connection.bank : Connection → BankName
  | .inside bank => bank
  | .remote bank _ => bank

structure RosterEntry where
  address : String
  connection : Connection
  deriving DecidableEq

abbrev Roster : Type := Table BankName RosterEntry

abbrev Connector : Type := Registration → Except TransferFailure Connection

namespace Roster

def empty : Roster := Table.empty

/-- Add a bank under a name that is not registered yet. -/
def add (roster : Roster) (name : BankName) (entry : RosterEntry) :
    Except TransferFailure Roster :=
  if Table.contains roster name then .error (.alreadyRegistered name.text)
  else .ok (Table.insert roster name entry)

def resolve (roster : Roster) (name : BankName) :
    Except TransferFailure Connection :=
  match Table.find? roster name with
  | some entry => .ok entry.connection
  | none => .error (.unknownBank name.text)

def address? (roster : Roster) (name : BankName) : Option String :=
  (Table.find? roster name).map RosterEntry.address

/-- Whether one text comes before another, or is the same, in the order of
their code points. -/
def inOrder (first second : BankName) : Bool := first.text ≤ second.text

/-- The names of the registered banks, sorted. -/
def names (roster : Roster) : List BankName :=
  (Table.keys roster).mergeSort inOrder

def addresses (roster : Roster) : List (BankName × String) :=
  roster.names.map fun name => (name, (roster.address? name).getD "")

/-- Register a bank.  The connection is made only for a name that is not blank
and not registered. -/
def register (roster : Roster) (connect : Connector)
    (registration : Registration) : Except TransferFailure Roster :=
  if registration.name.isBlank then
    .error (.invalidRequest "bank name is required")
  else if Table.contains roster registration.name then
    .error (.alreadyRegistered registration.name.text)
  else
    match connect registration with
    | .error failure => .error failure
    | .ok connection =>
        roster.add registration.name ⟨registration.address, connection⟩

end Roster

namespace Connector

/-- The base of the addresses at which a remote bank is called: the address
without slashes at its end. -/
def base (address : String) : String :=
  String.ofList
    (address.toList.reverse.dropWhile fun character => character == '/').reverse

def http : Connector := fun registration =>
  let address := Text.trim registration.address
  if "http://".toList.isPrefixOf address.toList ||
      "https://".toList.isPrefixOf address.toList then
    .ok (.remote registration.name (base address))
  else
    .error (.invalidRequest
      ("bank address must be an http(s) URL, got " ++ Text.quoted address))

/-- Connects to banks of the same program, by the addresses at which they are
attached. -/
def inside (attached : Table String BankName) : Connector := fun registration =>
  match attached.find? registration.address with
  | none =>
      .error (.unreachable s!"nothing listens at {registration.address}")
  | some bank =>
      if bank = registration.name then .ok (.inside bank)
      else
        .error (.invalidRequest
          (s!"{registration.address} is served by {bank.text}, " ++
            s!"not {registration.name.text}"))

end Connector

end ClearingHouse
