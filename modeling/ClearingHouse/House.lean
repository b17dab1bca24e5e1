import ClearingHouse.Identity.Credentials
import ClearingHouse.Transfer.Roster
import ClearingHouse.Transfer.Settlement

/-!
# The clearing house

The clearing house knows the registered banks, the transfers under way or just
ended, and who may call it.  It checks what it is asked for, and lets a transfer
that is not known yet be settled.
-/

namespace ClearingHouse

structure House where
  roster : Roster
  journal : Journal
  credentials : Credentials
  /-- How long a call to a bank may take, in milliseconds. -/
  callTimeout : Nat := 5000

/-- What a caller who has asked for a transfer gets. -/
inductive Reception where
  /-- The transfer has been entered in the journal, and is settled now. -/
  | accepted
  | answered (outcome : Outcome)

namespace House

def opening (credentials : Credentials) (callTimeout : Nat) : House where
  roster := Roster.empty
  journal := Journal.empty
  credentials := credentials
  callTimeout := callTimeout

/-- Refuse a transfer that has no name, moves nothing, goes nowhere, or needs a
bank that is not registered. -/
def check (house : House) (transfer : Transfer) :
    Except TransferFailure Unit :=
  if transfer.id.isBlank then .error (.invalidRequest "tx_id is required")
  else if transfer.amount.isZero then .error .invalidAmount
  else if transfer.sender = transfer.recipient then .error .sameAccount
  else do
    let _ ← house.roster.resolve transfer.sender.bank
    let _ ← house.roster.resolve transfer.recipient.bank
    return ()

/-- Take the order for a transfer.  One that is under way, or has ended not long
ago, is answered from the journal. -/
def receive (house : House) (transfer : Transfer) : House × Reception :=
  match house.check transfer with
  | .error failure => (house, .answered (.error failure))
  | .ok () =>
      match house.journal.begin transfer with
      | (journal, .fresh) => ({ house with journal := journal }, .accepted)
      | (_, .running) => (house, .answered (.error .inProgress))
      | (_, .settled outcome) => (house, .answered outcome)

def order (house : House) (clock : Nat) (token : String)
    (payment : PaymentOrder) : Except TransferFailure Transfer := do
  let caller ← house.credentials.resolve clock token
  return {
    id := payment.transfer
    sender := caller.party
    recipient := payment.recipient
    amount := payment.amount }

def conclude (house : House) (now : Nat) (transfer : TransferId)
    (conclusion : Settlement.Conclusion) : House :=
  { house with journal := house.journal.conclude now transfer conclusion }

/-- The failure of a transfer whose settlement broke off. -/
def brokenFailure : TransferFailure := .internal "transfer task failed"

/-- Drop a transfer whose settlement broke off. -/
def abandon (house : House) (transfer : TransferId) : House :=
  { house with journal := house.journal.forget transfer }

def register (house : House) (connect : Connector)
    (registration : Registration) : Except TransferFailure House := do
  let roster ← house.roster.register connect registration
  return { house with roster := roster }

/-- Drop transfers that ended `retention` ago or longer. -/
def sweep (house : House) (now retention : Nat) : House :=
  { house with journal := house.journal.sweep now retention }

/-- The caller who asks for the balance of the own account, if the bank of that
account is registered. -/
def enquirer (house : House) (clock : Nat) (token : String) :
    Except TransferFailure Caller := do
  let caller ← house.credentials.resolve clock token
  let _ ← house.roster.resolve caller.bank
  return caller

end House

end ClearingHouse
