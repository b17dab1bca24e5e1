import ClearingHouse.LegOrder
import ClearingHouse.Transfer.Failure

/-!
# Transfers

A transfer moves an amount from one party to another.  It makes one order for
each of its legs, and a receipt once both legs have been applied.
-/

namespace ClearingHouse

structure Party where
  bank : BankName
  account : AccountNumber
  deriving DecidableEq

def Party.text (party : Party) : String :=
  s!"{party.bank.text}/{party.account.text}"

/-- What is known of a transfer that has been asked for. -/
inductive TransferStatus where
  | inProgress
  /-- Both legs have been applied. -/
  | succeeded
  | failed
  deriving DecidableEq

namespace TransferStatus

def text : TransferStatus → String
  | .inProgress => "IN_PROGRESS"
  | .succeeded => "SUCCEEDED"
  | .failed => "FAILED"

def isFinal : TransferStatus → Bool
  | .inProgress => false
  | .succeeded | .failed => true

end TransferStatus

structure Transfer where
  id : TransferId
  sender : Party
  recipient : Party
  amount : Amount
  deriving DecidableEq

/-- What the caller gets for a transfer that has succeeded. -/
structure Receipt where
  transfer : TransferId
  status : TransferStatus
  message : String
  deriving DecidableEq

/-- How a transfer ended. -/
abbrev Outcome : Type := Except TransferFailure Receipt

namespace Transfer

def party (transfer : Transfer) : Side → Party
  | .debit => transfer.sender
  | .credit => transfer.recipient

def legOrder (transfer : Transfer) (side : Side) : LegOrder where
  side := side
  account := (transfer.party side).account
  amount := transfer.amount
  transfer := transfer.id

def releaseOrder (transfer : Transfer) (side : Side) : ReleaseOrder where
  account := (transfer.party side).account
  transfer := transfer.id

def receipt (transfer : Transfer) : Receipt where
  transfer := transfer.id
  status := .succeeded
  message := s!"Transferred {transfer.amount.text} from {transfer.sender.text} " ++
    s!"to {transfer.recipient.text}"

end Transfer

end ClearingHouse
