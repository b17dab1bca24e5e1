import ClearingHouse.Message.Basic
import ClearingHouse.Transfer.Basic

/-!
# Messages to the clearing house

A bank registers once, under a name and an address.  A caller orders payments
out of the account that the bearer token stands for.
-/

namespace ClearingHouse

open Json.Reader (record)

structure Registration where
  name : BankName
  /-- Where the bank can be reached. -/
  address : String
  deriving DecidableEq

namespace Registration

structure Draft where
  name : Option BankName := none
  address : Option String := none

def Draft.complete (draft : Draft) : Option Registration := do
  return ⟨← draft.name, ← draft.address⟩

def fields : List (Json.Reader.Field Draft) :=
  [Message.field "name" Draft.name fun draft name =>
      { draft with name := some name },
    Message.field "address" Draft.address fun draft address =>
      { draft with address := some address }]

end Registration

instance : Message Registration where
  encode registration := Json.object
    [("name", Message.encode registration.name),
      ("address", Message.encode registration.address)]
  reader := record Registration.fields {} Registration.Draft.complete

/-- A payment out of the account of the caller. -/
structure PaymentOrder where
  bank : BankName
  account : AccountNumber
  amount : Amount
  transfer : TransferId
  deriving DecidableEq

namespace PaymentOrder

structure Draft where
  bank : Option BankName := none
  account : Option AccountNumber := none
  amount : Option Amount := none
  transfer : Option TransferId := none

def Draft.complete (draft : Draft) : Option PaymentOrder := do
  return ⟨← draft.bank, ← draft.account, ← draft.amount, ← draft.transfer⟩

def fields : List (Json.Reader.Field Draft) :=
  [Message.field "recipient_bank" Draft.bank fun draft bank =>
      { draft with bank := some bank },
    Message.field "recipient_account" Draft.account fun draft account =>
      { draft with account := some account },
    Message.field "amount" Draft.amount fun draft amount =>
      { draft with amount := some amount },
    Message.field "tx_id" Draft.transfer fun draft transfer =>
      { draft with transfer := some transfer }]

def recipient (order : PaymentOrder) : Party := ⟨order.bank, order.account⟩

end PaymentOrder

instance : Message PaymentOrder where
  encode order := Json.object
    [("recipient_bank", Message.encode order.bank),
      ("recipient_account", Message.encode order.account),
      ("amount", Message.encode order.amount),
      ("tx_id", Message.encode order.transfer)]
  reader := record PaymentOrder.fields {} PaymentOrder.Draft.complete

/-- The answer to a payment that has been made. -/
structure PaymentAnswer where
  transfer : TransferId
  status : String
  message : String
  deriving DecidableEq

namespace PaymentAnswer

def ofReceipt (receipt : Receipt) : PaymentAnswer where
  transfer := receipt.transfer
  status := receipt.status.text
  message := receipt.message

structure Draft where
  transfer : Option TransferId := none
  status : Option String := none
  message : Option String := none

def Draft.complete (draft : Draft) : Option PaymentAnswer := do
  return ⟨← draft.transfer, ← draft.status, ← draft.message⟩

def fields : List (Json.Reader.Field Draft) :=
  [Message.field "tx_id" Draft.transfer fun draft transfer =>
      { draft with transfer := some transfer },
    Message.field "status" Draft.status fun draft status =>
      { draft with status := some status },
    Message.field "message" Draft.message fun draft message =>
      { draft with message := some message }]

end PaymentAnswer

instance : Message PaymentAnswer where
  encode answer := Json.object
    [("tx_id", Message.encode answer.transfer),
      ("status", Message.encode answer.status),
      ("message", Message.encode answer.message)]
  reader := record PaymentAnswer.fields {} PaymentAnswer.Draft.complete

end ClearingHouse
