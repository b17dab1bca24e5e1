import ClearingHouse.Message.Basic

/-!
# Messages to a bank

The orders that a bank takes, and what it answers with when it does not refuse:
an acknowledgement, or the balance of an account.
-/

namespace ClearingHouse

open Json.Reader (record)

namespace LegOrder

structure Draft where
  side : Option Side := none
  account : Option AccountNumber := none
  amount : Option Amount := none
  transfer : Option TransferId := none

def Draft.complete (draft : Draft) : Option LegOrder := do
  return ⟨← draft.side, ← draft.account, ← draft.amount, ← draft.transfer⟩

def fields : List (Json.Reader.Field Draft) :=
  [Message.field "kind" Draft.side fun draft side =>
      { draft with side := some side },
    Message.field "account" Draft.account fun draft account =>
      { draft with account := some account },
    Message.field "amount" Draft.amount fun draft amount =>
      { draft with amount := some amount },
    Message.field "tx_id" Draft.transfer fun draft transfer =>
      { draft with transfer := some transfer }]

end LegOrder

instance : Message LegOrder where
  encode order := Json.object
    [("kind", Message.encode order.side),
      ("account", Message.encode order.account),
      ("amount", Message.encode order.amount),
      ("tx_id", Message.encode order.transfer)]
  reader := record LegOrder.fields {} LegOrder.Draft.complete

namespace ReleaseOrder

structure Draft where
  account : Option AccountNumber := none
  transfer : Option TransferId := none

def Draft.complete (draft : Draft) : Option ReleaseOrder := do
  return ⟨← draft.account, ← draft.transfer⟩

def fields : List (Json.Reader.Field Draft) :=
  [Message.field "account" Draft.account fun draft account =>
      { draft with account := some account },
    Message.field "tx_id" Draft.transfer fun draft transfer =>
      { draft with transfer := some transfer }]

end ReleaseOrder

instance : Message ReleaseOrder where
  encode order := Json.object
    [("account", Message.encode order.account),
      ("tx_id", Message.encode order.transfer)]
  reader := record ReleaseOrder.fields {} ReleaseOrder.Draft.complete

/-- The answer of a bank that has done what it was asked. -/
structure Acknowledgement where
  deriving DecidableEq

instance : Message Acknowledgement where
  encode _ := Json.object []
  reader := record (δ := Unit) [] () fun _ => some {}

structure AccountBalance where
  account : AccountNumber
  balance : Amount
  deriving DecidableEq

namespace AccountBalance

structure Draft where
  account : Option AccountNumber := none
  balance : Option Amount := none

def Draft.complete (draft : Draft) : Option AccountBalance := do
  return ⟨← draft.account, ← draft.balance⟩

def fields : List (Json.Reader.Field Draft) :=
  [Message.field "account" Draft.account fun draft account =>
      { draft with account := some account },
    Message.field "balance" Draft.balance fun draft balance =>
      { draft with balance := some balance }]

end AccountBalance

instance : Message AccountBalance where
  encode data := Json.object
    [("account", Message.encode data.account),
      ("balance", Message.encode data.balance)]
  reader := record AccountBalance.fields {} AccountBalance.Draft.complete

end ClearingHouse
