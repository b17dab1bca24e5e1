import ClearingHouse.LegOrder
import ClearingHouse.Refusal

/-!
# Accounts

An account has a balance and at most one hold.  The hold names the leg that it
was taken for, so that nothing but this leg can be applied while it lasts.
-/

namespace ClearingHouse

/-- The claim of a prepared leg to an account. -/
structure Hold where
  transfer : TransferId
  side : Side
  amount : Amount
  deriving DecidableEq

def LegOrder.hold (order : LegOrder) : Hold :=
  ⟨order.transfer, order.side, order.amount⟩

structure Account where
  balance : Amount
  hold : Option Hold := none
  deriving DecidableEq

namespace Account

/-- The balance after an amount has been moved on one side. -/
def moved (account : Account) (side : Side) (amount : Amount) :
    Except Refusal Amount :=
  match side with
  | .debit =>
      match account.balance.sub? amount with
      | some balance => .ok balance
      | none => .error .insufficientFunds
  | .credit =>
      match account.balance.add? amount with
      | some balance => .ok balance
      | none => .error .tooLarge

def isHeldBy (account : Account) (transfer : TransferId) : Bool :=
  match account.hold with
  | some hold => hold.transfer == transfer
  | none => false

end Account

end ClearingHouse
