import ClearingHouse.Message.Order
import ClearingHouse.Message.Payment

/-!
# Instructions of a client

A client asks for the balance of the caller's account, or for a payment out of
it.  Two instructions with the same key ask for the same thing.
-/

namespace ClearingHouse

/-- What a client can ask of the clearing house. -/
inductive Instruction where
  | balance
  | pay (order : PaymentOrder)
  deriving DecidableEq

/-- What makes two instructions the same request. -/
inductive InstructionKey where
  | balance
  | pay (transfer : TransferId)
  deriving DecidableEq

namespace Instruction

/-- The key of an instruction; that of a payment is the name of its transfer. -/
def key : Instruction → InstructionKey
  | .balance => .balance
  | .pay order => .pay order.transfer

def verb : Instruction → String
  | .balance => "balance"
  | .pay _ => "pay"

def text : Instruction → String
  | .balance => "balance"
  | .pay order =>
      s!"pay {order.amount.text} to {order.recipient.text} " ++
        s!"(tx {order.transfer.text})"

end Instruction

inductive Answer where
  | balance (data : AccountBalance)
  | paid (data : PaymentAnswer)
  deriving DecidableEq

def Answer.text : Answer → String
  | .balance data => s!"balance of {data.account.text}: {data.balance.text}"
  | .paid data => s!"{data.message} ({data.status})"

end ClearingHouse
