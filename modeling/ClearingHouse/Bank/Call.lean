import ClearingHouse.Bank.Orders

/-!
# Calls to a bank

The clearing house calls a bank to prepare, commit or release a leg, or to tell
a balance.  A call is answered at once, except that preparing may pause between
its attempts; then the bank takes the call up again.
-/

namespace ClearingHouse

/-- What the clearing house can ask of a bank. -/
inductive BankCall where
  | prepare (order : LegOrder)
  | commit (order : LegOrder)
  | release (order : ReleaseOrder)
  | balance (account : AccountNumber)
  deriving DecidableEq

inductive BankReply where
  | done
  | balance (amount : Amount)
  deriving DecidableEq

inductive CallFailure where
  /-- The bank has answered, and refuses. -/
  | refused (refusal : Refusal)
  /-- No usable answer came back. -/
  | unreachable (detail : String)
  deriving DecidableEq

namespace CallFailure

def name : CallFailure → String
  | .refused refusal => refusal.name
  | .unreachable _ => "UNREACHABLE"

def message : CallFailure → String
  | .refused refusal => refusal.message
  | .unreachable detail => s!"unreachable: {detail}"

end CallFailure

namespace Bank

def Attempt.map {α β : Type} (f : α → β) : Attempt α → Attempt β
  | .finished (.ok value) => .finished (.ok (f value))
  | .finished (.error refusal) => .finished (.error refusal)
  | .again pause number => .again pause number

def receive (bank : Bank) (now : Nat) : BankCall → Bank × Attempt BankReply
  | .prepare order =>
      let (next, attempt) := bank.prepare order
      (next, attempt.map fun _ => .done)
  | .commit order =>
      let (next, result) := bank.commit now order
      (next, .finished (result.map fun _ => .done))
  | .release order =>
      let (next, result) := bank.release now order
      (next, .finished (result.map fun _ => .done))
  | .balance account =>
      (bank, .finished ((bank.balance account).map .balance))

/-- Go on with a call after a pause, making the attempt with this number.  Only
preparing ever pauses. -/
def resume (bank : Bank) (number : Nat) : BankCall → Bank × Attempt BankReply
  | .prepare order =>
      let (next, attempt) := bank.attemptPrepare order number
      (next, attempt.map fun _ => .done)
  | _ => (bank, .finished (.ok .done))

end Bank

end ClearingHouse
