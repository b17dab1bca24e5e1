/-!
# Refusals of a bank

Why a bank says no.  Every refusal has a name, a number that travels in
answers, and a detail from which the refusal can be restored.
-/

namespace ClearingHouse

/-- The answer of a bank that does not do what it was asked. -/
inductive Refusal where
  | unknownAccount (account : String)
  | insufficientFunds
  /-- Another transfer holds the account. -/
  | busy
  /-- The balance would become too large. -/
  | tooLarge
  | invalidRequest (detail : String)
  /-- A commit came out of order. -/
  | violation (detail : String)
  deriving DecidableEq

namespace Refusal

def message : Refusal → String
  | .unknownAccount account => s!"Unknown account: {account}"
  | .insufficientFunds => "Insufficient balance to complete transaction"
  | .busy => "Account is locked by another transaction (participant busy)"
  | .tooLarge => "Balance would overflow"
  | .invalidRequest detail => s!"Invalid request: {detail}"
  | .violation detail => s!"Internal invariant violated: {detail}"

def name : Refusal → String
  | .unknownAccount _ => "UNKNOWN_ACCOUNT"
  | .insufficientFunds => "INSUFFICIENT_BALANCE"
  | .busy => "PARTICIPANT_BUSY"
  | .tooLarge => "BALANCE_OVERFLOW"
  | .invalidRequest _ => "INVALID_REQUEST"
  | .violation _ => "INTERNAL_INVARIANT"

def code : Refusal → Int
  | .unknownAccount _ => 3002
  | .insufficientFunds => 3003
  | .busy => 4001
  | .tooLarge => 3005
  | .invalidRequest _ => 1001
  | .violation _ => 5002

/-- The text that travels beside the number: what the refusal holds, or its
message if it holds nothing. -/
def detail : Refusal → String
  | .unknownAccount account => account
  | .invalidRequest detail => detail
  | .violation detail => detail
  | refusal => refusal.message

def httpStatus : Refusal → Nat
  | .unknownAccount _ => 404
  | .insufficientFunds => 422
  | .busy => 409
  | .tooLarge => 422
  | .invalidRequest _ => 400
  | .violation _ => 500

/-- The refusal with this number and this detail; `none` for a number that no
bank uses. -/
def ofCode? (code : Int) (detail : String) : Option Refusal :=
  if code = 3002 then some (.unknownAccount detail)
  else if code = 3003 then some .insufficientFunds
  else if code = 4001 then some .busy
  else if code = 3005 then some .tooLarge
  else if code = 1001 then some (.invalidRequest detail)
  else if code = 5002 then some (.violation detail)
  else none

end Refusal

end ClearingHouse
