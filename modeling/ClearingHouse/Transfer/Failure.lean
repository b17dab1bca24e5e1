import ClearingHouse.Refusal
import ClearingHouse.Text.Quoted

/-!
# Failures of a transfer

Why the clearing house does not do what it was asked.  A failure is retryable
if the same transfer may be asked for again; every other failure is final.
-/

namespace ClearingHouse

/-- Why a transfer, an enquiry or a registration did not succeed. -/
inductive TransferFailure where
  /-- The amount is zero. -/
  | invalidAmount
  | sameAccount
  | invalidRequest (detail : String)
  | missingToken
  | invalidToken
  | unknownUser (username : String)
  /-- The role of the caller may not pay. -/
  | forbidden (role : String)
  | unknownBank (bank : String)
  | unknownAccount (account : String)
  | insufficientFunds
  | alreadyRegistered (bank : String)
  /-- The balance of the payee would become too large. -/
  | tooLarge
  /-- Another transfer holds an account. -/
  | busy
  | inProgress
  | timeout
  | unreachable (detail : String)
  | violation (detail : String)
  /-- A commit failed after everything had been prepared. -/
  | commitIncomplete (detail : String)
  | internal (detail : String)
  deriving DecidableEq

namespace TransferFailure

def message : TransferFailure → String
  | .invalidAmount => "Amount must be greater than zero"
  | .sameAccount => "Sender and recipient account cannot be the same"
  | .invalidRequest detail => s!"Invalid request: {detail}"
  | .missingToken => "Missing authorization token"
  | .invalidToken => "Invalid token"
  | .unknownUser username => s!"Unknown user: {username}"
  | .forbidden role => "Access denied for role " ++ Text.quoted role
  | .unknownBank bank => s!"Unknown bank: {bank}"
  | .unknownAccount account => s!"Unknown account: {account}"
  | .insufficientFunds => "Insufficient balance"
  | .alreadyRegistered bank => s!"Bank already registered: {bank}"
  | .tooLarge => "Recipient balance would overflow"
  | .busy => "Participant busy, retry later"
  | .inProgress => "Transaction in progress"
  | .timeout => "Request timed out"
  | .unreachable detail => s!"Participant unreachable: {detail}"
  | .violation detail => s!"Internal invariant violated: {detail}"
  | .commitIncomplete detail => s!"Commit incomplete: {detail}"
  | .internal detail => s!"Internal error: {detail}"

def name : TransferFailure → String
  | .invalidAmount => "INVALID_AMOUNT"
  | .sameAccount => "SAME_ACCOUNT"
  | .invalidRequest _ => "INVALID_PARAMETER"
  | .missingToken => "MISSING_AUTH"
  | .invalidToken => "INVALID_TOKEN"
  | .unknownUser _ => "UNKNOWN_USER"
  | .forbidden _ => "FORBIDDEN"
  | .unknownBank _ => "UNKNOWN_BANK"
  | .unknownAccount _ => "UNKNOWN_ACCOUNT"
  | .insufficientFunds => "INSUFFICIENT_BALANCE"
  | .alreadyRegistered _ => "BANK_ALREADY_REGISTERED"
  | .tooLarge => "BALANCE_OVERFLOW"
  | .busy => "PARTICIPANT_BUSY"
  | .inProgress => "DUPLICATE_IN_FLIGHT"
  | .timeout => "TIMEOUT"
  | .unreachable _ => "PARTICIPANT_UNREACHABLE"
  | .violation _ => "INTERNAL_INVARIANT"
  | .commitIncomplete _ => "COMMIT_INCOMPLETE"
  | .internal _ => "INTERNAL_ERROR"

def code : TransferFailure → Int
  | .invalidAmount => 1002
  | .sameAccount => 1003
  | .invalidRequest _ => 1001
  | .missingToken => 2001
  | .invalidToken => 2002
  | .unknownUser _ => 2003
  | .forbidden _ => 2004
  | .unknownBank _ => 3001
  | .unknownAccount _ => 3002
  | .insufficientFunds => 3003
  | .alreadyRegistered _ => 3004
  | .tooLarge => 3005
  | .busy => 4001
  | .inProgress => 4002
  | .timeout => 4003
  | .unreachable _ => 5001
  | .violation _ => 5002
  | .commitIncomplete _ => 5003
  | .internal _ => 5000

/-- The text that travels beside the number: what the failure holds, or its
message if it holds nothing. -/
def detail : TransferFailure → String
  | .invalidRequest detail => detail
  | .unknownUser username => username
  | .forbidden role => role
  | .unknownBank bank => bank
  | .unknownAccount account => account
  | .alreadyRegistered bank => bank
  | .unreachable detail => detail
  | .violation detail => detail
  | .commitIncomplete detail => detail
  | .internal detail => detail
  | failure => failure.message

def httpStatus : TransferFailure → Nat
  | .invalidAmount | .sameAccount | .invalidRequest _ => 400
  | .missingToken | .invalidToken => 401
  | .forbidden _ => 403
  | .unknownUser _ | .unknownBank _ | .unknownAccount _ => 404
  | .alreadyRegistered _ | .busy | .inProgress => 409
  | .insufficientFunds | .tooLarge => 422
  | .timeout => 504
  | .unreachable _ => 502
  | .violation _ | .commitIncomplete _ | .internal _ => 500

/-- The failure with this number and this detail.  A number that no failure has
makes an internal failure. -/
def ofCode (code : Int) (detail : String) : TransferFailure :=
  if code = 1002 then .invalidAmount
  else if code = 1003 then .sameAccount
  else if code = 1001 then .invalidRequest detail
  else if code = 2001 then .missingToken
  else if code = 2002 then .invalidToken
  else if code = 2003 then .unknownUser detail
  else if code = 2004 then .forbidden detail
  else if code = 3001 then .unknownBank detail
  else if code = 3002 then .unknownAccount detail
  else if code = 3003 then .insufficientFunds
  else if code = 3004 then .alreadyRegistered detail
  else if code = 3005 then .tooLarge
  else if code = 4001 then .busy
  else if code = 4002 then .inProgress
  else if code = 4003 then .timeout
  else if code = 5001 then .unreachable detail
  else if code = 5002 then .violation detail
  else if code = 5003 then .commitIncomplete detail
  else .internal detail

/-- Whether the same transfer may be asked for again: an account was held, or
the outcome is not known. -/
def isRetryable : TransferFailure → Bool
  | .busy | .inProgress | .timeout | .unreachable _ => true
  | _ => false

/-- Whether the bank that was called may have done what it was asked. -/
def leavesDoubt : TransferFailure → Bool
  | .timeout | .unreachable _ => true
  | _ => false

def ofRefusal : Refusal → TransferFailure
  | .unknownAccount account => .unknownAccount account
  | .insufficientFunds => .insufficientFunds
  | .busy => .busy
  | .tooLarge => .tooLarge
  | .invalidRequest detail => .invalidRequest detail
  | .violation detail => .violation detail

end TransferFailure

end ClearingHouse
