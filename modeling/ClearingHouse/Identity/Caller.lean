import ClearingHouse.Transfer.Basic

/-!
# Callers

A caller is a user of the clearing house, and pays out of one account.  A
request carries a bearer token that stands for the caller.
-/

namespace ClearingHouse

/-- A user and the account that the user pays from. -/
structure Caller where
  username : String
  bank : BankName
  account : AccountNumber
  deriving DecidableEq

namespace Caller

def party (caller : Caller) : Party := ⟨caller.bank, caller.account⟩

def isBearerScheme (text : List Char) : Bool :=
  text.map Char.toLower == "bearer".toList

/-- The token in a text without blank characters around it: what follows the
name of the scheme and a space, or the whole text if it does not start so. -/
def tokenIn (text : List Char) : List Char :=
  let scheme := text.takeWhile fun character => character != ' '
  if isBearerScheme scheme then Text.trimmed (text.drop (scheme.length + 1))
  else text

def bearerToken (authorization : Option String) :
    Except TransferFailure String :=
  let token := tokenIn (Text.trimmed (authorization.getD "").toList)
  if token.isEmpty then .error .missingToken
  else .ok (String.ofList token)

end Caller

end ClearingHouse
