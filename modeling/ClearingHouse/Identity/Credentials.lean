import ClearingHouse.Identity.Directory
import ClearingHouse.Identity.Token

/-!
# Credentials

How the clearing house finds out who is calling: by a fixed table of tokens, or
by signed tokens together with a directory of users.
-/

namespace ClearingHouse

/-- How tokens are resolved to callers. -/
inductive Credentials where
  /-- Every token is listed. -/
  | listed (callers : Table String Caller)
  /-- Tokens are signed with a secret and name a user of the directory. -/
  | signed (secret : String) (directory : Directory)

namespace Credentials

/-- The only role that may pay and ask for a balance. -/
def customerRole : String := "customer"

def resolveSigned (secret : String) (directory : Directory) (now : Nat)
    (token : String) : Except TransferFailure Caller :=
  match Token.verify secret now token with
  | none => .error .invalidToken
  | some claims =>
      if claims.role ≠ customerRole then .error (.forbidden claims.role)
      else
        match directory.caller? claims.username with
        | some caller => .ok caller
        | none => .error (.unknownUser claims.username)

/-- The caller that a token stands for, at a time in seconds. -/
def resolve (credentials : Credentials) (now : Nat) (token : String) :
    Except TransferFailure Caller :=
  if token.isEmpty then .error .missingToken
  else
    match credentials with
    | .listed callers =>
        match callers.find? token with
        | some caller => .ok caller
        | none => .error .invalidToken
    | .signed secret directory => resolveSigned secret directory now token

def issueCustomer (secret : String) (now : Nat) (username : String)
    (lifetime : Int) : String :=
  Token.issue secret now username customerRole lifetime

end Credentials

end ClearingHouse
