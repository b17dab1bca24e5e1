import ClearingHouse.Amount
import ClearingHouse.Identifier

/-!
# Legs of a transfer

A transfer has two legs.  The debit leg takes the amount from the payer's
account, the credit leg brings it to the payee's account.  A bank is asked to
prepare, to commit or to release one leg at a time.
-/

namespace ClearingHouse

/-- Which leg of a transfer is meant. -/
inductive Side where
  /-- The amount leaves the account. -/
  | debit
  /-- The amount arrives at the account. -/
  | credit
  deriving DecidableEq, Inhabited

namespace Side

def all : List Side := [.debit, .credit]

/-- The name of the side in messages to people. -/
def label : Side → String
  | .debit => "DEBIT"
  | .credit => "CREDIT"

/-- The name of the side in messages between programs. -/
def keyword : Side → String
  | .debit => "debit"
  | .credit => "credit"

def ofKeyword? (text : String) : Option Side :=
  all.find? fun side => side.keyword == text

end Side

/-- The order to prepare or to commit one leg of a transfer. -/
structure LegOrder where
  side : Side
  account : AccountNumber
  amount : Amount
  transfer : TransferId
  deriving DecidableEq

/-- The order to unwind what a transfer has prepared on an account. -/
structure ReleaseOrder where
  account : AccountNumber
  transfer : TransferId
  deriving DecidableEq

end ClearingHouse
