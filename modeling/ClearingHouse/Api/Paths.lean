import ClearingHouse.Identifier

/-!
# Paths

The paths under which banks and the clearing house take requests.
-/

namespace ClearingHouse.Api

def preparePath : String := "/internal/v1/prepare"

def commitPath : String := "/internal/v1/commit"

def releasePath : String := "/internal/v1/release"

/-- The segments of the path under which a bank tells the balance of an account. -/
def balanceSegments (account : AccountNumber) : List String :=
  ["internal", "v1", "accounts", account.text, "balance"]

def healthPath : String := "/api/v1/health"

def registerPath : String := "/api/v1/banks/register"

def transferPath : String := "/api/v1/transfer"

def balancePath : String := "/api/v1/balance"

end ClearingHouse.Api
