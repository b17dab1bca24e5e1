import ClearingHouse.Api.Body
import ClearingHouse.Api.Paths
import ClearingHouse.Bank.Call
import ClearingHouse.Http.Path

/-!
# Banks over HTTP

A request to a bank stands for a call, or is turned away without one.  What the
bank says to the call makes the response.
-/

namespace ClearingHouse.Api

open Http (Request Response)

/-- The account whose balance is asked for under a path: the segment between
those that are fixed. -/
def balanceAccount? (path : List Char) : Option (List Char) :=
  match Http.segments path with
  | [start, first, second, third, account, last] =>
      if start.isEmpty ∧ first = "internal".toList ∧ second = "v1".toList ∧
          third = "accounts".toList ∧ last = "balance".toList then
        some account
      else none
  | _ => none

def bankCall (request : Request) : Except Response BankCall :=
  let path := request.plainPath
  let posted {α : Type} [Message α] (call : α → BankCall) :
      Except Response BankCall :=
    if request.method = "POST" then (body α request).map call
    else .error wrongMethod
  if path = preparePath.toList then posted BankCall.prepare
  else if path = commitPath.toList then posted BankCall.commit
  else if path = releasePath.toList then posted BankCall.release
  else
    match balanceAccount? path with
    | none => .error notFound
    | some segment =>
        if isReading request.method then
          match Http.segmentText? segment with
          | some account => .ok (.balance ⟨account⟩)
          | none => .error { status := 400 }
        else .error wrongMethod

def bankResponse (call : BankCall) (result : Except Refusal BankReply) :
    Response :=
  match result with
  | .error refusal => refusalResponse refusal
  | .ok (.balance amount) =>
      match call with
      | .balance account =>
          successResponse ({ account := account, balance := amount } : AccountBalance)
      | _ => successResponse ({} : Acknowledgement)
  | .ok .done => successResponse ({} : Acknowledgement)

end ClearingHouse.Api
