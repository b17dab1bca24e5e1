import ClearingHouse.Api.Body
import ClearingHouse.Api.Paths
import ClearingHouse.House

/-!
# The clearing house over HTTP

A request to the clearing house stands for one of four things to do, or is
turned away.  The body is read before the token is looked at.
-/

namespace ClearingHouse

/-- What can be asked of the clearing house over HTTP. -/
inductive HouseCall where
  | health
  | register (registration : Registration)
  | pay (token : Except TransferFailure String) (order : PaymentOrder)
  | balance (token : Except TransferFailure String)

/-- What the clearing house tells about itself. -/
structure Health where
  banks : Nat
  transfers : Nat
  deriving DecidableEq

namespace Health

structure Draft where
  banks : Option Int := none
  transfers : Option Int := none

def Draft.complete (draft : Draft) : Option Health := do
  return ⟨(← draft.banks).toNat, (← draft.transfers).toNat⟩

def count : Json.Reader Int := Json.Reader.integer 0 (2 ^ 64 - 1)

def fields : List (Json.Reader.Field Draft) :=
  [Json.Reader.Field.of "banks" Draft.banks
      (fun draft banks => { draft with banks := some banks }) count,
    Json.Reader.Field.of "cached_transactions" Draft.transfers
      (fun draft transfers => { draft with transfers := some transfers }) count]

def ofHouse (house : House) : Health where
  banks := Table.size house.roster
  transfers := Table.size house.journal

end Health

instance : Message Health where
  encode health := Json.object
    [("banks", Json.natural health.banks),
      ("cached_transactions", Json.natural health.transfers)]
  reader := Json.Reader.record Health.fields {} Health.Draft.complete

namespace Api

open Http (Request Response)

def houseCall (request : Request) : Except Response HouseCall :=
  let path := request.plainPath
  if path = healthPath.toList then
    if isReading request.method then .ok .health else .error wrongMethod
  else if path = registerPath.toList then
    if request.method = "POST" then (body Registration request).map .register
    else .error wrongMethod
  else if path = transferPath.toList then
    if request.method = "POST" then
      (body PaymentOrder request).map (.pay request.token)
    else .error wrongMethod
  else if path = balancePath.toList then
    if isReading request.method then .ok (.balance request.token)
    else .error wrongMethod
  else .error notFound

def paymentResponse : Outcome → Response
  | .ok receipt => successResponse (PaymentAnswer.ofReceipt receipt)
  | .error failure => transferFailureResponse failure

def balanceResponse (result : Except TransferFailure (Caller × Amount)) :
    Response :=
  match result with
  | .ok (caller, amount) =>
      successResponse
        ({ account := caller.account, balance := amount } : AccountBalance)
  | .error failure => transferFailureResponse failure

def registrationResponse {α : Type} (result : Except TransferFailure α) :
    Response :=
  match result with
  | .ok _ => successResponse ({} : Acknowledgement)
  | .error failure => transferFailureResponse failure

end Api

end ClearingHouse
