import ClearingHouse.Api.Paths
import ClearingHouse.Client.Instruction
import ClearingHouse.Http.Status
import ClearingHouse.Remote.Outgoing

/-!
# Instructions over HTTP

A client sends its instructions to the clearing house, together with its token.
A response that is no envelope is a failure inside the clearing house.
-/

namespace ClearingHouse

structure RemoteHouse where
  /-- How the addresses of the clearing house start. -/
  base : String
  token : String
  deriving DecidableEq

namespace RemoteHouse

/-- Whether a text can be sent in a header. -/
def isSendable (text : String) : Bool :=
  text.toList.all fun character =>
    character == '\t' || (0x20 ≤ character.toNat && character.toNat != 0x7F)

def headers (house : RemoteHouse) : List (String × String) :=
  [("authorization", s!"Bearer {house.token}")]

def unreachable (text : String) : TransferFailure :=
  .unreachable s!"gateway: {text}"

/-- The address to which an instruction is sent; or else what is said of its
request.  The token is looked at once there is a host to send it to. -/
def address (house : RemoteHouse) (instruction : Instruction) :
    Except String Http.Url :=
  let path :=
    match instruction with
    | .balance => Api.balancePath
    | .pay _ => Api.transferPath
  let hasHost := ((Http.Url.parse? (house.base ++ path)).map Http.Url.hasHost).getD true
  if hasHost && !isSendable house.token then .error Outgoing.unmadeText
  else Outgoing.address (house.base ++ path)

def outgoing (house : RemoteHouse) (instruction : Instruction) :
    Except TransferFailure Outgoing :=
  match house.address instruction with
  | .error text => .error (unreachable text)
  | .ok url =>
      match instruction with
      | .balance => .ok (Outgoing.get url house.headers)
      | .pay order => .ok (Outgoing.post url house.headers order)

def data (α : Type) [Message α] (response : Http.Response) :
    Except TransferFailure α :=
  match Envelope.ofResponse? α response with
  | none =>
      .error (.internal
        (s!"malformed gateway response ({Http.statusText response.status}): " ++
          Outgoing.unreadText))
  | some envelope =>
      match envelope.result with
      | .ok data => .ok data
      | .error (code, text) => .error (TransferFailure.ofCode code text)

def answer (instruction : Instruction) (response : Http.Response) :
    Except TransferFailure Answer :=
  match instruction with
  | .balance => (data AccountBalance response).map .balance
  | .pay _ => (data PaymentAnswer response).map .paid

end RemoteHouse

end ClearingHouse
