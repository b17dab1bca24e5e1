import ClearingHouse.Api.Paths
import ClearingHouse.Message.Order
import ClearingHouse.Message.Payment
import ClearingHouse.Remote.Outgoing
import ClearingHouse.Transfer.Roster

/-!
# Registration over HTTP

A bank makes itself known to the clearing house when it starts.
-/

namespace ClearingHouse

inductive RegistrationFailure where
  | unreachable (address : String)
  | malformed
  | rejected (bank : BankName) (code : Int) (text : String)
  deriving DecidableEq

def RegistrationFailure.message : RegistrationFailure → String
  | .unreachable address => s!"Gateway unreachable at {address}"
  | .malformed => "Malformed registration response"
  | .rejected bank code text =>
      s!"Registration of {bank.text} rejected ({code}): {text}"

namespace Registration

def target (houseAddress : String) : String :=
  Connector.base houseAddress ++ Api.registerPath

def outgoing (registration : Registration) (houseAddress : String) :
    Except RegistrationFailure Outgoing :=
  match Outgoing.address (target houseAddress) with
  | .ok url => .ok (Outgoing.post url [] registration)
  | .error _ => .error (.unreachable (target houseAddress))

def outcome (registration : Registration) (response : Http.Response) :
    Except RegistrationFailure Unit :=
  match Envelope.ofResponse? Acknowledgement response with
  | none => .error .malformed
  | some envelope =>
      match envelope.result with
      | .ok _ => .ok ()
      | .error (code, text) => .error (.rejected registration.name code text)

end Registration

end ClearingHouse
