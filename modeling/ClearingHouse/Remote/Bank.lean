import ClearingHouse.Api.Paths
import ClearingHouse.Bank.Call
import ClearingHouse.Message.Order
import ClearingHouse.Remote.Outgoing

/-!
# Calls to a bank over HTTP

A call to a bank that is not part of the same program is sent as a request.  Its
response is the reply to the call, or a refusal; everything else counts as a bank
that cannot be reached.
-/

namespace ClearingHouse

/-- A bank that is called over HTTP. -/
structure RemoteBank where
  name : BankName
  /-- How the addresses of the bank start. -/
  base : String
  deriving DecidableEq

namespace RemoteBank

def posted {α : Type} [Message α] (bank : RemoteBank) (path : String)
    (order : α) : Except CallFailure Outgoing :=
  match Outgoing.address (bank.base ++ path) with
  | .ok url => .ok (Outgoing.post url [] order)
  | .error text => .error (.unreachable text)

def asked (bank : RemoteBank) (account : AccountNumber) :
    Except CallFailure Outgoing :=
  match Http.Url.parse? bank.base with
  | none => .error (.unreachable s!"bad base url {bank.base}")
  | some base =>
      let url := base.extended (Api.balanceSegments account)
      if url.isSendable then .ok (Outgoing.get url [])
      else .error (.unreachable (Outgoing.textFor url Outgoing.unmadeText))

def outgoing (bank : RemoteBank) : BankCall → Except CallFailure Outgoing
  | .prepare order => bank.posted Api.preparePath order
  | .commit order => bank.posted Api.commitPath order
  | .release order => bank.posted Api.releasePath order
  | .balance account => bank.asked account

/-- What the bank says in an envelope.  A number that no bank uses is no
refusal. -/
def opened {α : Type} (bank : RemoteBank) (envelope : Envelope α) :
    Except CallFailure α :=
  match envelope.result with
  | .ok data => .ok data
  | .error (code, text) =>
      match Refusal.ofCode? code text with
      | some refusal => .error (.refused refusal)
      | none =>
          .error (.unreachable s!"{bank.name.text} answered code {code}: {text}")

def data (α : Type) [Message α] (bank : RemoteBank) (response : Http.Response) :
    Except CallFailure α :=
  match Envelope.ofResponse? α response with
  | some envelope => bank.opened envelope
  | none => .error (.unreachable s!"malformed response: {Outgoing.unreadText}")

def reply (bank : RemoteBank) (call : BankCall) (response : Http.Response) :
    Except CallFailure BankReply :=
  match call with
  | .balance _ =>
      (bank.data AccountBalance response).map fun answer => .balance answer.balance
  | _ => (bank.data Acknowledgement response).map fun _ => .done

def failure (bank : RemoteBank) (call : BankCall) : CallFailure :=
  match bank.outgoing call with
  | .ok outgoing => .unreachable outgoing.unsentText
  | .error failure => failure

end RemoteBank

end ClearingHouse
