import ClearingHouse.Http.Message
import ClearingHouse.Http.Url
import ClearingHouse.Message.Envelope

/-!
# Requests that are sent

A request that is sent has an address.  What comes back is a response whose JSON
text is an envelope, or nothing at all.
-/

namespace ClearingHouse

/-- A request with the address to which it is sent. -/
structure Outgoing where
  url : Http.Url
  request : Http.Request
  deriving DecidableEq

inductive Outage where
  | late
  | unreachable
  deriving DecidableEq

namespace Outgoing

def get (url : Http.Url) (headers : List (String × String)) : Outgoing where
  url := url
  request :=
    { method := "GET", path := String.ofList url.target, headers := headers }

def post {α : Type} [Message α] (url : Http.Url)
    (headers : List (String × String)) (message : α) : Outgoing where
  url := url
  request :=
    { method := "POST"
      path := String.ofList url.target
      headers := headers ++ [("content-type", "application/json")]
      body := Message.text message }

def unmadeText : String := "builder error"

def textFor (url : Http.Url) (text : String) : String :=
  s!"{text} for url ({String.ofList url.written})"

/-- The address of a request, if requests can be sent to it; or else what is said
of the request. -/
def address (text : String) : Except String Http.Url :=
  match Http.Url.parse? text with
  | none => .error unmadeText
  | some url => if url.isSendable then .ok url else .error (textFor url unmadeText)

/-- What is said of a request that reaches nobody. -/
def unsentText (outgoing : Outgoing) : String :=
  textFor outgoing.url "error sending request"

def unreadText : String := "error decoding response body"

end Outgoing

def Envelope.ofResponse? (α : Type) [Message α] (response : Http.Response) :
    Option (Envelope α) :=
  response.json.bind fun text => (Message.decode (Envelope α) text).toOption

end ClearingHouse
