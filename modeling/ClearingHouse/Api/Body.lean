import ClearingHouse.Http.MediaType
import ClearingHouse.Http.Message
import ClearingHouse.Message.Envelope
import ClearingHouse.Message.Order

/-!
# Bodies of requests and responses

A request that carries a message has to announce JSON and to hold exactly one
message of the type wanted.  Responses carry envelopes.
-/

namespace ClearingHouse.Api

open Http (Request Response)

/-- Read the message in a request, or refuse the request. -/
def body (α : Type) [Message α] (request : Request) : Except Response α :=
  match request.header? "content-type" with
  | none => .error { status := 415 }
  | some mediaType =>
      if Http.isJson mediaType then
        match Message.decode α request.body.toList with
        | .ok message => .ok message
        | .error .mismatched => .error { status := 422 }
        | .error _ => .error { status := 400 }
      else .error { status := 415 }

def successResponse {α : Type} [Message α] (data : α) : Response where
  status := 200
  json := some (Message.encode (Envelope.success data))

def failureResponse (status : Nat) (code : Int) (detail : String) : Response where
  status := status
  json := some (Message.encode
    (Envelope.failure code detail : Envelope Acknowledgement))

def refusalResponse (refusal : Refusal) : Response :=
  failureResponse refusal.httpStatus refusal.code refusal.detail

def transferFailureResponse (failure : TransferFailure) : Response :=
  failureResponse failure.httpStatus failure.code failure.detail

def notFound : Response where
  status := 404

def wrongMethod : Response where
  status := 405

def isReading (method : String) : Bool := method == "GET" || method == "HEAD"

/-- What a request with this method gets. -/
def shown (method : String) (response : Response) : Response :=
  if method = "HEAD" then response.headOnly else response

end ClearingHouse.Api
