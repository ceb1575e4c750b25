import ChatHook.Capture
import ChatHook.Webhook

/-!
# One-shot endpoints

An endpoint takes one connection, captures the request on it and answers with a status. It is
content if nobody connects again. A client that sends a message to it without a proxy puts its
request on the connection as it stands.
-/

namespace ChatHook

open Http

/-- An endpoint: where it listens, and the status that it answers with. -/
structure Endpoint where
  address : String
  status : String

namespace Endpoint

/-- The path at which an endpoint takes requests. -/
def path : String := "/api/webhooks/1/token"

/-- The URL of an endpoint. -/
def url (e : Endpoint) : String :=
  "http://" ++ e.address ++ path

/-- What an endpoint answers. -/
def reply (e : Endpoint) : Bytes :=
  Utf8.encode ("HTTP/1.1 " ++ e.status ++ "\r\nContent-Length: 0\r\nConnection: close\r\n\r\n")

/-- What an endpoint tells at the end about the bytes on its first connection, if so many more
connections were made. -/
def finish (bytes : Bytes) (more : Nat) : Except CaptureFault Captured :=
  match capture bytes with
  | .error f => .error f
  | .ok captured => if more = 0 then .ok captured else .error .secondRequest

/-- The client that connects to endpoints directly. -/
def client : Client :=
  { Client.standard with usesProxy := false }

/-- The network on which an endpoint is reached directly. -/
def network : Network :=
  ⟨none, none, none⟩

/-- Sends a message to an endpoint. -/
def send (e : Endpoint) (message : String) : Outcome Status :=
  (Webhook.mk e.url client).send network message [.sends e.reply]

/-- What the first request of an outcome puts on its connection. -/
def firstWire {α : Type} (o : Outcome α) : Bytes :=
  match o.requests with
  | [] => []
  | r :: _ => r.wire r.originTarget

/-- What an endpoint tells at the end after a message has been sent to it and so many more
connections were made. -/
def finishSent (e : Endpoint) (message : String) (more : Nat) : Except CaptureFault Captured :=
  finish (firstWire (e.send message)) more

end Endpoint

/-- The URL of an address where nobody listens. -/
def closedUrl (address : String) : String :=
  "http://" ++ address ++ "/webhook"

/-- Sends a message to an address where nobody listens. -/
def sendToClosed (address message : String) : Outcome Status :=
  (Webhook.mk (closedUrl address) Endpoint.client).send .scripted message []

end ChatHook
