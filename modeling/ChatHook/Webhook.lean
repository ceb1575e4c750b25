import ChatHook.Event
import ChatHook.Http.Delivery
import ChatHook.Input
import ChatHook.Payload

/-!
# Webhooks

A webhook is a destination together with a client that posts messages to it. Sending posts one
message; dispatching makes a webhook for one message and forgets the status; running reads the
message first. Making a webhook never looks at the destination, and fails only where the client
cannot be built.
-/

namespace ChatHook

open Http

/-! ## Errors -/

/-- What goes wrong between the source of a message and its webhook. -/
inductive SendError where
  /-- The message could not be read. -/
  | unread (failure : ReadFailure)
  /-- There is no client to send the message with. -/
  | unbuilt (fault : BuildFault)
  /-- The message could not be sent to the destination, which is kept as it was given. -/
  | unsent (destination : String) (failure : Failure)

namespace SendError

/-- What failed, in one line. -/
def message : SendError → String
  | .unread _ => "failed to read message from stdin"
  | .unbuilt _ => "failed to build HTTP client"
  | .unsent destination _ => "failed to send message to " ++ destination

/-- Why it failed, outermost cause first. -/
def causes : SendError → List String
  | .unread failure => [failure.text]
  | .unbuilt fault => fault.texts
  | .unsent _ failure => failure.causes

/-- The name of the kind of an error: the kind of the failed read, build or delivery. -/
def kindName : SendError → String
  | .unread failure => failure.fault.name
  | .unbuilt _ => "Builder"
  | .unsent _ failure =>
    match failure.kind with
    | .builder => "Builder"
    | .redirect => "Redirect"
    | .connect => "Connect"
    | .request => "Request"

end SendError

/-! ## Making webhooks -/

/-- A destination and the client that posts to it. -/
structure Webhook where
  url : String
  client : Client
deriving DecidableEq

/-- What a client may be made with in place of its default settings. -/
structure ClientOptions where
  /-- The limit of redirects, or none of them; the default if absent. -/
  redirects : Option (Option Nat)
  userAgent : Option String
  sendsReferer : Bool
  usesProxy : Bool

/-- Whether a text can be the value of a header field: it has no controls but the tab. -/
def isHeaderValue (text : String) : Bool :=
  text.toList.all fun c ↦ c = '\t' || (0x20 ≤ c.toNat && c.toNat ≠ 0x7F)

/-- The client with some options; none if its user agent cannot be a header. -/
def ClientOptions.client? (options : ClientOptions) : Option Client :=
  if (options.userAgent.map isHeaderValue).getD true then
    some
      { redirects := options.redirects.getD Client.standard.redirects
        userAgent := options.userAgent
        sendsReferer := options.sendsReferer
        usesProxy := options.usesProxy }
  else none

namespace Webhook

/-- A webhook with a standard client. -/
def standard (url : String) : Webhook :=
  ⟨url, .standard⟩

/-- A webhook with a standard client of its own, which has to be built first. -/
def new (network : Network) (url : String) : Except SendError Webhook :=
  match network.buildFault with
  | some fault => .error (.unbuilt fault)
  | none => .ok (standard url)

/-- A new webhook, or one with a client of the given options; none if the client cannot be
built. -/
def make? (network : Network) (url : String) : Option ClientOptions → Option Webhook
  | none => (new network url).toOption
  | some options => options.client?.map (⟨url, ·⟩)

end Webhook

/-! ## Sending -/

/-- What came of a step: its result, the requests that arrived, the answers that were not used and
the records of the log. -/
structure Outcome (α : Type) where
  result : Except SendError α
  requests : List Request
  unused : List Answer
  log : List LogEvent

/-- The same outcome with its value changed. -/
def Outcome.map {α β : Type} (f : α → β) (o : Outcome α) : Outcome β :=
  ⟨o.result.map f, o.requests, o.unused, o.log⟩

/-- The same outcome with a record in front of its log. -/
def Outcome.logFirst {α : Type} (event : LogEvent) (o : Outcome α) : Outcome α :=
  { o with log := event :: o.log }

/-- The record of a status, if there is one. -/
def statusEvents : Except Failure Status → List LogEvent
  | .ok status => [.responded status]
  | .error _ => []

/-- Posts a message to a webhook. Any status is a success. -/
def Webhook.send (network : Network) (webhook : Webhook) (message : String)
    (answers : List Answer) : Outcome Status :=
  let d := deliver network webhook.client webhook.url (Payload.mk message).json answers
  { result := d.result.mapError (.unsent webhook.url)
    requests := d.requests
    unused := d.unused
    log := [.sending, .messageSize (Utf8.size message)] ++ statusEvents d.result }

/-- Posts a message to a destination by a new webhook. Without one nothing is sent. -/
def dispatch (network : Network) (destination message : String) (answers : List Answer) :
    Outcome Unit :=
  match Webhook.new network destination with
  | .error e => ⟨.error e, [], answers, []⟩
  | .ok webhook => (webhook.send network message answers).map fun _ ↦ ()

/-- What came of a run: the outcome, and how much of the source was not asked for. -/
structure RunOutcome where
  outcome : Outcome Unit
  left : Nat

/-- Reads a message from a source and posts it to a destination. -/
def run (network : Network) (destination : String) (source : List Chunk)
    (answers : List Answer) : RunOutcome :=
  let read := readMessage source
  match read.result with
  | .error failure => ⟨⟨.error (.unread failure), [], answers, []⟩, read.left⟩
  | .ok message =>
    ⟨(dispatch network destination message answers).logFirst (.messageRead (Utf8.size message)),
      read.left⟩

end ChatHook
