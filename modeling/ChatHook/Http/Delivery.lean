import ChatHook.Http.Reply
import ChatHook.Http.Request
import ChatHook.Url.Parse

/-!
# Deliveries

A body is delivered to a URL by a chain of requests: the first one posts it, and as long as the
answers redirect, each next one goes where the last answer points. The answers come from a script,
one for each request; beyond its end connections are closed without an answer. What may come of it
is a status or one failure, which names the URL that the chain started from.

Clients are taken as built without TLS: whatever calls for a secure connection, a destination or a
redirect, fails where the connection would be made.
-/

namespace ChatHook.Http

/-! ## The two ends -/

/-- How a client acts. -/
structure Client where
  /-- The limit of redirects; none are looked at if there is no limit. -/
  redirects : Option Nat
  userAgent : Option String
  sendsReferer : Bool
  usesProxy : Bool
deriving DecidableEq

/-- The client with default settings. -/
def Client.standard : Client :=
  ⟨some 10, none, true, true⟩

/-- How many redirects a client follows, if it looks at any. A redirect is followed as long as fewer
URLs than the limit have been asked, the one that the chain started from among them; so there is one
redirect less than the limit. -/
def Client.budget (client : Client) : Option Nat :=
  client.redirects.map (· - 1)

/-- Why a client cannot be built: what the builder met, and the causes behind that. -/
structure BuildFault where
  text : String
  causes : List String
deriving DecidableEq

/-- The error of the builder and all causes behind it, outermost first. -/
def BuildFault.texts (fault : BuildFault) : List String :=
  ("builder error: " ++ fault.text) :: fault.text :: fault.causes

/-- What becomes of one request at the endpoint. -/
inductive Answer where
  /-- The connection is closed without a word. -/
  | closed
  /-- These bytes are sent, and the connection is closed. -/
  | sends (stream : Bytes)
deriving DecidableEq

/-- The answer with a status line, header fields and a body, which says how long the body is and
that the connection ends. -/
def Answer.ofParts (status : String) (headers : List (Bytes × Bytes)) (body : String) : Answer :=
  .sends (Utf8.encode ("HTTP/1.1 " ++ status ++ "\r\n") ++
    headers.flatMap (fun (name, value) ↦
      name ++ Utf8.encode ": " ++ value ++ Utf8.encode "\r\n") ++
    Utf8.encode ("Content-Length: " ++ toString (Utf8.size body) ++
      "\r\nConnection: close\r\n\r\n" ++ body))

/-- What an answer says. -/
def Answer.reply : Answer → Except HeadFault Reply
  | .closed => .error .incomplete
  | .sends stream => readReply stream

/-- Why a connection could not be made, as the operating system puts it. -/
structure ConnectError where
  code : Nat
  text : String
deriving DecidableEq

/-- The wording of a failed connection. -/
def ConnectError.message (e : ConnectError) : String :=
  e.text ++ " (os error " ++ toString e.code ++ ")"

/-- Nobody listens. -/
def ConnectError.refused : ConnectError :=
  ⟨111, "Connection refused"⟩

/-- There is no way to the address. -/
def ConnectError.unreachable : ConnectError :=
  ⟨101, "Network is unreachable"⟩

/-- What clients find around them. A client with default settings can be built or not, and
connections, those of clients that use the proxy and those of the others, reach the endpoint or
fail. -/
structure Network where
  /-- Why no client with default settings can be built, if none can. -/
  buildFault : Option BuildFault
  proxied : Option ConnectError
  direct : Option ConnectError

/-- The network on which the endpoint is the proxy, and nobody listens elsewhere. -/
def Network.scripted : Network :=
  ⟨none, none, some .refused⟩

/-- The network without any connection. -/
def Network.down : Network :=
  ⟨none, some .unreachable, some .unreachable⟩

/-- Why a client does not reach the endpoint on a network, if it does not. -/
def Network.barrier? (network : Network) (client : Client) : Option ConnectError :=
  if client.usesProxy then network.proxied else network.direct

/-! ## Failures -/

/-- Why a delivery failed. -/
inductive Failure where
  /-- The destination is no URL. -/
  | badUrl (fault : Url.Fault)
  /-- The scheme is not one of the web, here or in a redirect. -/
  | badScheme (url : Url)
  /-- The URL does not fit into a request. -/
  | badTarget (url : Url)
  /-- One more redirect than the client follows. -/
  | tooManyRedirects (url : Url)
  | notConnected (url : Url) (error : ConnectError)
  /-- A connection that would have to be secure. -/
  | notPlain (url : Url)
  /-- The endpoint gave no good answer. -/
  | badReply (url : Url) (fault : HeadFault)

/-- The four kinds of failure. -/
inductive FailureKind where
  | builder
  | redirect
  | connect
  | request
deriving DecidableEq

namespace Failure

/-- The kind of a failure. -/
def kind : Failure → FailureKind
  | .badUrl _ => .builder
  | .badScheme _ => .builder
  | .badTarget _ => .builder
  | .tooManyRedirects _ => .redirect
  | .notConnected _ _ => .connect
  | .notPlain _ => .connect
  | .badReply _ _ => .request

/-- Each cause with the ones behind it, outermost first. -/
def chain : List String → List String
  | [] => []
  | cause :: causes => ": ".intercalate (cause :: causes) :: chain causes

/-- The causes of a failure, outermost first; each one ends in the text of the next. -/
def causes (failure : Failure) : List String :=
  let builder (url : Url) := "builder error for url (" ++ url.text ++ ")"
  let sending (url : Url) := "error sending request for url (" ++ url.text ++ ")"
  match failure with
  | .badUrl fault => chain ["builder error", fault.message]
  | .badScheme url => chain [builder url, "URL scheme is not allowed"]
  | .badTarget url => chain [builder url, "Parsed Url is not a valid Uri"]
  | .tooManyRedirects url =>
    chain ["error following redirect for url (" ++ url.text ++ ")", "too many redirects"]
  | .notConnected url error =>
    chain [sending url, "error trying to connect", "tcp connect error", error.message]
  | .notPlain url =>
    chain [sending url, "error trying to connect", "invalid URL, scheme is not http"]
  | .badReply url fault => chain [sending url, fault.message]

end Failure

/-! ## Redirects -/

/-- Whether a redirect keeps the body; nothing for a status that does not redirect. -/
def Status.redirect? (s : Status) : Option Bool :=
  match s.code with
  | 301 => some false
  | 302 => some false
  | 303 => some false
  | 307 => some true
  | 308 => some true
  | _ => none

/-- The URL that a `Location` gives relative to the current one, if it can be a target. -/
def location? (current : Url) (value : Bytes) : Option Url :=
  match Utf8.decode? value with
  | none => none
  | some text =>
    match Url.resolve current text with
    | .error _ => none
    | .ok url => if isTarget url.text then some url else none

/-- What a request shows of the one before it: its URL without credentials and fragment. -/
def refererOf (previous : Url) : String :=
  previous.withoutCredentials.withoutFragment.text

/-- The request that a redirect turns a request into. Credentials go along as long as host and
port stay the same. -/
def Request.redirected (client : Client) (r : Request) (keepsBody : Bool) (url : Url) : Request :=
  { url
    body := if keepsBody then r.body else none
    userAgent := r.userAgent
    referer := if client.sendsReferer then some (refererOf r.url) else none
    authorization :=
      if url.host = r.url.host && url.effectivePort? = r.url.effectivePort? then r.authorization
      else none }

/-- The request that an answer redirects to, if it does. -/
def Request.next? (client : Client) (r : Request) (reply : Reply) : Option Request :=
  match reply.status.redirect? with
  | none => none
  | some keepsBody =>
    (reply.location.bind (location? r.url)).map (r.redirected client keepsBody)

/-! ## The chain -/

/-- What came of a delivery: the requests that arrived, the answers that were not used, and a
status or a failure. -/
structure Delivery where
  requests : List Request
  unused : List Answer
  result : Except Failure Status

/-- A delivery that ends before any request. -/
def Delivery.stop (failure : Failure) (answers : List Answer) : Delivery :=
  ⟨[], answers, .error failure⟩

/-- A delivery with one more request in front. -/
def Delivery.after (request : Request) (d : Delivery) : Delivery :=
  { d with requests := request :: d.requests }

/-- Sends a request and goes where its answers point. `origin` is the URL that failures name, and
`budget` how many redirects may still be followed, where any are. -/
def follow (client : Client) (origin : Url) (budget : Option Nat) (request : Request) :
    List Answer → Delivery
  | [] => ⟨[request], [], .error (.badReply origin .incomplete)⟩
  | answer :: answers =>
    match answer.reply with
    | .error fault => ⟨[request], answers, .error (.badReply origin fault)⟩
    | .ok reply =>
      match budget, request.next? client reply with
      | some budget, some next =>
        match budget with
        | 0 => ⟨[request], answers, .error (.tooManyRedirects origin)⟩
        | budget + 1 =>
          if next.url.scheme = "http" then
            (follow client origin (some budget) next answers).after request
          else
            ⟨[request], answers, .error
              (if next.url.scheme = "https" then .notPlain origin else .badScheme origin)⟩
      | _, _ => ⟨[request], answers, .ok reply.status⟩

/-- Delivers a body to a destination. -/
def deliver (network : Network) (client : Client) (destination : String) (body : Bytes)
    (answers : List Answer) : Delivery :=
  match Url.parse destination with
  | .error fault => .stop (.badUrl fault) answers
  | .ok url =>
    let (url, authorization) := takeCredentials url
    if url.scheme ≠ "http" ∧ url.scheme ≠ "https" then .stop (.badScheme url) answers
    else if !isTarget url.text then .stop (.badTarget url) answers
    else if url.scheme = "https" then .stop (.notPlain url) answers
    else match network.barrier? client with
      | some error => .stop (.notConnected url error) answers
      | none =>
        follow client url client.budget
          { url, body := some body, userAgent := client.userAgent, referer := none, authorization }
          answers

end ChatHook.Http
