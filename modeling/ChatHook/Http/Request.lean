import ChatHook.Http.Base64
import ChatHook.Http.Target
import ChatHook.Url.Percent

/-!
# Requests

A request is what a client asks of a URL: with a body it is a POST of JSON, without one a GET. Its
header fields follow from its parts, and each name occurs once.
-/

namespace ChatHook.Http

/-- The two methods in use. -/
inductive Method where
  | post
  | get
deriving DecidableEq

/-- The name of a method. -/
def Method.text : Method → String
  | .post => "POST"
  | .get => "GET"

/-- What a client asks of a URL. -/
structure Request where
  url : Url
  body : Option Bytes
  userAgent : Option String
  referer : Option String
  authorization : Option String
deriving DecidableEq

namespace Request

/-- A request with a body posts it; one without gets. -/
def method (r : Request) : Method :=
  if r.body.isSome then .post else .get

/-- The bytes of the body; none for a request without one. -/
def bodyBytes (r : Request) : Bytes :=
  r.body.getD []

/-- Path and query of a request target. -/
def originTarget (r : Request) : String :=
  r.url.path.text ++ r.url.query.elim "" ("?" ++ ·)

/-- The target as it is given to a proxy. -/
def absoluteTarget (r : Request) : String :=
  r.url.withoutFragment.text

/-- The header fields by name. -/
def headers (r : Request) : List (String × String) :=
  [("accept", "*/*")] ++
    (r.authorization.map ("authorization", ·)).toList ++
    (r.body.map fun b ↦ ("content-length", toString b.length)).toList ++
    (r.body.map fun _ ↦ ("content-type", "application/json")).toList ++
    [("host", r.url.authorityText)] ++
    (r.referer.map ("referer", ·)).toList ++
    (r.userAgent.map ("user-agent", ·)).toList

/-- The request as it stands on a connection, for the given form of its target. -/
def wire (r : Request) (target : String) : Bytes :=
  Utf8.encode (r.method.text ++ " " ++ target ++ " HTTP/1.1\r\n" ++
    String.join (r.headers.map fun (name, value) ↦ name ++ ": " ++ value ++ "\r\n") ++ "\r\n") ++
    r.bodyBytes

end Request

/-! ## Credentials -/

/-- The credentials of a URL: user name and, if there is one, password, both decoded. A password
that decodes to no text is left out; a user name that does leaves no credentials. -/
def credentialsOf? (url : Url) : Option (String × Option String) :=
  let decoded (text : String) := Utf8.decode? (Url.percentDecode (Utf8.encode text))
  match decoded url.username with
  | none => none
  | some user =>
    let password := url.password.bind decoded
    if user = "" && password.isNone then none else some (user, password)

/-- The value of `authorization` for credentials. -/
def basicAuthorization (user : String) (password : Option String) : String :=
  "Basic " ++ String.ofList (Base64.encode (Utf8.encode (user ++ ":" ++ password.getD "")))

/-- A URL with its credentials moved into an authorization. -/
def takeCredentials (url : Url) : Url × Option String :=
  match credentialsOf? url with
  | none => (url, none)
  | some (user, password) => (url.withoutCredentials, some (basicAuthorization user password))

end ChatHook.Http
