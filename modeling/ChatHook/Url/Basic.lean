/-!
# URLs

A URL by its parts, each in the form in which it is written, and the text that the parts make up.
Two URLs are the same address up to credentials when they agree after `withoutCredentials`.
-/

namespace ChatHook

namespace Url

/-- Where a URL points. -/
inductive Host where
  /-- A name, in its ASCII form. -/
  | named (name : String)
  /-- An address of 32 bits. -/
  | ipv4 (address : Nat)
  /-- An address of eight pieces of 16 bits. -/
  | ipv6 (pieces : List Nat)
deriving DecidableEq

/-- What follows the authority. -/
inductive Path where
  /-- Segments, each behind a slash. -/
  | segments (list : List String)
  /-- A text that does not start with a slash, of a URL without authority. -/
  | rootless (text : String)
deriving DecidableEq

/-- Why a text is no URL. -/
inductive Fault where
  | relativeWithoutBase
  | emptyHost
  | invalidPort
  | invalidDomainName
  | invalidDomainCharacter
  | invalidIpv4
  | invalidIpv6
deriving DecidableEq

/-- The wording of a fault. -/
def Fault.message : Fault → String
  | .relativeWithoutBase => "relative URL without a base"
  | .emptyHost => "empty host"
  | .invalidPort => "invalid port number"
  | .invalidDomainName => "invalid international domain name"
  | .invalidDomainCharacter => "invalid domain character"
  | .invalidIpv4 => "invalid IPv4 address"
  | .invalidIpv6 => "invalid IPv6 address"

/-- The port that a scheme uses when a URL names none. -/
def defaultPort? (scheme : String) : Option Nat :=
  match scheme with
  | "http" => some 80
  | "ws" => some 80
  | "https" => some 443
  | "wss" => some 443
  | "ftp" => some 21
  | _ => none

/-- Whether URLs of a scheme follow the rules of web addresses. -/
def isSpecial (scheme : String) : Bool :=
  scheme = "file" || (defaultPort? scheme).isSome

end Url

/-- A URL by its parts. The scheme is in lower case, user name and password are percent-encoded,
and the port is absent when it is the one of the scheme. -/
structure Url where
  scheme : String
  username : String
  password : Option String
  host : Option Url.Host
  port : Option Nat
  path : Url.Path
  query : Option String
  fragment : Option String
deriving DecidableEq

namespace Url

/-! ## The text of a URL -/

/-- The longest run of at least two zero pieces, the first of the longest: where it starts and how
long it is. -/
def zeroRun (pieces : List Nat) : Nat × Nat :=
  let runAt (i : Nat) := ((pieces.drop i).takeWhile (· = 0)).length
  let longest := (List.range pieces.length).foldl
    (fun best i ↦ if best.2 < runAt i then (i, runAt i) else best) (0, 0)
  if longest.2 < 2 then (pieces.length, 0) else longest

/-- Pieces in hexadecimal, separated by colons. -/
def piecesText (pieces : List Nat) : List Char :=
  [':'].intercalate (pieces.map (Nat.toDigits 16))

/-- The text of a host. -/
def Host.text : Host → String
  | .named name => name
  | .ipv4 address =>
    ".".intercalate ([24, 16, 8, 0].map fun shift ↦ toString ((address >>> shift) % 256))
  | .ipv6 pieces =>
    let (start, length) := zeroRun pieces
    let body :=
      if length = 0 then piecesText pieces
      else piecesText (pieces.take start) ++ [':', ':'] ++
        piecesText (pieces.drop (start + length))
    String.ofList ('[' :: body ++ [']'])

/-- The text of a path. -/
def Path.text : Path → String
  | .segments list => String.join (list.map ("/" ++ ·))
  | .rootless text => text

/-- Whether user name or password is given. -/
def hasCredentials (url : Url) : Bool :=
  url.username ≠ "" || url.password.isSome

/-- The same address without user name and password. -/
def withoutCredentials (url : Url) : Url :=
  { url with username := "", password := none }

/-- The same URL without its fragment. -/
def withoutFragment (url : Url) : Url :=
  { url with fragment := none }

/-- The credentials as they stand before the host. -/
def credentialsText (url : Url) : String :=
  if url.hasCredentials then
    url.username ++ (url.password.elim "" (":" ++ ·)) ++ "@"
  else ""

/-- Host and port as they are written. -/
def authorityText (url : Url) : String :=
  (url.host.elim "" Host.text) ++ (url.port.elim "" fun p ↦ ":" ++ toString p)

/-- What stands between scheme and path: the authority, or, where there is none and the path would
look like one, a path segment that means nothing. -/
def leadText (url : Url) : String :=
  match url.host with
  | some _ => "//" ++ url.credentialsText ++ url.authorityText
  | none =>
    match url.path with
    | .segments ("" :: _ :: _) => "/."
    | _ => ""

/-- The text of a URL. -/
def text (url : Url) : String :=
  url.scheme ++ ":" ++ url.leadText ++ url.path.text ++
    (url.query.elim "" ("?" ++ ·)) ++ (url.fragment.elim "" ("#" ++ ·))

/-- The port a URL points to: its own, or the one of its scheme. -/
def effectivePort? (url : Url) : Option Nat :=
  url.port.or (defaultPort? url.scheme)

end Url

end ChatHook
