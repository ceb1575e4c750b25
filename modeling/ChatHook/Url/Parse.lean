import ChatHook.Url.HostText
import ChatHook.Url.Segments

/-!
# Reading URLs

`Url.parse` reads a text that has to be a URL by itself, `Url.resolve` one that may be given
relative to the address of a web page. Blanks and controls around the text and line breaks and
tabs inside it do not count. Of several faults the one that stands first in the text decides,
except that an address whose host is empty has no other fault.
-/

namespace ChatHook.Url

/-- The characters of a text that count. -/
def significant (text : String) : List Char :=
  let inner := (text.toList.dropWhile (·.toNat ≤ 0x20)).reverse.dropWhile (·.toNat ≤ 0x20)
  inner.reverse.filter fun c ↦ c ≠ '\t' && c ≠ '\n' && c ≠ '\r'

/-- Whether a character may stand in a scheme behind its first letter. -/
def isSchemeChar (c : Char) : Bool :=
  c.isAlphanum || c = '+' || c = '-' || c = '.'

/-- The scheme at the start of a text and what follows its colon. -/
def scheme? (cs : List Char) : Option (String × List Char) :=
  match cs.dropWhile isSchemeChar with
  | ':' :: rest =>
    if (cs.head?.map Char.isAlpha).getD false then
      some (String.ofList ((cs.takeWhile isSchemeChar).map Char.toLower), rest)
    else none
  | _ => none

/-! ## Query and fragment -/

/-- Whether a path goes on at a character. -/
def isPathChar (c : Char) : Bool :=
  c ≠ '?' && c ≠ '#'

/-- Query and fragment from the end of the path on. -/
def queryAndFragment (scheme : String) (cs : List Char) : Option String × Option String :=
  let querySet := if isSpecial scheme then specialQuerySet else querySet
  let fragmentOf (cs : List Char) : Option String :=
    match cs with
    | '#' :: rest => some (String.ofList (percentEncode fragmentSet rest))
    | _ => none
  match cs with
  | '?' :: rest =>
    (some (String.ofList (percentEncode querySet (rest.takeWhile (· ≠ '#')))),
      fragmentOf (rest.dropWhile (· ≠ '#')))
  | _ => (none, fragmentOf cs)

/-! ## The authority -/

/-- Whether the authority goes on at a character. -/
def isAuthorityChar (special : Bool) (c : Char) : Bool :=
  c ≠ '/' && c ≠ '?' && c ≠ '#' && !(special && c = '\\')

/-- What stands before the last `@` of the authority, if there is one, and what follows. -/
def splitCredentials (special : Bool) (cs : List Char) : Option (List Char) × List Char :=
  let authority := cs.takeWhile (isAuthorityChar special)
  if authority.contains '@' then
    let host := (authority.reverse.takeWhile (· ≠ '@')).reverse
    let count := authority.length - host.length
    (some (authority.take (count - 1)), cs.drop count)
  else (none, cs)

/-- User name and password: what stands before the first colon, and what follows it unless it is
empty. -/
def credentials (cs : List Char) : String × Option String :=
  let password := (cs.dropWhile (· ≠ ':')).drop 1
  (String.ofList (percentEncode userinfoSet (cs.takeWhile (· ≠ ':'))),
    if password.isEmpty then none else some (String.ofList (percentEncode userinfoSet password)))

/-- The text of the host, and what follows it: a colon ends it outside brackets. -/
def splitHost (special : Bool) (bracketed : Bool) : List Char → List Char × List Char
  | [] => ([], [])
  | c :: rest =>
    if !isAuthorityChar special c || (c = ':' && !bracketed) then ([], c :: rest)
    else
      let (host, tail) := splitHost special
        (if c = '[' then true else if c = ']' then false else bracketed) rest
      (c :: host, tail)

/-- The port that digits write, and what follows; no digits are no port. A port is not read
beyond the first character that is no digit, and `value` is what was read so far. -/
def readPort (value : Option Nat) : List Char → Except Fault (Option Nat × List Char)
  | [] => .ok (value, [])
  | c :: rest =>
    if c.isDigit then
      let next := value.getD 0 * 10 + (c.toNat - '0'.toNat)
      if 65535 < next then .error .invalidPort else readPort (some next) rest
    else if c = '/' || c = '\\' || c = '?' || c = '#' then .ok (value, c :: rest)
    else .error .invalidPort

/-- The path behind an authority, query and fragment included. -/
def afterAuthority (url : Url) (cs : List Char) : Url :=
  let rules := PathRules.of url.scheme
  let text := cs.takeWhile isPathChar
  let (query, fragment) := queryAndFragment url.scheme (cs.dropWhile isPathChar)
  let path := match text with
    | [] => if isSpecial url.scheme then rules.path [] [] else .segments []
    | c :: rest => if rules.isSlash c then rules.path [] rest else rules.path [] text
  { url with path, query, fragment }

/-- The URL of a scheme from behind the slashes before its authority on. -/
def fromAuthority (scheme : String) (cs : List Char) : Except Fault Url := do
  let special := isSpecial scheme
  let (user?, rest) := splitCredentials special cs
  if user? = some [] && (rest.head?.map fun c ↦ !isAuthorityChar special c).getD false then
    throw .emptyHost
  let (username, password) := credentials (user?.getD [])
  let (hostText, rest) := splitHost special false rest
  if hostText.isEmpty && (special || rest.head? = some ':' ||
      username ≠ "" || password.isSome) then
    throw .emptyHost
  let host ← if special then specialHost hostText else plainHost hostText
  let (port, rest) ← match rest with
    | ':' :: digits => readPort none digits
    | _ => pure (none, rest)
  return afterAuthority
    { scheme, username, password, host := some host
      port := port.filter fun p ↦ defaultPort? scheme ≠ some p
      path := .segments [], query := none, fragment := none } rest

/-! ## Files -/

/-- The URL of a file from behind its scheme on. A host `localhost` and a drive in the place of
the host leave the host empty. -/
def fromFile (cs : List Char) : Except Fault Url := do
  let rules := PathRules.of "file"
  let isHostChar (c : Char) : Bool := !rules.isSlash c && isPathChar c
  let build (host : String) (cs : List Char) : Url :=
    let (query, fragment) := queryAndFragment "file" (cs.dropWhile isPathChar)
    { scheme := "file", username := "", password := none, host := some (.named host), port := none
      path := rules.path [] (cs.takeWhile isPathChar), query, fragment }
  match cs with
  | a :: b :: rest =>
    if rules.isSlash a && rules.isSlash b then
      let hostText := rest.takeWhile isHostChar
      if hostText.isEmpty || isDrive hostText then return build "" rest
      let host ← specialHost hostText
      let url := build "" (rest.dropWhile isHostChar)
      return if host = .named "localhost" then url else { url with host := some host }
    else return build "" cs
  | _ => return build "" cs

/-! ## URLs -/

/-- The URL of a scheme that is not special, from behind its colon on. -/
def fromPlainScheme (scheme : String) (cs : List Char) : Except Fault Url :=
  match cs with
  | '/' :: '/' :: rest => fromAuthority scheme rest
  | _ =>
    let (query, fragment) := queryAndFragment scheme (cs.dropWhile isPathChar)
    let path := match cs.takeWhile isPathChar with
      | '/' :: rest => (PathRules.of scheme).path [] rest
      | text => .rootless (String.ofList (percentEncode controlSet text))
    .ok { scheme, username := "", password := none, host := none, port := none, path, query
          fragment }

/-- Whether a character is a slash of a special URL. -/
def isSpecialSlash (c : Char) : Bool :=
  c = '/' || c = '\\'

/-- The URL from behind its scheme on. -/
def fromScheme (scheme : String) (cs : List Char) : Except Fault Url :=
  if scheme = "file" then fromFile cs
  else if isSpecial scheme then fromAuthority scheme (cs.dropWhile isSpecialSlash)
  else fromPlainScheme scheme cs

/-- The URL that a text writes by itself. -/
def parse (text : String) : Except Fault Url :=
  match scheme? (significant text) with
  | some (scheme, rest) => fromScheme scheme rest
  | none => .error .relativeWithoutBase

/-- The segments of a path but its last one, last first. -/
def Path.directory : Path → List String
  | .segments list => list.dropLast.reverse
  | .rootless _ => []

/-- The URL that a text without scheme writes relative to a special URL with a host. Two slashes
start a new authority, and a third one is not skipped as in a text with a scheme. -/
def fromBase (base : Url) (cs : List Char) : Except Fault Url :=
  let rules := PathRules.of base.scheme
  let withPath (done : List String) (cs : List Char) : Url :=
    let (query, fragment) := queryAndFragment base.scheme (cs.dropWhile isPathChar)
    { base with path := rules.path done (cs.takeWhile isPathChar), query, fragment }
  match cs with
  | [] => .ok base.withoutFragment
  | '?' :: _ =>
    let (query, fragment) := queryAndFragment base.scheme cs
    .ok { base with query, fragment }
  | '#' :: _ =>
    let (_, fragment) := queryAndFragment base.scheme cs
    .ok { base with fragment }
  | '/' :: '/' :: rest => fromAuthority base.scheme rest
  | c :: rest =>
    if isSpecialSlash c then
      if (rest.head?.map isSpecialSlash).getD false then
        fromAuthority base.scheme (rest.dropWhile isSpecialSlash)
      else .ok (withPath [] rest)
    else .ok (withPath base.path.directory cs)

/-- The URL that a text writes relative to a special URL with a host. A text with the scheme of
the base but fewer than two slashes behind it is relative all the same. -/
def resolve (base : Url) (text : String) : Except Fault Url :=
  let cs := significant text
  match scheme? cs with
  | none => fromBase base cs
  | some (scheme, rest) =>
    if scheme = base.scheme && (rest.takeWhile isSpecialSlash).length < 2 then fromBase base rest
    else fromScheme scheme rest

end ChatHook.Url
