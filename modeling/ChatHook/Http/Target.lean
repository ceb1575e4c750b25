import ChatHook.Url.Basic

/-!
# Request targets

Not every URL can be put into a request: the text has to be short enough, and its authority may
hold only the characters of a host, a port and credentials, with brackets and percent signs in
their places. A text without authority passes only as a bare authority.
-/

namespace ChatHook.Http

/-- The longest text of a request target, in characters. -/
def maxTargetLength : Nat := 65534

/-- Whether a character may stand in a target. -/
def isTargetChar (c : Char) : Bool :=
  c.isAlphanum || "!#$&'()*+,-./:;=?@[]_~".toList.contains c

/-- What an authority holds so far: colons that may belong to a port, brackets, whether a percent
sign stands outside credentials and brackets, and whether the last character is an `@`. -/
structure AuthorityScan where
  colons : Nat
  opened : Bool
  closed : Bool
  percent : Bool
  endsInAt : Bool

/-- Takes one more character into an authority; nothing if it does not fit. -/
def AuthorityScan.step? (s : AuthorityScan) (c : Char) : Option AuthorityScan :=
  let s := { s with endsInAt := c = '@' }
  if c = ':' then if 8 ≤ s.colons then none else some { s with colons := s.colons + 1 }
  else if c = '[' then if s.percent || s.opened then none else some { s with opened := true }
  else if c = ']' then
    if !s.opened || s.closed then none
    else some { s with closed := true, colons := 0, percent := false }
  else if c = '@' then some { s with colons := 0, percent := false }
  else if c = '%' then some { s with percent := true }
  else if isTargetChar c then some s
  else none

/-- Whether a text is an authority. -/
def isAuthority (cs : List Char) : Bool :=
  match cs.foldlM AuthorityScan.step? ⟨0, false, false, false, false⟩ with
  | none => false
  | some s => s.opened = s.closed && s.colons ≤ 1 && !s.endsInAt && !s.percent

/-- Whether a character may stand in the path of a target. -/
def isTargetPathChar (c : Char) : Bool :=
  let n := c.toNat
  0x21 ≤ n && n ≤ 0x7E && !(['#', '<', '>', '?', '`'].contains c)

/-- Whether a character may stand in the query of a target. -/
def isTargetQueryChar (c : Char) : Bool :=
  let n := c.toNat
  0x21 ≤ n && n ≤ 0x7E && !(['"', '#', '<', '>'].contains c)

/-- Whether a text is a path and a query, perhaps with a fragment. -/
def isPathAndQuery (cs : List Char) : Bool :=
  let cs := cs.takeWhile (· ≠ '#')
  (cs.takeWhile (· ≠ '?')).all isTargetPathChar &&
    ((cs.dropWhile (· ≠ '?')).drop 1).all isTargetQueryChar

/-- The text behind a scheme and two slashes; nothing if there is no scheme in front of slashes,
and an error if it is too long to be one. -/
def behindScheme (cs : List Char) : Except Unit (Option (List Char)) :=
  let scheme := cs.takeWhile fun c ↦ c.isAlphanum || c = '+' || c = '-' || c = '.'
  match cs.drop scheme.length with
  | ':' :: '/' :: '/' :: rest => if 64 < scheme.length then .error () else .ok (some rest)
  | _ => .ok none

/-- Whether the text of a URL can be a request target. -/
def isTarget (text : String) : Bool :=
  let cs := text.toList
  if maxTargetLength < cs.length then false
  else match behindScheme cs with
    | .error () => false
    | .ok none => isAuthority cs
    | .ok (some rest) =>
      let isAuthorityChar (c : Char) : Bool := c ≠ '/' && c ≠ '?' && c ≠ '#'
      let authority := rest.takeWhile isAuthorityChar
      authority ≠ [] && isAuthority authority &&
        isPathAndQuery (rest.dropWhile isAuthorityChar)

end ChatHook.Http
