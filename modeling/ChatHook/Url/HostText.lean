import ChatHook.Domain.ToAscii
import ChatHook.Url.Address
import ChatHook.Url.Percent

/-!
# Hosts

What the text between credentials and port means: an address in brackets, a numeric address, or a
name. Special URLs bring their names into ASCII form; the others keep them as they are written.
-/

namespace ChatHook.Url

/-- The IPv6 host of a text that opens with a bracket. -/
def bracketHost (cs : List Char) : Except Fault Host :=
  match cs, cs.getLast? with
  | '[' :: rest, some ']' =>
    match ipv6? rest.dropLast with
    | some pieces => .ok (.ipv6 pieces)
    | none => .error .invalidIpv6
  | _, _ => .error .invalidIpv6

/-- The host of a special URL. -/
def specialHost (cs : List Char) : Except Fault Host :=
  if cs.head? = some '[' then bracketHost cs
  else
    match Domain.ofBytes? (percentDecode (cs.flatMap String.utf8EncodeChar)) with
    | none => .error .invalidDomainName
    | some name =>
      if name.isEmpty then .error .emptyHost
      else if endsInNumber name then
        match ipv4? name with
        | some address => .ok (.ipv4 address)
        | none => .error .invalidIpv4
      else .ok (.named (String.ofList name))

/-- Whether a character may not stand in the name of a host that is kept as it is written. -/
def isHostDelimiter (c : Char) : Bool :=
  "\x00\t\n\r #/:<>?@[\\]^|".toList.contains c

/-- The host of a URL that is not special. -/
def plainHost (cs : List Char) : Except Fault Host :=
  if cs.head? = some '[' then bracketHost cs
  else if cs.any isHostDelimiter then .error .invalidDomainCharacter
  else .ok (.named (String.ofList (percentEncode controlSet cs)))

end ChatHook.Url
