import ChatHook.Text.Numeral
import ChatHook.Url.Basic

/-!
# Numeric addresses

A host whose last part is a number is an IPv4 address, in decimal, octal or hexadecimal parts of
which the last one fills what the others leave; anything between brackets is an IPv6 address.
-/

namespace ChatHook.Url

/-! ## IPv4 -/

/-- The number a part of an address writes: hexadecimal behind `0x`, octal behind `0`, and
decimal otherwise. Nothing but the marker is zero. -/
def ipv4Number? (cs : List Char) : Option Nat :=
  let (base, ds) := match cs with
    | '0' :: 'x' :: ds => (16, ds)
    | '0' :: 'X' :: ds => (16, ds)
    | '0' :: d :: ds => (8, d :: ds)
    | _ => (10, cs)
  if cs.isEmpty then none
  else if ds.isEmpty then some 0
  else Numeral.ofDigits? base ds

/-- The parts of a name, without the empty one behind a full stop at its end. -/
def nameParts (cs : List Char) : List (List Char) :=
  let parts := cs.splitOn '.'
  if 1 < parts.length && parts.getLast? = some [] then parts.dropLast else parts

/-- Whether the last part of a name makes it an address. -/
def endsInNumber (cs : List Char) : Bool :=
  match (nameParts cs).getLast? with
  | none => false
  | some [] => false
  | some part => part.all Char.isDigit || (ipv4Number? part).isSome

/-- The address written by a name that ends in a number. -/
def ipv4? (cs : List Char) : Option Nat :=
  let parts := nameParts cs
  if 4 < parts.length then none
  else
    (parts.mapM ipv4Number?).bind fun numbers ↦
      let front := numbers.dropLast
      let last := numbers.getLast?.getD 0
      if last < Nat.pow 256 (4 - front.length) && front.all (· < 256) then
        some (front.zipIdx.foldl (fun sum (n, i) ↦ sum + n * Nat.pow 256 (3 - i)) last)
      else none

/-! ## IPv6 -/

/-- A piece of an IPv6 address: one to four hexadecimal digits. -/
def piece? (cs : List Char) : Option Nat :=
  if 4 < cs.length then none else Numeral.ofDigits? 16 cs

/-- A decimal byte without leading zeros, as it stands inside an IPv6 address. -/
def decimalByte? (cs : List Char) : Option Nat :=
  if cs.head? = some '0' && 1 < cs.length then none
  else (Numeral.ofDigits? 10 cs).filter (· < 256)

/-- The two pieces that an IPv4 address at the end of an IPv6 address stands for. -/
def embeddedIpv4? (cs : List Char) : Option (List Nat) :=
  match (cs.splitOn '.').mapM decimalByte? with
  | some [a, b, c, d] => some [a * 256 + b, c * 256 + d]
  | _ => none

/-- Pieces separated by colons. -/
def pieces? (cs : List Char) : Option (List Nat) :=
  if cs.isEmpty then some [] else (cs.splitOn ':').mapM piece?

/-- Pieces separated by colons, the last of which may be an IPv4 address. -/
def lastPieces? (cs : List Char) : Option (List Nat) :=
  let parts := cs.splitOn ':'
  match embeddedIpv4? (parts.getLast?.getD []) with
  | none => pieces? cs
  | some ending => (parts.dropLast.mapM piece?).map (· ++ ending)

/-- What stands before and behind the first two colons in a row. -/
def gap? : List Char → Option (List Char × List Char)
  | ':' :: ':' :: rest => some ([], rest)
  | c :: rest => (gap? rest).map fun (front, back) ↦ (c :: front, back)
  | [] => none

/-- The eight pieces of an IPv6 address; two colons in a row stand for the zeros that are
missing. -/
def ipv6? (cs : List Char) : Option (List Nat) :=
  match gap? cs with
  | none => (lastPieces? cs).filter (·.length = 8)
  | some (front, back) =>
    match pieces? front, lastPieces? back with
    | some front, some back =>
      let known := front.length + back.length
      if known < 8 then some (front ++ List.replicate (8 - known) 0 ++ back) else none
    | _, _ => none

end ChatHook.Url
