/-!
# Numerals

Digits of a base up to sixteen, read and written. `ofDigits?` accepts every non-empty run of
digits of the base and nothing else; bounds on the value are the caller's rule.
-/

namespace ChatHook.Numeral

/-- The value of a hexadecimal digit, either case. -/
def digit? (c : Char) : Option Nat :=
  if '0' ≤ c ∧ c ≤ '9' then some (c.toNat - '0'.toNat)
  else if 'a' ≤ c ∧ c ≤ 'f' then some (c.toNat - 'a'.toNat + 10)
  else if 'A' ≤ c ∧ c ≤ 'F' then some (c.toNat - 'A'.toNat + 10)
  else none

/-- The value of a digit of the given base. -/
def digitIn? (base : Nat) (c : Char) : Option Nat :=
  (digit? c).filter (· < base)

/-- The number written by digits of the base, continuing from `value`. -/
def extend? (base : Nat) (value : Nat) : List Char → Option Nat
  | [] => some value
  | c :: cs => (digitIn? base c).bind fun d ↦ extend? base (value * base + d) cs

/-- The number written by a non-empty run of digits of the base. -/
def ofDigits? (base : Nat) (cs : List Char) : Option Nat :=
  if cs.isEmpty then none else extend? base 0 cs

/-- The first number that a machine word cannot hold. -/
def wordBound : Nat := 0x10000000000000000

/-- The first number that a machine word with a sign cannot hold. -/
def signedBound : Nat := 0x8000000000000000

/-- The digits of a number in the base, without leading zeros. -/
def digits (base n : Nat) : List Char :=
  Nat.toDigits base n

/-- The digits of a number in the base, with leading zeros up to the given width. -/
def padded (base width n : Nat) : List Char :=
  let ds := digits base n
  List.replicate (width - ds.length) '0' ++ ds

/-- A capital hexadecimal digit pair for a byte. -/
def hexPair (byte : UInt8) : List Char :=
  (padded 16 2 byte.toNat).map Char.toUpper

end ChatHook.Numeral
