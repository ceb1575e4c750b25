import ChatHook.Text.CodeTable

/-!
# What a domain name makes of a character

Before a domain name is looked at label by label, every character of it is kept, replaced,
dropped, or makes the whole name unusable.
-/

namespace ChatHook.Domain

/-- What becomes of the characters of one range. -/
inductive Disposition where
  /-- The character stays as it is. -/
  | stays
  /-- No domain name holds the character. -/
  | barred
  /-- The character gives way to these; to none when it is dropped. -/
  | becomes (codes : List Nat)
  /-- The character gives way to the one so many places after it. -/
  | forward (distance : Nat)
  /-- The character gives way to the one so many places before it. -/
  | back (distance : Nat)
  /-- A character of this parity gives way to the next one, and the others stay. -/
  | next (parity : Nat)
deriving DecidableEq

namespace Disposition

/-- The code points of a written value, separated by full stops. -/
def writtenCodes (cs : List Char) : List Nat :=
  (cs.splitOn '.').filterMap (Numeral.ofDigits? 16)

/-- A written disposition: `!` bars, `+N` and `-N` move by a distance, `*N` is for a parity, and
code points are the replacement. -/
def ofWritten (cs : List Char) : Disposition :=
  match cs with
  | '!' :: _ => .barred
  | '+' :: ds => .forward ((Numeral.ofDigits? 16 ds).getD 0)
  | '-' :: ds => .back ((Numeral.ofDigits? 16 ds).getD 0)
  | '*' :: ds => .next ((Numeral.ofDigits? 16 ds).getD 0)
  | _ => .becomes (writtenCodes cs)

/-- What a character of the range gives way to; nothing if it bars the name. -/
def image? (d : Disposition) (c : Char) : Option (List Char) :=
  match d with
  | .stays => some [c]
  | .barred => none
  | .becomes codes => some (codes.map Char.ofNat)
  | .forward distance => some [Char.ofNat (c.toNat + distance)]
  | .back distance => some [Char.ofNat (c.toNat - distance)]
  | .next parity => some [if c.toNat % 2 = parity then Char.ofNat (c.toNat + 1) else c]

end Disposition

end ChatHook.Domain
