/-!
# Sets of characters

Sets of characters as a pattern writes them down: ranges, joined, cut and turned around, and the
set of everything that differs from a member in its case at most.
-/

namespace ChatHook

/-- The characters that differ from a character in their case at most, itself first. Two letters
have a third form beyond the capital and the small one. -/
def caseVariants (c : Char) : List Char :=
  if 'a' ≤ c ∧ c ≤ 'z' then
    [c, c.toUpper] ++ (if c = 'k' then ['\u212A'] else if c = 's' then ['\u017F'] else [])
  else if 'A' ≤ c ∧ c ≤ 'Z' then
    [c, c.toLower] ++ (if c = 'K' then ['\u212A'] else if c = 'S' then ['\u017F'] else [])
  else if c = '\u212A' then [c, 'k', 'K']
  else if c = '\u017F' then [c, 's', 'S']
  else [c]

/-- A set of characters. -/
inductive CharSet where
  | empty
  /-- All characters between two code points, both included. -/
  | range (low high : Nat)
  | union (a b : CharSet)
  | inter (a b : CharSet)
  | diff (a b : CharSet)
  | compl (a : CharSet)
  /-- The members and everything that differs from one in its case at most. -/
  | anyCase (a : CharSet)
deriving DecidableEq

namespace CharSet

/-- Whether a character is a member. -/
def contains : CharSet → Char → Bool
  | .empty, _ => false
  | .range low high, c => low ≤ c.toNat && c.toNat ≤ high
  | .union a b, c => a.contains c || b.contains c
  | .inter a b, c => a.contains c && b.contains c
  | .diff a b, c => a.contains c && !b.contains c
  | .compl a, c => !a.contains c
  | .anyCase a, c => (caseVariants c).any fun d ↦ a.contains d

/-- One character. -/
def single (c : Char) : CharSet :=
  .range c.toNat c.toNat

/-- The last code point. -/
def last : Nat := 0x10FFFF

/-- Every character. -/
def all : CharSet :=
  .range 0 last

/-- What is in one of two sets but not in both. -/
def symmDiff (a b : CharSet) : CharSet :=
  .union (.diff a b) (.diff b a)

/-- The union of some sets. -/
def unions (sets : List CharSet) : CharSet :=
  sets.foldl .union .empty

/-- The set of the characters in a text. -/
def ofText (text : String) : CharSet :=
  unions (text.toList.map single)

/-- Whether a set has members beyond the first 128 characters: an upper bound, which takes no
account of what is cut away. -/
def reachesBeyondAscii : CharSet → Bool
  | .empty => false
  | .range _ high => 0x7F < high
  | .union a b => a.reachesBeyondAscii || b.reachesBeyondAscii
  | .inter a b => a.reachesBeyondAscii && b.reachesBeyondAscii
  | .diff a _ => a.reachesBeyondAscii
  | .compl _ => true
  | .anyCase a => a.reachesBeyondAscii

end CharSet

end ChatHook
