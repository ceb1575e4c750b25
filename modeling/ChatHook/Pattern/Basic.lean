import ChatHook.Pattern.CharSet

/-!
# Patterns

A pattern is a regular expression over characters with assertions about what stands around a
place. Whether it occurs in a text is all that is asked of it, so that matching is a question of
which places of a text are reached from which others.
-/

namespace ChatHook

/-- An assertion about a place in a text. -/
inductive Look where
  | textStart
  | textEnd
  | lineStart
  | lineEnd
  /-- As `lineStart`, where a carriage return ends a line too. -/
  | lineStartCrLf
  /-- As `lineEnd`, where a carriage return ends a line too. -/
  | lineEndCrLf
  | wordEdge
  | noWordEdge
  | wordStart
  | wordEnd
  | notAfterWord
  | notBeforeWord
deriving DecidableEq

/-- Whether a character belongs to a word: the ASCII letters and digits and the underscore do. -/
def isWordChar (c : Char) : Bool :=
  c.isAlphanum || c = '_'

/-- Whether an assertion holds between two characters, which are absent at the ends. -/
def Look.holds (look : Look) (before after : Option Char) : Bool :=
  let inWord (c : Option Char) : Bool := c.any isWordChar
  match look with
  | .textStart => before.isNone
  | .textEnd => after.isNone
  | .lineStart => before.isNone || before = some '\n'
  | .lineEnd => after.isNone || after = some '\n'
  | .lineStartCrLf =>
    before.isNone || before = some '\n' || (before = some '\r' && after ≠ some '\n')
  | .lineEndCrLf =>
    after.isNone || after = some '\r' || (after = some '\n' && before ≠ some '\r')
  | .wordEdge => inWord before != inWord after
  | .noWordEdge => inWord before == inWord after
  | .wordStart => !inWord before && inWord after
  | .wordEnd => inWord before && !inWord after
  | .notAfterWord => !inWord before
  | .notBeforeWord => !inWord after

/-- A pattern. -/
inductive Pattern where
  /-- Nothing, which is found everywhere. -/
  | empty
  | char (set : CharSet)
  | look (look : Look)
  | seq (first second : Pattern)
  | either (a b : Pattern)
  /-- At least so many times, and at most so many if there is a limit. -/
  | repeated (p : Pattern) (least : Nat) (most : Option Nat)
deriving DecidableEq

namespace Pattern

/-- One pattern behind the other. -/
def seqs : List Pattern → Pattern
  | [] => .empty
  | [p] => p
  | p :: ps => .seq p (seqs ps)

/-- One of some patterns; the first is not in the list. -/
def eithers (first : Pattern) (others : List Pattern) : Pattern :=
  others.foldl .either first

/-- The places reached by going one step at a time, any number of steps up to a bound. -/
def spread (step : List Nat → List Nat) : Nat → List Nat → List Nat
  | 0, places => places
  | n + 1, places =>
    let next := (places ++ step places).eraseDups
    if next.length = places.length then places else spread step n next

/-- The places reached by so many steps exactly. -/
def steps (step : List Nat → List Nat) : Nat → List Nat → List Nat
  | 0, places => places
  | n + 1, places =>
    let next := step places
    if next = places then places else steps step n next

/-- The character in front of a place. -/
def charBefore (text : List Char) : Nat → Option Char
  | 0 => none
  | i + 1 => text[i]?

/-- The places of a text where an occurrence may end that starts at one of the given ones. -/
def ends (text : List Char) : Pattern → List Nat → List Nat
  | .empty, places => places
  | .char set, places =>
    places.filterMap fun i ↦ if text[i]?.any set.contains then some (i + 1) else none
  | .look l, places => places.filter fun i ↦ l.holds (charBefore text i) text[i]?
  | .seq p q, places => ends text q (ends text p places)
  | .either p q, places => (ends text p places ++ ends text q places).eraseDups
  | .repeated p least most, places =>
    spread (ends text p) (most.elim (text.length + 1) (· - least))
      (steps (ends text p) least places)

/-- Whether a pattern occurs somewhere in a text. -/
def occursIn (p : Pattern) (text : String) : Bool :=
  !(p.ends text.toList (List.range (text.length + 1))).isEmpty

end Pattern

end ChatHook
