import ChatHook.Text.Numeral

/-!
# Punycode

A label outside ASCII is carried by ASCII letters, digits and hyphens: its ASCII characters first,
then, after a hyphen, the positions and values of the others as numbers of a mixed base, in
ascending order of the values.
-/

namespace ChatHook.Domain.Punycode

/-- Scales a distance down to what the digits of the next one are balanced for. -/
def balance (distance steps : Nat) : Nat :=
  if 455 < distance then balance (distance / 35) (steps + 1)
  else 36 * steps + 36 * distance / (distance + 38)
termination_by distance

/-- The bias after a distance: it is scaled by the number of characters placed so far, and damped
when it is the first one. -/
def adapt (distance placed : Nat) (isFirst : Bool) : Nat :=
  let damped := if isFirst then distance / 700 else distance / 2
  balance (damped + damped / placed) 0

/-- The threshold at a digit position: digits from there on say that another one follows. -/
def threshold (position bias : Nat) : Nat :=
  if position ≤ bias then 1 else if bias + 26 ≤ position then 26 else position - bias

/-- The letter or digit for a value below 36. -/
def digit (value : Nat) : Char :=
  Char.ofNat (if value < 26 then value + 'a'.toNat else value - 26 + '0'.toNat)

/-- The value of a letter or digit. -/
def value? (c : Char) : Option Nat :=
  if 'a' ≤ c ∧ c ≤ 'z' then some (c.toNat - 'a'.toNat)
  else if 'A' ≤ c ∧ c ≤ 'Z' then some (c.toNat - 'A'.toNat)
  else if '0' ≤ c ∧ c ≤ '9' then some (c.toNat - '0'.toNat + 26)
  else none

/-! ## Encoding -/

/-- The digits of a distance, from a digit position on. -/
def distanceDigits (bias position distance : Nat) : List Char :=
  let t := threshold position bias
  if h : t ≤ distance ∧ 1 ≤ t ∧ t < 36 then
    digit (t + (distance - t) % (36 - t)) ::
      distanceDigits bias (position + 36) ((distance - t) / (36 - t))
  else [digit distance]
termination_by distance
decreasing_by
  obtain ⟨hle, hpos, _⟩ := h
  exact Nat.lt_of_le_of_lt (Nat.div_le_self _ _) (Nat.sub_lt (Nat.lt_of_lt_of_le hpos hle) hpos)

/-- Encoding in progress: digits written so far, last first; the distance since the last placed
character; the bias; the characters placed. -/
structure Encoding where
  written : List Char
  distance : Nat
  bias : Nat
  placed : Nat
  isFirst : Bool

/-- Passes one character of the label while those of value `code` are placed. -/
def Encoding.step (code : Nat) (s : Encoding) (c : Char) : Encoding :=
  if c.toNat < code then { s with distance := s.distance + 1 }
  else if c.toNat = code then
    { written := (distanceDigits s.bias 36 s.distance).reverse ++ s.written
      distance := 0
      bias := adapt s.distance (s.placed + 1) s.isFirst
      placed := s.placed + 1
      isFirst := false }
  else s

/-- Places all characters of the given values, ascending; `before` is the value from which the
first of them is counted. -/
def encodeCodes (label : List Char) : Nat → List Nat → Encoding → Encoding
  | _, [], s => s
  | before, code :: codes, s =>
    let s := { s with distance := s.distance + (code - before) * (s.placed + 1) }
    let s := label.foldl (Encoding.step code) s
    encodeCodes label (code + 1) codes { s with distance := s.distance + 1 }

/-- The distinct values of the characters outside ASCII, ascending. -/
def codesOf (label : List Char) : List Nat :=
  ((label.filterMap fun c ↦ if 0x80 ≤ c.toNat then some c.toNat else none).mergeSort
    (· ≤ ·)).eraseDups

/-- The letters, digits and hyphens that carry a label. -/
def encode (label : List Char) : List Char :=
  let plain := label.filter (·.toNat < 0x80)
  let front := if plain.isEmpty then [] else plain ++ ['-']
  let s := encodeCodes label 0x80 (codesOf label) ⟨[], 0, 72, plain.length, true⟩
  front ++ s.written.reverse

/-! ## Decoding -/

/-- Reads a distance: its value and what follows it. A distance whose sum leaves the range of 32
bits is refused, as no label is so long. -/
def readDistance (bias : Nat) : Nat → Nat → Nat → List Char → Option (Nat × List Char)
  | _, _, _, [] => none
  | position, weight, sum, c :: cs =>
    match value? c with
    | none => none
    | some d =>
      let sum := sum + d * weight
      if 0x100000000 ≤ sum then none
      else
        let t := threshold position bias
        if d < t then some (sum, cs)
        else
          let weight := weight * (36 - t)
          if 0x100000000 ≤ weight then none else readDistance bias (position + 36) weight sum cs

theorem length_lt_of_readDistance {bias : Nat} {rest : List Char} {n : Nat} :
    ∀ {cs : List Char} {position weight sum : Nat},
      readDistance bias position weight sum cs = some (n, rest) → rest.length < cs.length := by
  intro cs
  induction cs with
  | nil => simp [readDistance]
  | cons c cs ih =>
    intro position weight sum h
    rw [readDistance] at h
    split at h
    · simp at h
    · dsimp only at h
      split at h
      · simp at h
      · split at h
        · simp only [Option.some.injEq, Prod.mk.injEq] at h
          simp [h.2]
        · split at h
          · simp at h
          · exact Nat.lt_succ_of_lt (ih h)

/-- Places the characters that the distances name into a label. `index` is where the next one
would go if its distance were zero, and `code` the value it would have. -/
def place (code index bias : Nat) (label cs : List Char) : Option (List Char) :=
  if cs.isEmpty then some label
  else
    match _hread : readDistance bias 36 1 index cs with
    | none => none
    | some (stop, rest) =>
      let size := label.length + 1
      let value := code + stop / size
      if value < 0xD800 ∨ (0xDFFF < value ∧ value < 0x110000) then
        place value (stop % size + 1) (adapt (stop - index) size (index = 0))
          (label.take (stop % size) ++ Char.ofNat value :: label.drop (stop % size)) rest
      else none
termination_by cs.length
decreasing_by exact length_lt_of_readDistance ‹_›

/-- The label that letters, digits and hyphens carry. Everything before the last hyphen stands for
itself. -/
def decode? (cs : List Char) : Option (List Char) :=
  let tail := (cs.reverse.takeWhile (· != '-')).reverse
  let plain := cs.take (cs.length - tail.length - 1)
  place 0x80 0 72 plain tail

end ChatHook.Domain.Punycode
