import ChatHook.Domain.Composition

/-!
# Canonical composition

Names that look the same are made the same before they are compared: a name is taken apart into
base characters and marks, runs of marks are put into their canonical order, and what can be
composed is composed again (normalization form C, for characters that are stable under it or
primary composites).
-/

namespace ChatHook.Domain

/-! ## Hangul syllables

A syllable of the Hangul script is composed of a leading consonant, a vowel and perhaps a trailing
consonant by arithmetic on the code points. -/

/-- The parts of a Hangul syllable. -/
def hangulParts? (c : Nat) : Option (List Nat) :=
  if 0xAC00 ≤ c ∧ c < 0xAC00 + 11172 then
    let i := c - 0xAC00
    let lead := 0x1100 + i / 588
    let vowel := 0x1161 + i % 588 / 28
    some (if i % 28 = 0 then [lead, vowel] else [lead, vowel, 0x11A7 + i % 28])
  else none

/-- The Hangul syllable made of two code points. -/
def hangulOf? (a b : Nat) : Option Nat :=
  if 0x1100 ≤ a ∧ a < 0x1113 ∧ 0x1161 ≤ b ∧ b < 0x1176 then
    some (0xAC00 + ((a - 0x1100) * 21 + (b - 0x1161)) * 28)
  else if 0xAC00 ≤ a ∧ a < 0xAC00 + 11172 ∧ (a - 0xAC00) % 28 = 0 ∧ 0x11A8 ≤ b ∧ b < 0x11C3 then
    some (a + (b - 0x11A7))
  else none

/-! ## Taking apart -/

/-- The canonical decomposition of a code point. A composite starts with at most three marks
stripped one by one, so `depth` counts how often a first part may be a composite again. -/
def decompose : Nat → Nat → List Nat
  | 0, c => [c]
  | depth + 1, c =>
    match hangulParts? c with
    | some parts => parts
    | none =>
      match compositeTable.find? c with
      | some [a, b] => decompose depth a ++ [b]
      | _ => [c]

/-- Inserts a mark behind all marks of no greater class at the end of a run; `run` has its last
mark first. -/
def insertMark (mark : Nat) : List Nat → List Nat
  | [] => [mark]
  | m :: run =>
    if combiningClass mark < combiningClass m ∧ combiningClass mark ≠ 0 then
      m :: insertMark mark run
    else mark :: m :: run

/-- Code points with every run of marks in canonical order. -/
def reorder (codes : List Nat) : List Nat :=
  (codes.foldl (fun done c ↦ if combiningClass c = 0 then c :: done else insertMark c done)
    []).reverse

/-! ## Composing -/

/-- One number for a pair of code points. -/
def pairKey (a b : Nat) : Nat :=
  a * 0x110000 + b

/-- Every pair of parts with its composite, by the number of the pair. -/
def compositionTable : CodeTable Nat :=
  ⟨((compositeTable.entries.toList.filterMap fun (c, _, parts) ↦
    match parts with
    | [a, b] => some (pairKey a b, pairKey a b, c)
    | _ => none).mergeSort fun x y ↦ x.1 ≤ y.1).toArray⟩

/-- The primary composite of two code points. -/
def compose? (a b : Nat) : Option Nat :=
  (hangulOf? a b).orElse fun _ ↦ compositionTable.find? (pairKey a b)

/-- Composition in progress: what is finished, last first; the starter that may still change; the
marks that stay behind it, last first; and the greatest class among them. -/
structure Composing where
  done : List Nat
  starter : Option Nat
  marks : List Nat
  blocked : Nat

/-- The code points of a composition in progress, last first. -/
def Composing.codes (s : Composing) : List Nat :=
  s.marks ++ s.starter.toList ++ s.done

/-- Takes the next code point into a composition: it composes with the starter unless a mark
between them has no smaller class. -/
def Composing.step (s : Composing) (c : Nat) : Composing :=
  let class_ := combiningClass c
  match s.starter with
  | none =>
    if class_ = 0 then ⟨s.codes, some c, [], 0⟩ else ⟨c :: s.codes, none, [], 0⟩
  | some starter =>
    let adjacent := s.marks.isEmpty || (class_ ≠ 0 && s.blocked < class_)
    match (if adjacent then compose? starter c else none) with
    | some composite => { s with starter := some composite }
    | none =>
      if class_ = 0 then ⟨s.codes, some c, [], 0⟩
      else { s with marks := c :: s.marks, blocked := class_ }

/-- The canonical composition of a text. -/
def normalize (cs : List Char) : List Char :=
  if cs.all (·.toNat < 0x300) then cs
  else
    let apart := reorder (cs.flatMap fun c ↦ decompose 4 c.toNat)
    ((apart.foldl Composing.step ⟨[], none, [], 0⟩).codes.reverse).map Char.ofNat

end ChatHook.Domain
