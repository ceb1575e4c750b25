/-!
# Likeness of words

How much a word looks like another: the mean of three shares, those of the characters of either
word that are matched with one of the other, and that of the matched characters which keep their
order. Scores are exact fractions, so that a bound is met or missed without rounding.
-/

namespace ChatHook.Text

/-- A share of a whole. A whole of nothing has no meaning. -/
structure Score where
  part : Nat
  whole : Nat
deriving DecidableEq

namespace Score

/-- Whether one score is at least as high as another. -/
def atLeast (a b : Score) : Bool :=
  b.part * a.whole ≤ a.part * b.whole

end Score

/-- How far apart matched characters may stand in words of these lengths. -/
def matchDistance (m n : Nat) : Nat :=
  max m n / 2 - 1

/-- The position that the `i`-th character of a word is matched with in the other word: the first
one of the same character that is near enough and not taken. -/
def partner? (distance : Nat) (other : List Char) (taken : List Nat) (i : Nat) (c : Char) :
    Option Nat :=
  (List.range other.length).find? fun j ↦
    i ≤ j + distance && j ≤ i + distance && other[j]? = some c && !taken.contains j

/-- The matched characters of a word with their positions in the other one; `i` is the position
of the first character. -/
def partners (distance : Nat) (other : List Char) (taken : List Nat) (i : Nat) :
    List Char → List (Char × Nat)
  | [] => []
  | c :: cs =>
    match partner? distance other taken i c with
    | some j => (c, j) :: partners distance other (j :: taken) (i + 1) cs
    | none => partners distance other taken (i + 1) cs

/-- The likeness of two words. -/
def likeness (word other : List Char) : Score :=
  let m := word.length
  let n := other.length
  if m = 0 ∧ n = 0 then ⟨1, 1⟩
  else
    let pairs := partners (matchDistance m n) other [] 0 word
    let k := pairs.length
    if k = 0 then ⟨0, 1⟩
    else
      let matched := (other.zipIdx.filter fun (_, j) ↦ (pairs.map Prod.snd).contains j).map Prod.fst
      let swapped := ((pairs.map Prod.fst).zip matched).countP fun (a, b) ↦ a ≠ b
      ⟨k * k * n + k * k * m + (k - swapped / 2) * m * n, 3 * k * m * n⟩

end ChatHook.Text
