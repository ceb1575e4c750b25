import ChatHook.Text.Numeral

/-!
# Tables over code points

Data of the character standards comes as ranges of code points, each with a value. A table is
written as lines of items `A`, `A-B`, `A=V` or `A-B=V`, in ascending order and with `A` and `B` in
hexadecimal; what `V` means is the table's own affair. Looking up a code point halves the table.
-/

namespace ChatHook

/-- Ranges of code points with their values, ascending and disjoint. -/
structure CodeTable (α : Type) where
  entries : Array (Nat × Nat × α)

namespace CodeTable

variable {α : Type}

/-- The value at `c` among the entries with index at least `low` and below `high`. -/
def findIn (t : CodeTable α) (c low high : Nat) : Option α :=
  if low < high then
    let middle := (low + high) / 2
    match t.entries[middle]? with
    | none => none
    | some (first, last, value) =>
      if c < first then findIn t c low middle
      else if last < c then findIn t c (middle + 1) high
      else some value
  else none
termination_by high - low

/-- The value of the range that holds `c`. -/
def find? (t : CodeTable α) (c : Nat) : Option α :=
  t.findIn c 0 t.entries.size

/-- Whether some range holds `c`. -/
def contains (t : CodeTable α) (c : Nat) : Bool :=
  (t.find? c).isSome

/-- One written item. -/
def item? (value : List Char → α) (cs : List Char) : Option (Nat × Nat × α) :=
  let range := cs.takeWhile (· != '=')
  let rest := (cs.dropWhile (· != '=')).drop 1
  let first := range.takeWhile (· != '-')
  let last := (range.dropWhile (· != '-')).drop 1
  match Numeral.ofDigits? 16 first with
  | none => none
  | some a => some (a, (Numeral.ofDigits? 16 last).getD a, value rest)

/-- The table written by lines of items, each item ended by a blank or the end of its line. -/
def ofLines (value : List Char → α) (lines : List String) : CodeTable α :=
  ⟨(lines.flatMap fun line ↦ (line.toList.splitOn ' ').filterMap (item? value)).toArray⟩

/-- A set of code points: a table without values. -/
def setOfLines (lines : List String) : CodeTable Unit :=
  ofLines (fun _ ↦ ()) lines

end CodeTable

end ChatHook
