import ChatHook.Pattern.Fault
import ChatHook.Text.Blank

/-!
# Reading a pattern

A cursor is a place in a pattern with what is left behind it. Where blanks do not count they are
skipped after each step, and comments with them. Every step leaves less behind it.
-/

namespace ChatHook.Pattern

/-- A place in a pattern, and the characters from there on. -/
structure Cursor where
  place : Nat
  rest : List Char
deriving DecidableEq

namespace Cursor

/-- The next character. -/
def next? (c : Cursor) : Option Char :=
  c.rest.head?

/-- The place behind the next character. -/
def step (c : Cursor) : Cursor :=
  match c.rest with
  | [] => c
  | _ :: rest => ⟨c.place + 1, rest⟩

/-- Skips blanks and comments, from inside a comment or not. -/
def skipFrom (inComment : Bool) (place : Nat) : List Char → Cursor
  | [] => ⟨place, []⟩
  | c :: cs =>
    if inComment then skipFrom (c ≠ '\n') (place + 1) cs
    else if Text.isBlank c then skipFrom false (place + 1) cs
    else if c = '#' then skipFrom true (place + 1) cs
    else ⟨place, c :: cs⟩

/-- Skips blanks and comments where they do not count. -/
def skip (blanks : Bool) (c : Cursor) : Cursor :=
  if blanks then skipFrom false c.place c.rest else c

/-- The place behind the next character, and behind blanks that do not count. -/
def advance (blanks : Bool) (c : Cursor) : Cursor :=
  c.step.skip blanks

theorem length_skipFrom_le (inComment : Bool) (place : Nat) (cs : List Char) :
    (skipFrom inComment place cs).rest.length ≤ cs.length := by
  induction cs generalizing inComment place with
  | nil => simp [skipFrom]
  | cons c cs ih =>
    have h := ih
    simp only [skipFrom]
    split
    · exact Nat.le_succ_of_le (h _ _)
    · split
      · exact Nat.le_succ_of_le (h _ _)
      · split
        · exact Nat.le_succ_of_le (h _ _)
        · simp

theorem length_skip_le (blanks : Bool) (c : Cursor) :
    (c.skip blanks).rest.length ≤ c.rest.length := by
  unfold skip
  split
  · exact length_skipFrom_le _ _ _
  · exact Nat.le_refl _

/-- The characters up to the first one that is not good, each with its place, and the cursor
there. -/
def gather (blanks : Bool) (good : Char → Bool) : Cursor → List Char × Cursor
  | ⟨place, []⟩ => ([], ⟨place, []⟩)
  | ⟨place, c :: cs⟩ =>
    if good c then
      let (more, after) := gather blanks good (skip blanks ⟨place + 1, cs⟩)
      (c :: more, after)
    else ([], ⟨place, c :: cs⟩)
termination_by c => c.rest.length
decreasing_by exact Nat.lt_succ_of_le (length_skip_le blanks ⟨place + 1, cs⟩)

/-- The place behind some characters that come next, if they do. -/
def past? (c : Cursor) (text : String) : Option Cursor :=
  if text.toList.isPrefixOf c.rest then
    some ⟨c.place + text.length, c.rest.drop text.length⟩
  else none

/-- A fault from a place up to a cursor. -/
def faultFrom (c : Cursor) (start : Nat) (kind : FaultKind) : Fault :=
  .between kind start c.place

/-- A fault at a cursor. -/
def fault (c : Cursor) (kind : FaultKind) : Fault :=
  .between kind c.place c.place

/-- A fault of the next character. -/
def faultNext (c : Cursor) (kind : FaultKind) : Fault :=
  .between kind c.place (c.place + 1)

end Cursor

/-- What reading a piece comes to: the piece and the cursor behind it, or a fault. -/
abbrev Parsed (α : Type) : Type := Except Fault (α × Cursor)

/-- A piece of a pattern, and where it is. -/
structure Placed (α : Type) where
  value : α
  span : Span

end ChatHook.Pattern
