import ChatHook.Text.Utf8

/-!
# Plain text

Text for a place that cannot show colours: control sequences of terminals are left out, and so are
all controls but those that move on a page. A sequence that is not finished takes everything up to
the next printable byte that cannot belong to it.
-/

namespace ChatHook.Text

/-- What the byte before belongs to. -/
inductive Sequence where
  /-- Nothing but text. -/
  | none
  /-- An escape character. -/
  | escape
  /-- An escape character and bytes that only prepare its last one. -/
  | prepared
  /-- A control sequence with parameters. -/
  | control
  /-- A command for the terminal itself. -/
  | command
  /-- A string for a device or a program. -/
  | device
deriving DecidableEq

/-- Whether a byte moves on a page: tab, line feed, form feed or carriage return. -/
def movesOnPage (b : UInt8) : Bool :=
  b = 0x09 || b = 0x0A || b = 0x0C || b = 0x0D

/-- What an escape character followed by a printable byte is. -/
def Sequence.afterEscape (b : UInt8) : Sequence :=
  if b < 0x30 then .prepared
  else if b = 0x5B then .control
  else if b = 0x5D then .command
  else if b = 0x50 ∨ b = 0x58 ∨ b = 0x5E ∨ b = 0x5F then .device
  else .none

/-- What a sequence is after a printable byte in it. -/
def Sequence.continued (s : Sequence) (b : UInt8) : Sequence :=
  match s with
  | .none => .none
  | .escape => .afterEscape b
  | .prepared => if b < 0x30 then .prepared else .none
  | .control => if b < 0x40 then .control else .none
  | .command => .command
  | .device => .device

/-- Whether a byte is shown after a sequence, and what it belongs to itself. Bytes inside a longer
character are always shown. -/
def Sequence.step (s : Sequence) (b : UInt8) : Bool × Sequence :=
  if 0x80 ≤ b ∧ b < 0xC0 then (true, .none)
  else if b = 0x1B then (false, .escape)
  else if b = 0x18 ∨ b = 0x1A then (false, .none)
  else match s with
    | .none => (movesOnPage b || (0x20 ≤ b && b ≠ 0x7F), .none)
    | .command => (false, if b = 0x07 then .none else .command)
    | .device => (false, .device)
    | s =>
      if movesOnPage b then (true, .none)
      else if b < 0x20 ∨ 0x7F ≤ b then (false, s)
      else (false, s.continued b)

/-- The bytes that are shown after a sequence. -/
def shownAfter (s : Sequence) : Bytes → Bytes
  | [] => []
  | b :: bs =>
    let (shown, s) := s.step b
    if shown then b :: shownAfter s bs else shownAfter s bs

/-- A text without control sequences and controls. -/
def plain (text : String) : String :=
  Utf8.display (shownAfter .none (Utf8.encode text))

end ChatHook.Text
