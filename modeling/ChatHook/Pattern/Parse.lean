import ChatHook.Pattern.Bracket

/-!
# Parsing patterns

A pattern is a row of pieces, each perhaps repeated, with alternatives between bars and groups
between parentheses. Groups that are open are kept on a stack, so that reading is one loop. A
fault of form counts before any fault of meaning, wherever the two stand.

Two limits of the notation are not kept to the letter. Groups, sets and repetitions may stand in
each other to any depth, where a pattern of more than 250 levels would be refused; and whether a
pattern is too large is told by a count of its parts and not by the bytes of what it is compiled to.
-/

namespace ChatHook.Pattern

/-! ## Repetitions -/

/-- How often something is repeated: a least and perhaps a greatest number. -/
structure Count where
  least : Nat
  most : Option Nat
deriving DecidableEq

/-- The greatest number that a count may hold. -/
def countBound : Nat := 0xFFFFFFFF

/-- A number in braces, with blanks around it. -/
def readCountNumber (blanks : Bool) (c : Cursor) : Except Fault Nat × Cursor :=
  let (_, c) := c.gather false Text.isBlank
  let (digits, stop) := c.gather blanks Char.isDigit
  let (_, after) := stop.gather blanks Text.isBlank
  let number : Except Fault Nat :=
    match Numeral.ofDigits? 10 digits with
    | none => .error (stop.faultFrom c.place .countEmpty)
    | some n =>
      if n ≤ countBound then .ok n else .error (stop.faultFrom c.place .decimalTooLarge)
  (number, after)

/-- The greatest number of a count, behind the comma. -/
def readMost (blanks : Bool) (start : Nat) (least : Except Fault Nat) (c : Cursor) :
    Parsed Count :=
  match c.next?, least with
  | none, _ => .error (c.faultFrom start .countUnclosed)
  | some '}', .ok least => .ok (⟨least, none⟩, c)
  | _, .error f => .error f
  | _, .ok least =>
    match readCountNumber blanks c with
    | (.error f, _) => .error f
    | (.ok most, after) => .ok (⟨least, some most⟩, after)

/-- A count in braces, from the opening one on; a mark behind it says how much the repetition
prefers. -/
def readCount (blanks : Bool) (c : Cursor) : Parsed Count :=
  let start := c.place
  let c := c.advance blanks
  if c.next? = none then .error (c.faultFrom start .countUnclosed)
  else
    let (least, c) := readCountNumber blanks c
    let count : Parsed Count :=
      match c.next?, least with
      | none, _ => .error (c.faultFrom start .countUnclosed)
      | some ',', _ => readMost blanks start least (c.advance blanks)
      | _, .error f => .error f
      | _, .ok n => .ok (⟨n, some n⟩, c)
    match count with
    | .error f => .error f
    | .ok (count, c) =>
      if c.next? ≠ some '}' then .error (c.faultFrom start .countUnclosed)
      else
        let c := c.advance blanks
        let c := if c.next? = some '?' then c.step else c
        if count.most.any (· < count.least) then .error (c.faultFrom start .countRange)
        else .ok (count, c)

/-- The count of a sign, with a mark behind it or without. -/
def readSign (count : Count) (c : Cursor) : Count × Cursor :=
  let c := c.step
  (count, if c.next? = some '?' then c.step else c)

/-! ## Groups -/

/-- The flags that a group turns on and off: those before the dash are turned on. -/
structure FlagItem where
  /-- None for the dash itself. -/
  flag : Option Flag
  place : Nat
deriving DecidableEq

/-- The flags from a cursor up to a colon or a closing parenthesis. -/
def readFlagItems (items : List FlagItem) (place : Nat) : List Char → Parsed (List FlagItem)
  | [] => .error (.between .flagCut place place)
  | c :: rest =>
    if c = ':' ∨ c = ')' then .ok (items, ⟨place, c :: rest⟩)
    else
      let add (flag : Option Flag) (twice : FaultKind) : Except Fault (List FlagItem) :=
        match items.find? (·.flag = flag) with
        | some known =>
          .error ⟨twice, ⟨place, place + 1⟩, some ⟨known.place, known.place + 1⟩⟩
        | none => .ok (items ++ [⟨flag, place⟩])
      let added : Except Fault (List FlagItem) :=
        if c = '-' then add none .flagNegationTwice
        else match Flag.ofLetter? c with
          | some flag => add (some flag) .flagTwice
          | none => .error (.between .flagUnknown place (place + 1))
      match added with
      | .error f => .error f
      | .ok items => readFlagItems items (place + 1) rest

/-- The flags of a group; a dash turns off those behind it, and there have to be some. -/
def readFlags (c : Cursor) : Parsed (List FlagItem) :=
  match readFlagItems [] c.place c.rest with
  | .error f => .error f
  | .ok (items, after) =>
    match items.getLast? with
    | some ⟨none, place⟩ => .error (.between .flagDanglingNegation place (place + 1))
    | _ => .ok (items, after)

/-- The flags after some of them have been turned on and off. -/
def Flags.turnAll (fs : Flags) (items : List FlagItem) : Flags :=
  (items.foldl (fun (fs, on) item ↦
    match item.flag with
    | none => (fs, false)
    | some flag => (Flags.turn fs flag on, on)) (fs, true)).1

/-- Whether a character may stand in the name of a group, at its start or later. -/
def isNameChar (isFirst : Bool) (c : Char) : Bool :=
  c = '_' || c.isAlpha || 0x80 ≤ c.toNat ||
    (!isFirst && (c.isDigit || c = '.' || c = '[' || c = ']'))

/-- A name of a group, with the place where it stands. -/
structure GroupName where
  name : List Char
  span : Span
deriving DecidableEq

/-- The name of a group up to the closing sign; `seen` holds the characters before, last first. -/
def readNameFrom (start : Nat) (seen : List Char) (place : Nat) : List Char → Parsed GroupName
  | [] => .error (.between .nameCut place place)
  | c :: rest =>
    if c = '>' then
      if seen.isEmpty then .error (.between .nameEmpty start start)
      else .ok (⟨seen.reverse, ⟨start, place⟩⟩, ⟨place + 1, rest⟩)
    else if isNameChar seen.isEmpty c then readNameFrom start (c :: seen) (place + 1) rest
    else .error (.between .nameChar place (place + 1))

/-- What an opening parenthesis begins. -/
inductive GroupStart where
  /-- A group that holds a part of the pattern, perhaps with a name. -/
  | capture (name : Option GroupName)
  /-- A group with flags of its own. -/
  | flagged (items : List FlagItem)
  /-- Flags for the rest of the enclosing group. -/
  | setting (items : List FlagItem)

/-- The sign of an assertion about what lies around, if one comes next. -/
def pastLookAround? (c : Cursor) : Option Cursor :=
  ["?=", "?!", "?<=", "?<!"].findSome? c.past?

/-- What an opening parenthesis begins, and the cursor behind it. -/
def readGroupStart (blanks : Bool) (c : Cursor) : Parsed GroupStart :=
  let start := c.place
  let c := c.advance blanks
  match pastLookAround? c with
  | some after => .error (after.faultFrom start .lookAround)
  | none =>
    match (c.past? "?P<").orElse fun _ ↦ c.past? "?<" with
    | some after =>
      (readNameFrom after.place [] after.place after.rest).map fun (name, after) ↦
        (.capture (some name), after)
    | none =>
      match c.past? "?" with
      | none => .ok (.capture none, c)
      | some after =>
        if after.next? = none then .error (.between .groupUnclosed start (start + 1))
        else match readFlags after with
          | .error f => .error f
          | .ok (items, stop) =>
            if stop.next? = some ')' then
              if items.isEmpty then .error (c.fault .repetitionOfNothing)
              else .ok (.setting items, stop.step)
            else .ok (.flagged items, stop.step)

/-! ## The whole pattern -/

/-- The alternatives of a group that are complete, and the pieces of the last one; a piece that
only sets flags is none. -/
structure Row where
  alternatives : List Pattern
  pieces : List (Option Pattern)

namespace Row

/-- Nothing read yet. -/
def start : Row :=
  ⟨[], []⟩

/-- The row with one more piece. -/
def add (r : Row) (piece : Option Pattern) : Row :=
  { r with pieces := r.pieces ++ [piece] }

/-- The pattern of the pieces after the last bar. -/
def lastAlternative (r : Row) : Pattern :=
  .seqs (r.pieces.filterMap id)

/-- The row behind a bar. -/
def bar (r : Row) : Row :=
  ⟨r.alternatives ++ [r.lastAlternative], []⟩

/-- The pattern of the whole row. -/
def pattern (r : Row) : Pattern :=
  match r.bar.alternatives with
  | [] => .empty
  | p :: ps => .eithers p ps

/-- The row with its last piece repeated, if there is one. -/
def repeated? (r : Row) (count : Count) : Option Row :=
  match r.pieces.getLast? with
  | some (some p) =>
    some { r with pieces := r.pieces.dropLast ++ [some (.repeated p count.least count.most)] }
  | _ => none

end Row

/-- A group that is not closed yet: what stands before it, the flags there, and the place of its
parenthesis. -/
structure OpenGroup where
  before : Row
  flags : Flags
  place : Nat

/-- What has been read of a pattern. -/
structure Reading where
  row : Row
  flags : Flags
  groups : List OpenGroup
  names : List GroupName
  /-- The first fault of meaning. -/
  doubt : Option Fault

namespace Reading

/-- Nothing read yet. -/
def start : Reading :=
  ⟨.start, .standard, [], [], none⟩

/-- The reading with one more piece, which means what it should or not. -/
def addMeant (r : Reading) (meant : Meant Pattern) : Reading :=
  { r with row := r.row.add (some meant.value), doubt := r.doubt.or meant.doubt }

/-- The reading inside a group that starts at a place. -/
def enter (r : Reading) (place : Nat) (flags : Flags) : Reading :=
  { r with row := .start, flags, groups := ⟨r.row, r.flags, place⟩ :: r.groups }

/-- The reading behind what an opening parenthesis begins. -/
def open? (r : Reading) (place : Nat) : GroupStart → Except Fault Reading
  | .setting items => .ok { r with row := r.row.add none, flags := r.flags.turnAll items }
  | .flagged items => .ok (r.enter place (r.flags.turnAll items))
  | .capture none => .ok (r.enter place r.flags)
  | .capture (some name) =>
    match r.names.find? (·.name = name.name) with
    | some known => .error ⟨.nameTwice, name.span, some known.span⟩
    | none => .ok { r.enter place r.flags with names := r.names ++ [name] }

/-- The reading behind a group that closes. -/
def close? (r : Reading) : Option Reading :=
  match r.groups with
  | [] => none
  | group :: groups =>
    some { r with row := group.before.add (some r.row.pattern), flags := group.flags, groups }

/-- The reading with the last piece repeated. A sign with nothing in front of it is a fault. -/
def repeated (r : Reading) (here : Cursor) (count : Count) : Except Fault Reading :=
  match r.row.repeated? count with
  | some row => .ok { r with row }
  | none => .error (here.fault .repetitionOfNothing)

end Reading

/-- The count of a sign of repetition. -/
def signCount? (c : Char) : Option Count :=
  match c with
  | '?' => some ⟨0, some 1⟩
  | '*' => some ⟨0, none⟩
  | '+' => some ⟨1, none⟩
  | _ => none

/-- One character that is no operator, or what stands behind a backslash. -/
def readAtom (blanks : Bool) (first : Char) (c : Cursor) : Parsed (Placed Atom) :=
  let sign (atom : Atom) : Parsed (Placed Atom) := .ok (⟨atom, ⟨c.place, c.place + 1⟩⟩, c.step)
  match first with
  | '\\' => readEscape blanks c
  | '.' => sign .dot
  | '^' => sign .caret
  | '$' => sign .dollar
  | first => sign (.literal first false)

/-- One step of reading a pattern, at its next character. -/
def Reading.step (r : Reading) (next : Char) (c : Cursor) : Parsed Reading :=
  let blanks := r.flags.blanks
  match next with
  | '(' =>
    match readGroupStart blanks c with
    | .error f => .error f
    | .ok (start, after) => (r.open? c.place start).map (·, after)
  | ')' =>
    match r.close? with
    | some r => .ok (r, c.step)
    | none => .error (c.faultNext .groupUnopened)
  | '|' => .ok ({ r with row := r.row.bar }, c.step)
  | '[' =>
    match readClass r.flags c with
    | .error f => .error f
    | .ok (set, after) => .ok (r.addMeant ⟨.char set.value, set.doubt⟩, after)
  | '{' =>
    match r.repeated c ⟨0, none⟩ with
    | .error f => .error f
    | .ok _ =>
      match readCount blanks c with
      | .error f => .error f
      | .ok (count, after) => (r.repeated c count).map (·, after)
  | next =>
    match signCount? next with
    | some count =>
      let (count, after) := readSign count c
      (r.repeated c count).map (·, after)
    | none =>
      match readAtom blanks next c with
      | .error f => .error f
      | .ok (atom, after) =>
        match atom.value.pattern r.flags with
        | .ok p => .ok (r.addMeant ⟨p, none⟩, after)
        | .error kind => .ok (r.addMeant ⟨.empty, some ⟨kind, atom.span, none⟩⟩, after)

/-- Reads a pattern up to its end. Every step leaves less to read. -/
def Reading.run (r : Reading) (c : Cursor) : Except Fault Reading :=
  let here := c.skip r.flags.blanks
  match here.next? with
  | none =>
    match r.groups with
    | [] => .ok r
    | group :: _ => .error (.between .groupUnclosed group.place (group.place + 1))
  | some next =>
    match r.step next here with
    | .error f => .error f
    | .ok (r, after) =>
      if after.rest.length < c.rest.length then r.run after
      else .error (here.fault .escapeUnknown)
termination_by c.rest.length

/-! ## Size -/

/-- The size of a pattern when its repetitions are written out. -/
def size : Pattern → Nat
  | .empty => 1
  | .char _ => 1
  | .look _ => 1
  | .seq p q => p.size + q.size
  | .either p q => p.size + q.size + 1
  | .repeated p least most => p.size * max 1 (max least (most.getD 0)) + 1

/-- The greatest size of a pattern, in place of ten megabytes for what it is compiled to. -/
def sizeBound : Nat := 200000

/-- The pattern that a text writes down. -/
def parse (source : List Char) : Except Fault Pattern :=
  match Reading.start.run ⟨0, source⟩ with
  | .error f => .error f
  | .ok r =>
    match r.doubt with
    | some f => .error f
    | none =>
      if r.row.pattern.size ≤ sizeBound then .ok r.row.pattern
      else .error (.between .tooLarge 0 0)

end ChatHook.Pattern
