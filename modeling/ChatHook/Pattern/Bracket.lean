import ChatHook.Pattern.Atom

/-!
# Sets in brackets

A set in brackets is a row of characters, ranges, named sets and further brackets, and operators
that cut or join what stands before them with what comes behind. Brackets that are open are kept
on a stack, so that reading is one loop over the pattern.
-/

namespace ChatHook.Pattern

/-- An operator between sets. -/
inductive SetOp where
  | inter
  | diff
  | symmDiff
deriving DecidableEq

/-- The two sets joined by an operator. -/
def SetOp.apply (op : SetOp) (a b : CharSet) : CharSet :=
  match op with
  | .inter => .inter a b
  | .diff => .diff a b
  | .symmDiff => .symmDiff a b

/-- A bracket that is not closed yet: its start, what stands before the last operator, and the sets
behind it. -/
structure Bracket where
  span : Span
  negated : Bool
  before : Option (CharSet × SetOp)
  sets : List CharSet

/-- A set that is known so far, with the first fault of meaning in it. -/
structure Meant (α : Type) where
  value : α
  doubt : Option Fault

namespace Bracket

/-- The set of everything that has been read between the brackets. -/
def content (fs : Flags) (b : Bracket) : CharSet :=
  let sets := CharSet.unions b.sets
  match b.before with
  | none => sets
  | some (before, op) => op.apply (fs.folded before) (fs.folded sets)

/-- The bracket with one more set. -/
def add (b : Bracket) (set : CharSet) : Bracket :=
  { b with sets := b.sets ++ [set] }

/-- The bracket behind an operator. -/
def operate (fs : Flags) (b : Bracket) (op : SetOp) : Bracket :=
  { b with before := some (b.content fs, op), sets := [] }

/-- The set of a bracket that closes at a place. Where Unicode is off it must not reach beyond
ASCII. -/
def close (fs : Flags) (b : Bracket) (stop : Nat) : Meant CharSet :=
  let set := turned b.negated (fs.folded (b.content fs))
  ⟨set,
    if !fs.unicode && set.reachesBeyondAscii then some (.between .notText b.span.start stop)
    else none⟩

end Bracket

/-- The dashes at the start of a bracket, and the cursor behind them. -/
def leadingDashes (blanks : Bool) (c : Cursor) : List CharSet × Cursor :=
  let (dashes, after) := c.gather blanks (· = '-')
  (dashes.map CharSet.single, after)

/-- The start of a bracket: a caret turns it around, and dashes or a closing bracket in front stand
for themselves. -/
def openBracket (blanks : Bool) (c : Cursor) : Parsed Bracket :=
  let start := c.place
  let c := c.advance blanks
  let negated := c.next? = some '^'
  let c := if negated then c.advance blanks else c
  if c.next? = none then .error (c.faultFrom start .classUnclosed)
  else
    let (sets, c) := leadingDashes blanks c
    if c.next? = none then .error (.between .classUnclosed start start)
    else if sets.isEmpty && c.next? = some ']' then
      let after := c.advance blanks
      if after.next? = none then .error (after.faultFrom start .classUnclosed)
      else .ok (⟨⟨start, after.place⟩, negated, none, [.single ']']⟩, after)
    else .ok (⟨⟨start, c.place⟩, negated, none, sets⟩, c)

/-- The set that is named between colons at a cursor. -/
def colonSet? (c : Cursor) : Option (CharSet × Cursor) :=
  (c.past? "[:").bind fun c ↦
    let negated := c.next? = some '^'
    let c := if negated then c.step else c
    let (name, c) := c.gather false (· ≠ ':')
    (c.past? ":]").bind fun c ↦
      ((colonSets.find? (·.1 = String.ofList name)).map Prod.snd).map fun set ↦
        (turned negated set, c)

/-- One character or one named set, as it is written. -/
def readMember (blanks : Bool) (c : Cursor) : Parsed (Placed Atom) :=
  match c.next? with
  | none => .error (c.fault .classUnclosed)
  | some '\\' => readEscape blanks c
  | some other => .ok (⟨.literal other false, ⟨c.place, c.place + 1⟩⟩, c.step)

/-- The character of an atom that is to be the end of a range. -/
def rangeEnd (atom : Placed Atom) : Except Fault Char :=
  match atom.value with
  | .literal c _ => .ok c
  | _ => .error ⟨.classRangeEnd, atom.span, none⟩

/-- What an atom means between brackets: a set, perhaps a doubtful one. -/
def memberSet (fs : Flags) (atom : Placed Atom) : Except Fault (Meant CharSet) :=
  let doubt (kind : FaultKind) : Except Fault (Meant CharSet) :=
    .ok ⟨.empty, some ⟨kind, atom.span, none⟩⟩
  match atom.value with
  | .literal c twoDigits =>
    if !fs.unicode && 0x7F < c.toNat then
      doubt (if twoDigits then .notText else .unicodeNotAllowed)
    else .ok ⟨.single c, none⟩
  | .letterClass set negated => .ok ⟨turned negated set, none⟩
  | .property name negated =>
    match propertySet fs name negated with
    | .ok set => .ok ⟨set, none⟩
    | .error kind => doubt kind
  | _ => .error ⟨.classEscape, atom.span, none⟩

/-- Whether a dash at a cursor makes no range, since the bracket or an operator follows it. -/
def isLoneDash (blanks : Bool) (c : Cursor) : Bool :=
  let after := (c.advance blanks).next?
  after = some ']' || after = some '-'

/-- A member of a bracket: a single one or a range. `unclosed` is the fault of a pattern that ends
in it. -/
def readRange (fs : Flags) (unclosed : Fault) (c : Cursor) : Parsed (Meant CharSet) :=
  match readMember fs.blanks c with
  | .error f => .error f
  | .ok (first, c) =>
    let c := c.skip fs.blanks
    match c.next? with
    | none => .error unclosed
    | some dash =>
      if dash ≠ '-' || isLoneDash fs.blanks c then (memberSet fs first).map (·, c)
      else
        let c := c.advance fs.blanks
        if c.next? = none then .error unclosed
        else match readMember fs.blanks c with
          | .error f => .error f
          | .ok (second, c) =>
            match rangeEnd first, rangeEnd second with
            | .error f, _ => .error f
            | _, .error f => .error f
            | .ok low, .ok high =>
              if high < low then
                .error (.between .classRange first.span.start second.span.stop)
              else
                match memberSet fs first, memberSet fs second with
                | .ok ⟨_, none⟩, .ok ⟨_, doubt⟩ =>
                  .ok (⟨.range low.toNat high.toNat, doubt⟩, c)
                | .ok meant, _ => .ok (meant, c)
                | .error f, _ => .error f

/-- The operator at a cursor. -/
def setOp? (c : Cursor) : Option (SetOp × Cursor) :=
  ((c.past? "&&").map (SetOp.inter, ·)).orElse fun _ ↦
    ((c.past? "--").map (SetOp.diff, ·)).orElse fun _ ↦
      (c.past? "~~").map (SetOp.symmDiff, ·)

/-- What one step inside brackets leads to: more brackets to read in, or the whole set. -/
inductive BracketStep where
  | more (current : Bracket) (outer : List Bracket) (doubt : Option Fault) (after : Cursor)
  | done (set : Meant CharSet) (after : Cursor)

/-- One step inside brackets. -/
def stepBracket (fs : Flags) (current : Bracket) (outer : List Bracket) (doubt : Option Fault)
    (c : Cursor) : Except Fault BracketStep :=
  let unclosed : Fault := ⟨.classUnclosed, current.span, none⟩
  let c := c.skip fs.blanks
  match c.next? with
  | none => .error unclosed
  | some '[' =>
    match colonSet? c with
    | some (set, after) => .ok (.more (current.add set) outer doubt after)
    | none =>
      match openBracket fs.blanks c with
      | .error f => .error f
      | .ok (inner, after) => .ok (.more inner (current :: outer) doubt after)
  | some ']' =>
    let after := c.step
    let set := current.close fs after.place
    let doubt := doubt.or set.doubt
    match outer with
    | [] => .ok (.done ⟨set.value, doubt⟩ after)
    | enclosing :: outer => .ok (.more (enclosing.add set.value) outer doubt after)
  | some _ =>
    match setOp? c with
    | some (op, after) => .ok (.more (current.operate fs op) outer doubt after)
    | none =>
      match readRange fs unclosed c with
      | .error f => .error f
      | .ok (set, after) => .ok (.more (current.add set.value) outer (doubt.or set.doubt) after)

/-- Reads on inside brackets. Every step leaves less to read. -/
def readBrackets (fs : Flags) (current : Bracket) (outer : List Bracket) (doubt : Option Fault)
    (c : Cursor) : Parsed (Meant CharSet) :=
  match stepBracket fs current outer doubt c with
  | .error f => .error f
  | .ok (.done set after) => .ok (set, after)
  | .ok (.more current outer doubt after) =>
    if after.rest.length < c.rest.length then readBrackets fs current outer doubt after
    else .error ⟨.classUnclosed, current.span, none⟩
termination_by c.rest.length

/-- A set in brackets, from the opening one on. -/
def readClass (fs : Flags) (c : Cursor) : Parsed (Meant CharSet) :=
  match openBracket fs.blanks c with
  | .error f => .error f
  | .ok (bracket, after) => readBrackets fs bracket [] none after

end ChatHook.Pattern
