import ChatHook.Pattern.Basic
import ChatHook.Pattern.Cursor
import ChatHook.Pattern.Property

/-!
# Atoms of patterns

The smallest pieces of a pattern: single characters, also behind a backslash or by their number,
sets with a name, and assertions. What an atom means depends on the flags in force.
-/

namespace ChatHook.Pattern

/-! ## Flags -/

/-- The flags of a pattern. -/
inductive Flag where
  | caseless
  | multiLine
  | dotAll
  | lazy
  | unicode
  | crLf
  | blanks
deriving DecidableEq

/-- The flag of a letter. -/
def Flag.ofLetter? : Char → Option Flag
  | 'i' => some .caseless
  | 'm' => some .multiLine
  | 's' => some .dotAll
  | 'U' => some .lazy
  | 'u' => some .unicode
  | 'R' => some .crLf
  | 'x' => some .blanks
  | _ => none

/-- The flags in force. How much a repetition prefers to take does not matter here. -/
structure Flags where
  caseless : Bool
  multiLine : Bool
  dotAll : Bool
  unicode : Bool
  crLf : Bool
  blanks : Bool
deriving DecidableEq

namespace Flags

/-- The flags at the start of a pattern. -/
def standard : Flags :=
  ⟨false, false, false, true, false, false⟩

/-- The flags with one of them turned on or off. -/
def turn (fs : Flags) (f : Flag) (on : Bool) : Flags :=
  match f with
  | .caseless => { fs with caseless := on }
  | .multiLine => { fs with multiLine := on }
  | .dotAll => { fs with dotAll := on }
  | .lazy => fs
  | .unicode => { fs with unicode := on }
  | .crLf => { fs with crLf := on }
  | .blanks => { fs with blanks := on }

/-- A set as it is meant under the flags. -/
def folded (fs : Flags) (set : CharSet) : CharSet :=
  if fs.caseless then .anyCase set else set

end Flags

/-! ## Atoms -/

/-- An atom as it is written. -/
inductive Atom where
  /-- A character, perhaps by two digits, which may mean a byte. -/
  | literal (c : Char) (twoDigits : Bool)
  | dot
  | caret
  | dollar
  | look (look : Look)
  /-- A set with a letter of its own. -/
  | letterClass (set : CharSet) (negated : Bool)
  | property (name : PropertyName) (negated : Bool)

/-- Whether a character may stand behind a backslash for itself: signs may, but for two of them. -/
def isEscapable (c : Char) : Bool :=
  c.toNat < 0x80 && !c.isAlphanum && c ≠ '<' && c ≠ '>'

/-- The character of a code point that is one. -/
def scalar? (n : Nat) : Option Char :=
  if h : n.isValidChar then some (Char.ofNatAux n h) else none

/-- Whether a character is a hexadecimal digit. -/
def isHexDigit (c : Char) : Bool :=
  (Numeral.digit? c).isSome

/-- Some hexadecimal digits exactly, from a cursor. -/
def readDigits (blanks : Bool) : Nat → Cursor → Parsed (List Char)
  | 0, c => .ok ([], c)
  | n + 1, c =>
    match c.next? with
    | none => .error (c.fault .escapeCut)
    | some d =>
      if isHexDigit d then
        match readDigits blanks n (c.advance blanks) with
        | .error f => .error f
        | .ok (ds, after) => .ok (d :: ds, after)
      else .error (c.faultNext .hexDigit)

/-- A character by its number, from the letter in front of it; `start` is the place of the
backslash. -/
def readHex (blanks : Bool) (start : Nat) (letter : Char) (c : Cursor) : Parsed (Placed Atom) :=
  let c := c.advance blanks
  let literal (digits : List Char) (first behind : Nat) (twoDigits : Bool) (after : Cursor) :
      Parsed (Placed Atom) :=
    match (Numeral.ofDigits? 16 digits).bind scalar? with
    | some value => .ok (⟨.literal value twoDigits, ⟨start, after.place⟩⟩, after)
    | none => .error (.between .hexNoChar first behind)
  match c.next? with
  | none => .error (c.fault .escapeCut)
  | some '{' =>
    let (digits, close) := (c.advance blanks).gather blanks isHexDigit
    match close.next? with
    | none => .error (close.faultFrom c.place .escapeCut)
    | some '}' =>
      let after := close.advance blanks
      if digits.isEmpty then .error (after.faultFrom c.place .hexEmpty)
      else literal digits (c.place + 1) close.place false after
    | some _ => .error (close.faultNext .hexDigit)
  | some _ =>
    let count := if letter = 'x' then 2 else if letter = 'u' then 4 else 8
    match readDigits blanks count c with
    | .error f => .error f
    | .ok (digits, after) => literal digits c.place after.place (letter = 'x') after

/-- The parts of some characters before and behind the first occurrence of others. -/
def cut? (separator : List Char) : List Char → Option (List Char × List Char)
  | [] => none
  | c :: cs =>
    if separator.isPrefixOf (c :: cs) then some ([], (c :: cs).drop separator.length)
    else (cut? separator cs).map fun (before, after) ↦ (c :: before, after)

/-- The property that is named between braces, and whether its complement is meant. -/
def propertyOf (text : List Char) : PropertyName × Bool :=
  match cut? ['!', '='] text with
  | some (name, value) => (.valued name value, true)
  | none =>
    match (cut? [':'] text).orElse fun _ ↦ cut? ['='] text with
    | some (name, value) => (.valued name value, false)
    | none => (.alone text, false)

/-- A property, from the letter in front of its name. -/
def readProperty (blanks : Bool) (start : Nat) (letter : Char) (c : Cursor) :
    Parsed (Placed Atom) :=
  let c := c.advance blanks
  let property (name : PropertyName) (turned : Bool) (after : Cursor) : Parsed (Placed Atom) :=
    .ok (⟨.property name ((letter = 'P') != turned), ⟨start, after.place⟩⟩, after)
  match c.next? with
  | none => .error (c.fault .escapeCut)
  | some '{' =>
    let (text, close) := (c.advance blanks).gather blanks (· ≠ '}')
    match close.next? with
    | none => .error (close.fault .escapeCut)
    | some _ =>
      let (name, turned) := propertyOf text
      property name turned close.step
  | some '\\' => .error (c.faultNext .propertyForm)
  | some name => property (.alone [name]) false (c.advance blanks)

/-- The set with a letter of its own. -/
def letterClass? (c : Char) : Option Atom :=
  match c with
  | 'd' => some (.letterClass digitSet false)
  | 'D' => some (.letterClass digitSet true)
  | 's' => some (.letterClass blankSet false)
  | 'S' => some (.letterClass blankSet true)
  | 'w' => some (.letterClass wordSet false)
  | 'W' => some (.letterClass wordSet true)
  | _ => none

/-- What a letter or a sign stands for behind a backslash, alone. -/
def shortEscape? (c : Char) : Option Atom :=
  match c with
  | 'a' => some (.literal '\x07' false)
  | 'f' => some (.literal '\x0C' false)
  | 't' => some (.literal '\t' false)
  | 'n' => some (.literal '\n' false)
  | 'r' => some (.literal '\r' false)
  | 'v' => some (.literal '\x0B' false)
  | 'A' => some (.look .textStart)
  | 'z' => some (.look .textEnd)
  | 'b' => some (.look .wordEdge)
  | 'B' => some (.look .noWordEdge)
  | '<' => some (.look .wordStart)
  | '>' => some (.look .wordEnd)
  | _ => if isEscapable c then some (.literal c false) else none

/-- The assertions at the edge of a word that are named between braces. -/
def wordEdge? (name : List Char) : Option Look :=
  match String.ofList name with
  | "start" => some .wordStart
  | "end" => some .wordEnd
  | "start-half" => some .notAfterWord
  | "end-half" => some .notBeforeWord
  | _ => none

/-- Whether a character may stand in the name of an assertion. -/
def isEdgeChar (c : Char) : Bool :=
  c.isAlpha || c = '-'

/-- The assertion behind `\b`, with a name between braces or without; braces that cannot hold a
name belong to what follows. -/
def readWordEdge (blanks : Bool) (start : Nat) (c : Cursor) : Parsed (Placed Atom) :=
  let plain : Parsed (Placed Atom) := .ok (⟨.look .wordEdge, ⟨start, c.place⟩⟩, c)
  if c.next? ≠ some '{' then plain
  else
    let inner := c.advance blanks
    match inner.next? with
    | none => .error (inner.faultFrom start .wordEdgeCut)
    | some first =>
      if !isEdgeChar first then plain
      else
        let (name, close) := inner.gather blanks isEdgeChar
        if close.next? ≠ some '}' then .error (close.faultFrom c.place .wordEdgeUnclosed)
        else match wordEdge? name with
          | none => .error (close.faultFrom inner.place .wordEdgeUnknown)
          | some l => .ok (⟨.look l, ⟨start, close.place + 1⟩⟩, close.step)

/-- What stands behind a backslash, from the backslash on. -/
def readEscape (blanks : Bool) (c : Cursor) : Parsed (Placed Atom) :=
  let start := c.place
  let c := c.step
  match c.next? with
  | none => .error (c.faultFrom start .escapeCut)
  | some letter =>
    if letter.isDigit then .error (c.step.faultFrom start .backreference)
    else if letter = 'x' ∨ letter = 'u' ∨ letter = 'U' then readHex blanks start letter c
    else if letter = 'p' ∨ letter = 'P' then readProperty blanks start letter c
    else if letter = 'b' then readWordEdge blanks start c.step
    else match (letterClass? letter).orElse fun _ ↦ shortEscape? letter with
      | some atom => .ok (⟨atom, ⟨start, c.step.place⟩⟩, c.step)
      | none => .error (c.step.faultFrom start .escapeUnknown)

/-! ## Meaning -/

/-- A set or its complement. -/
def turned (negated : Bool) (set : CharSet) : CharSet :=
  if negated then .compl set else set

/-- The set of a property under some flags. -/
def propertySet (fs : Flags) (name : PropertyName) (negated : Bool) : Except FaultKind CharSet :=
  if fs.unicode then name.set?.map fun set ↦ turned negated (fs.folded set)
  else .error .unicodeNotAllowed

/-- What an atom means outside brackets. -/
def Atom.pattern (fs : Flags) : Atom → Except FaultKind Pattern
  | .literal c twoDigits =>
    if !fs.unicode && twoDigits && 0x7F < c.toNat then .error .notText
    else .ok (.char (fs.folded (.single c)))
  | .dot =>
    if !fs.unicode then .error .notText
    else if fs.dotAll then .ok (.char .all)
    else if fs.crLf then .ok (.char (.compl (.ofText "\r\n")))
    else .ok (.char (.compl (.single '\n')))
  | .caret =>
    .ok (.look (if !fs.multiLine then .textStart
      else if fs.crLf then .lineStartCrLf else .lineStart))
  | .dollar =>
    .ok (.look (if !fs.multiLine then .textEnd else if fs.crLf then .lineEndCrLf else .lineEnd))
  | .look l => .ok (.look l)
  | .letterClass set negated =>
    if !fs.unicode && negated then .error .notText else .ok (.char (turned negated set))
  | .property name negated => (propertySet fs name negated).map .char

end ChatHook.Pattern
