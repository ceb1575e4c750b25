import ChatHook.Text.Numeral

/-!
# Faults in patterns

What can be wrong with a pattern, its wording, and the report that shows the pattern with marks
under the parts in question.
-/

namespace ChatHook.Pattern

/-- A part of a pattern: the place of its first character and the place behind it. -/
structure Span where
  start : Nat
  stop : Nat
deriving DecidableEq

/-- What is wrong. -/
inductive FaultKind where
  | classEscape
  | classRange
  | classRangeEnd
  | classUnclosed
  | decimalEmpty
  | decimalTooLarge
  | hexEmpty
  | hexNoChar
  | hexDigit
  | escapeCut
  | escapeUnknown
  | flagDanglingNegation
  | flagTwice
  | flagNegationTwice
  | flagCut
  | flagUnknown
  | nameTwice
  | nameEmpty
  | nameChar
  | nameCut
  | groupUnclosed
  | groupUnopened
  | countRange
  | countEmpty
  | countUnclosed
  | repetitionOfNothing
  | wordEdgeUnclosed
  | wordEdgeUnknown
  | wordEdgeCut
  | propertyForm
  | backreference
  | lookAround
  /-- The rest are faults of meaning in a pattern of good form. -/
  | unicodeNotAllowed
  | notText
  | propertyUnknown
  | propertyValueUnknown
  | tooLarge
deriving DecidableEq

/-- The wording of a fault. -/
def FaultKind.message : FaultKind → String
  | .classEscape => "invalid escape sequence found in character class"
  | .classRange => "invalid character class range, the start must be <= the end"
  | .classRangeEnd => "invalid range boundary, must be a literal"
  | .classUnclosed => "unclosed character class"
  | .decimalEmpty => "decimal literal empty"
  | .decimalTooLarge => "decimal literal invalid"
  | .hexEmpty => "hexadecimal literal empty"
  | .hexNoChar => "hexadecimal literal is not a Unicode scalar value"
  | .hexDigit => "invalid hexadecimal digit"
  | .escapeCut => "incomplete escape sequence, reached end of pattern prematurely"
  | .escapeUnknown => "unrecognized escape sequence"
  | .flagDanglingNegation => "dangling flag negation operator"
  | .flagTwice => "duplicate flag"
  | .flagNegationTwice => "flag negation operator repeated"
  | .flagCut => "expected flag but got end of regex"
  | .flagUnknown => "unrecognized flag"
  | .nameTwice => "duplicate capture group name"
  | .nameEmpty => "empty capture group name"
  | .nameChar => "invalid capture group character"
  | .nameCut => "unclosed capture group name"
  | .groupUnclosed => "unclosed group"
  | .groupUnopened => "unopened group"
  | .countRange => "invalid repetition count range, the start must be <= the end"
  | .countEmpty => "repetition quantifier expects a valid decimal"
  | .countUnclosed => "unclosed counted repetition"
  | .repetitionOfNothing => "repetition operator missing expression"
  | .wordEdgeUnclosed =>
    "special word boundary assertion is either unclosed or contains an invalid character"
  | .wordEdgeUnknown =>
    "unrecognized special word boundary assertion, valid choices are: start, end, start-half " ++
      "or end-half"
  | .wordEdgeCut =>
    "found either the beginning of a special word boundary or a bounded repetition on a \\b " ++
      "with an opening brace, but no closing brace"
  | .propertyForm => "invalid Unicode character class"
  | .backreference => "backreferences are not supported"
  | .lookAround => "look-around, including look-ahead and look-behind, is not supported"
  | .unicodeNotAllowed => "Unicode not allowed here"
  | .notText => "pattern can match invalid UTF-8"
  | .propertyUnknown => "Unicode property not found"
  | .propertyValueUnknown => "Unicode property value not found"
  | .tooLarge => "Compiled regex exceeds size limit of 10485760 bytes."

/-- A fault, where it is, and another part that it has to do with. -/
structure Fault where
  kind : FaultKind
  span : Span
  other : Option Span
deriving DecidableEq

namespace Fault

/-- A fault that has to do with one part only. -/
def between (kind : FaultKind) (start stop : Nat) : Fault :=
  ⟨kind, ⟨start, stop⟩, none⟩

/-- The faulty parts, in order. -/
def spans (f : Fault) : List Span :=
  match f.other with
  | none => [f.span]
  | some other => if other.start < f.span.start then [other, f.span] else [f.span, other]

end Fault

/-! ## Reports -/

/-- The lines of a pattern. A line feed ends a line, and so does one behind a carriage return. -/
def sourceLines (source : List Char) : List (List Char) :=
  let parts := source.splitOn '\n'
  let ended := parts.dropLast.map fun line ↦
    if line.getLast? = some '\r' then line.dropLast else line
  match parts.getLast? with
  | none => ended
  | some final => if final.isEmpty then ended else ended ++ [final]

/-- The line and the column of a place, both counted from one. -/
def position (source : List Char) (place : Nat) : Nat × Nat :=
  let before := source.take place
  (before.count '\n' + 1, (before.reverse.takeWhile (· ≠ '\n')).length + 1)

/-- Marks under some columns of a line, each from one column up to another. -/
def marksFrom (done : Nat) : List (Nat × Nat) → List Char
  | [] => []
  | (start, stop) :: more =>
    let gap := start - 1 - done
    let width := max 1 (stop - start)
    List.replicate gap ' ' ++ List.replicate width '^' ++ marksFrom (done + gap + width) more

/-- The marks for the parts that lie on a line. -/
def marksOn (source : List Char) (line : Nat) (spans : List Span) : List (Nat × Nat) :=
  spans.filterMap fun span ↦
    let (startLine, start) := position source span.start
    let (stopLine, stop) := position source span.stop
    if startLine = line ∧ stopLine = line then some (start, stop) else none

/-- The pattern with marks under the faulty parts. Lines are numbered if there are several. -/
def markedLines (source : List Char) (spans : List Span) : List (List Char) :=
  let lines := sourceLines source
  let count := lines.length + if source.getLast? = some '\n' then 1 else 0
  let width := if count ≤ 1 then 0 else (Numeral.digits 10 count).length
  lines.zipIdx.flatMap fun (line, i) ↦
    let number := Numeral.digits 10 (i + 1)
    let margin :=
      if width = 0 then List.replicate 4 ' '
      else List.replicate (width - number.length) ' ' ++ number ++ [':', ' ']
    let marks := marksOn source (i + 1) spans
    (margin ++ line) ::
      if marks.isEmpty then [] else [List.replicate margin.length ' ' ++ marksFrom 0 marks]

/-- Where the parts begin and end that run over several lines. -/
def longSpans (source : List Char) (spans : List Span) : List String :=
  spans.filterMap fun span ↦
    let (startLine, start) := position source span.start
    let (stopLine, stop) := position source span.stop
    if startLine = stopLine then none
    else some ("on line " ++ toString startLine ++ " (column " ++ toString start ++
      ") through line " ++ toString stopLine ++ " (column " ++ toString (stop - 1) ++ ")")

/-- A fault as it is reported: the pattern with its marks, and what is wrong. -/
def Fault.report (source : List Char) (f : Fault) : String :=
  let ending := "error: " ++ f.kind.message
  let marked := String.join ((markedLines source f.spans).map fun l ↦ String.ofList l ++ "\n")
  if f.kind = .tooLarge then f.kind.message
  else if source.contains '\n' then
    let rule := String.ofList (List.replicate 79 '~') ++ "\n"
    let notes := longSpans source f.spans
    "regex parse error:\n" ++ rule ++ marked ++ rule ++
      (if notes.isEmpty then "" else "\n".intercalate notes ++ "\n") ++ ending
  else "regex parse error:\n" ++ marked ++ ending

end ChatHook.Pattern
