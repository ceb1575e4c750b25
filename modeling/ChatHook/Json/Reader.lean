import ChatHook.Json.Quote
import ChatHook.Json.Value

/-!
# Reading JSON

A JSON text is read from bytes in one pass. A piece is read from the start of some bytes and leaves
the bytes behind it; a fault tells how many bytes were left when it was found, which gives its line
and column once the whole text is known. Lists and objects nest up to a limit.
-/

namespace ChatHook.Json

/-- A fault, and how many bytes were left. -/
structure Stop where
  kind : FaultKind
  left : Nat
deriving DecidableEq

/-- What reading a piece comes to: the piece and the bytes behind it, or a fault. -/
abbrev Read (α : Type) : Type := Except Stop (α × Bytes)

/-- The fault of the bytes up to here. -/
def stopBefore {α : Type} (kind : FaultKind) (rest : Bytes) : Except Stop α :=
  .error ⟨kind, rest.length⟩

/-- The fault of the next byte, if there is one. -/
def stopAt {α : Type} (kind : FaultKind) (rest : Bytes) : Except Stop α :=
  .error ⟨kind, rest.length - 1⟩

/-- Whether a byte is a blank between the pieces of a JSON text. -/
def isBlankByte (b : UInt8) : Bool :=
  b = 0x20 || b = 0x0A || b = 0x09 || b = 0x0D

/-- The bytes behind the blanks at their start. -/
def skipBlanks (bytes : Bytes) : Bytes :=
  bytes.dropWhile isBlankByte

/-! ## Strings -/

/-- The value of four hexadecimal digits. -/
def readFourDigits : Bytes → Read Nat
  | a :: b :: c :: d :: rest =>
    match Numeral.ofDigits? 16 ([a, b, c, d].map fun x ↦ Char.ofNat x.toNat) with
    | some n => .ok (n, rest)
    | none => stopBefore .badEscape rest
  | _ => stopBefore .endInString []

theorem length_of_readFourDigits {bytes rest : Bytes} {n : Nat}
    (h : readFourDigits bytes = .ok (n, rest)) : rest.length < bytes.length := by
  match bytes with
  | a :: b :: c :: d :: more =>
    simp only [readFourDigits, stopBefore] at h
    split at h
    · simp only [Except.ok.injEq, Prod.mk.injEq] at h
      simp only [← h.2, List.length_cons]
      omega
    · simp at h
  | [] | [_] | [_, _] | [_, _, _] => simp [readFourDigits, stopBefore] at h

/-- The second half of a pair of code units, behind its first half. -/
def readSecondHalf (first : Nat) : Bytes → Read Nat
  | [] => stopBefore .endInString []
  | [b] => if b = ascii '\\' then stopBefore .endInString [] else stopAt .halfPair [b]
  | b :: u :: rest =>
    if b ≠ ascii '\\' then stopAt .halfPair (b :: u :: rest)
    else if u ≠ ascii 'u' then stopAt .halfPair (u :: rest)
    else match readFourDigits rest with
      | .error s => .error s
      | .ok (second, rest) =>
        if 0xDC00 ≤ second ∧ second ≤ 0xDFFF then
          .ok ((first - 0xD800) * 0x400 + (second - 0xDC00) + 0x10000, rest)
        else stopBefore .loneSurrogate rest

theorem length_of_readSecondHalf {first n : Nat} {bytes rest : Bytes}
    (h : readSecondHalf first bytes = .ok (n, rest)) : rest.length < bytes.length := by
  match bytes with
  | [] => simp [readSecondHalf, stopBefore] at h
  | [b] =>
    simp only [readSecondHalf, stopBefore, stopAt] at h
    split at h <;> simp at h
  | b :: u :: more =>
    simp only [readSecondHalf, stopAt, stopBefore] at h
    split at h
    · simp at h
    · split at h
      · simp at h
      · split at h
        · simp at h
        · rename_i second rest' hd
          have hlt := length_of_readFourDigits hd
          split at h
          · simp only [Except.ok.injEq, Prod.mk.injEq] at h
            simp only [← h.2, List.length_cons]
            omega
          · simp at h

/-- The code point that a `u` in an escape stands for, by one code unit or two. -/
def readCodePoint (bytes : Bytes) : Read Nat :=
  match readFourDigits bytes with
  | .error s => .error s
  | .ok (n, rest) =>
    if 0xDC00 ≤ n ∧ n ≤ 0xDFFF then stopBefore .loneSurrogate rest
    else if 0xD800 ≤ n ∧ n ≤ 0xDBFF then readSecondHalf n rest
    else .ok (n, rest)

theorem length_of_readCodePoint {bytes rest : Bytes} {n : Nat}
    (h : readCodePoint bytes = .ok (n, rest)) : rest.length < bytes.length := by
  unfold readCodePoint at h
  split at h
  · simp at h
  · rename_i m rest' hd
    have hlt := length_of_readFourDigits hd
    simp only [stopBefore] at h
    split at h
    · simp at h
    · split at h
      · exact Nat.lt_trans (length_of_readSecondHalf h) hlt
      · simp only [Except.ok.injEq, Prod.mk.injEq] at h
        exact h.2 ▸ hlt

/-- The byte that a letter or a sign stands for behind a backslash. -/
def shortEscape? (b : UInt8) : Option UInt8 :=
  if b = ascii '"' ∨ b = ascii '\\' ∨ b = ascii '/' then some b
  else if b = ascii 'b' then some 0x08
  else if b = ascii 'f' then some 0x0C
  else if b = ascii 'n' then some 0x0A
  else if b = ascii 'r' then some 0x0D
  else if b = ascii 't' then some 0x09
  else none

/-- What an escape stands for, behind its backslash. -/
def readEscape : Bytes → Read Bytes
  | [] => stopBefore .endInString []
  | b :: rest =>
    match shortEscape? b with
    | some byte => .ok ([byte], rest)
    | none =>
      if b = ascii 'u' then
        (readCodePoint rest).map fun (n, rest) ↦
          (Utf8.encode (String.singleton (Char.ofNat n)), rest)
      else stopBefore .badEscape rest

theorem length_of_readEscape {bytes rest text : Bytes}
    (h : readEscape bytes = .ok (text, rest)) : rest.length < bytes.length := by
  match bytes with
  | [] => simp [readEscape, stopBefore] at h
  | b :: more =>
    simp only [readEscape, stopBefore] at h
    split at h
    · simp only [Except.ok.injEq, Prod.mk.injEq] at h
      simp [← h.2]
    · split at h
      · cases hc : readCodePoint more with
        | error s => simp [hc, Except.map] at h
        | ok p =>
          simp only [hc, Except.map, Except.ok.injEq, Prod.mk.injEq] at h
          have hlt := length_of_readCodePoint (show readCodePoint more = .ok (p.1, p.2) from hc)
          rw [← h.2, List.length_cons]
          exact Nat.lt_succ_of_lt hlt
      · simp at h

/-- A string behind its opening quote; `seen` holds the bytes that it stands for so far, last
first. -/
def readText (seen : Bytes) : Bytes → Read String
  | [] => stopBefore .endInString []
  | b :: rest =>
    if b = ascii '"' then
      match Utf8.decode? seen.reverse with
      | some text => .ok (text, rest)
      | none => stopBefore .badCharacter rest
    else if b = ascii '\\' then
      match _h : readEscape rest with
      | .error s => .error s
      | .ok (bytes, after) => readText (bytes.reverse ++ seen) after
    else if b < 0x20 then stopBefore .controlCharacter rest
    else readText (b :: seen) rest
termination_by bytes => bytes.length
decreasing_by
  · have := length_of_readEscape (by assumption)
    simp only [List.length_cons]
    omega
  · simp

/-! ## Numbers -/

/-- Whether a byte is a decimal digit. -/
def isDigitByte (b : UInt8) : Bool :=
  0x30 ≤ b && b ≤ 0x39

/-- The number written by decimal digits behind other ones. -/
def extendDecimal (n : Nat) (digits : Bytes) : Nat :=
  digits.foldl (fun n d ↦ n * 10 + (d.toNat - 0x30)) n

/-- A decimal as a number; one that is too large for a machine is a fault. -/
def decimal (isNegative : Bool) (digits : Nat) (exponent : Int) (rest : Bytes) : Read Number :=
  let isLarge := 309 < exponent || Nat.pow 2 1024 ≤ digits * Nat.pow 10 exponent.toNat
  if 0 < exponent ∧ digits ≠ 0 ∧ isLarge then
    stopBefore .numberTooLarge rest
  else .ok (.decimal isNegative digits exponent, rest)

/-- An exponent, behind its letter. -/
def readExponent (isNegative : Bool) (digits : Nat) (exponent : Int) (bytes : Bytes) :
    Read Number :=
  let (below, bytes) :=
    match bytes with
    | [] => (false, [])
    | b :: rest =>
      if b = ascii '+' then (false, rest)
      else if b = ascii '-' then (true, rest)
      else (false, b :: rest)
  match bytes with
  | [] => stopBefore .endInValue []
  | b :: rest =>
    if isDigitByte b then
      let n := extendDecimal 0 (b :: rest.takeWhile isDigitByte)
      decimal isNegative digits (exponent + if below then -(n : Int) else n)
        (rest.dropWhile isDigitByte)
    else stopBefore .badNumber rest

/-- What follows the digits before the point, and after it if there is one. -/
def readScale (isNegative : Bool) (digits : Nat) (exponent : Int) (bytes : Bytes) : Read Number :=
  match bytes with
  | [] => decimal isNegative digits exponent []
  | b :: rest =>
    if b = ascii 'e' ∨ b = ascii 'E' then readExponent isNegative digits exponent rest
    else decimal isNegative digits exponent (b :: rest)

/-- The digits after a point. -/
def readFraction (isNegative : Bool) (digits : Nat) (bytes : Bytes) : Read Number :=
  let fraction := bytes.takeWhile isDigitByte
  let rest := bytes.dropWhile isDigitByte
  if fraction.isEmpty then
    if rest.isEmpty then stopAt .endInValue rest else stopAt .badNumber rest
  else readScale isNegative (extendDecimal digits fraction) (-(fraction.length : Int)) rest

/-- An integer where it fits into a machine word, and a decimal where it does not. -/
def wholeNumber (isNegative : Bool) (digits : Nat) (rest : Bytes) : Read Number :=
  if isNegative then
    if 0 < digits ∧ digits ≤ Numeral.signedBound then .ok (.integer (-(digits : Int)), rest)
    else decimal isNegative digits 0 rest
  else if digits < Numeral.wordBound then .ok (.integer digits, rest)
  else decimal isNegative digits 0 rest

/-- What follows the digits before a point. -/
def readAfterDigits (isNegative : Bool) (digits : Nat) (bytes : Bytes) : Read Number :=
  match bytes with
  | [] => wholeNumber isNegative digits []
  | b :: rest =>
    if b = ascii '.' then readFraction isNegative digits rest
    else if b = ascii 'e' ∨ b = ascii 'E' then readExponent isNegative digits 0 rest
    else wholeNumber isNegative digits (b :: rest)

/-- A number, behind its sign if it has one. -/
def readNumber (isNegative : Bool) : Bytes → Read Number
  | [] => stopBefore .endInValue []
  | b :: rest =>
    if b = ascii '0' then
      if (rest.head?.map isDigitByte).getD false then stopAt .badNumber rest
      else readAfterDigits isNegative 0 rest
    else if isDigitByte b then
      readAfterDigits isNegative (extendDecimal 0 (b :: rest.takeWhile isDigitByte))
        (rest.dropWhile isDigitByte)
    else stopBefore .badNumber rest

/-! ## Lists and objects -/

/-- The rest of a word that has to come next. -/
def readWord (value : Value) : Bytes → Bytes → Read Value
  | [], bytes => .ok (value, bytes)
  | _ :: _, [] => stopBefore .endInValue []
  | w :: word, b :: rest => if b = w then readWord value word rest else stopBefore .noWord rest

/-- The items of a list up to its end, each read by `item`; `isFirst` tells whether none came
before. -/
def readItems (item : Bytes → Read Value) (isFirst : Bool) (bytes : Bytes) : Read (List Value) :=
  let next (start : Bytes) : Read (List Value) :=
    match item start with
    | .error s => .error s
    | .ok (value, after) =>
      if after.length < bytes.length then
        (readItems item false after).map fun (values, rest) ↦ (value :: values, rest)
      else stopBefore .noValue after
  match skipBlanks bytes with
  | [] => stopAt .endInList []
  | b :: rest =>
    if b = ascii ']' then .ok ([], rest)
    else if isFirst then next (b :: rest)
    else if b = ascii ',' then
      match skipBlanks rest with
      | [] => stopAt .endInValue []
      | c :: more => if c = ascii ']' then stopAt .trailingComma (c :: more) else next (c :: more)
    else stopAt .noListComma (b :: rest)
termination_by bytes.length

/-- A member of an object behind the opening quote of its key. -/
def readMember (item : Bytes → Read Value) (bytes : Bytes) : Read (String × Value) :=
  match readText [] bytes with
  | .error s => .error s
  | .ok (key, rest) =>
    match skipBlanks rest with
    | [] => stopAt .endInObject []
    | b :: more =>
      if b = ascii ':' then (item more).map fun (value, rest) ↦ ((key, value), rest)
      else stopAt .noColon (b :: more)

/-- The members of an object up to its end, with values read by `item`; `isFirst` tells whether
none came before. -/
def readMembers (item : Bytes → Read Value) (isFirst : Bool) (bytes : Bytes) :
    Read (List (String × Value)) :=
  let next (start : Bytes) : Read (List (String × Value)) :=
    match readMember item start with
    | .error s => .error s
    | .ok (member, after) =>
      if after.length < bytes.length then
        (readMembers item false after).map fun (members, rest) ↦ (member :: members, rest)
      else stopBefore .noValue after
  match skipBlanks bytes with
  | [] => stopAt .endInObject []
  | b :: rest =>
    if b = ascii '}' then .ok ([], rest)
    else if isFirst then
      if b = ascii '"' then next rest else stopAt .keyIsNoString (b :: rest)
    else if b = ascii ',' then
      match skipBlanks rest with
      | [] => stopAt .endInValue []
      | c :: more =>
        if c = ascii '"' then next more
        else if c = ascii '}' then stopAt .trailingComma (c :: more)
        else stopAt .keyIsNoString (c :: more)
    else stopAt .noObjectComma (b :: rest)
termination_by bytes.length

/-- Adds a member to others; it takes the place of one with the same key. -/
def putMember (members : List (String × Value)) (member : String × Value) :
    List (String × Value) :=
  if members.any (·.1 = member.1) then
    members.map fun m ↦ if m.1 = member.1 then member else m
  else members ++ [member]

/-- The members with the last value of each key. -/
def lastValues (members : List (String × Value)) : List (String × Value) :=
  members.foldl putMember []

/-- A value that begins no list and no object. -/
def readScalar (b : UInt8) (rest : Bytes) : Read Value :=
  if b = ascii 'n' then readWord .null (Utf8.encode "ull") rest
  else if b = ascii 't' then readWord (.bool true) (Utf8.encode "rue") rest
  else if b = ascii 'f' then readWord (.bool false) (Utf8.encode "alse") rest
  else if b = ascii '-' then (readNumber true rest).map fun (n, rest) ↦ (.number n, rest)
  else if isDigitByte b then (readNumber false (b :: rest)).map fun (n, rest) ↦ (.number n, rest)
  else if b = ascii '"' then (readText [] rest).map fun (text, rest) ↦ (.string text, rest)
  else stopAt .noValue (b :: rest)

/-- A value; lists and objects in it may nest as deep as the given number. -/
def readValue : Nat → Bytes → Read Value
  | depth, bytes =>
    match skipBlanks bytes with
    | [] => stopAt .endInValue []
    | b :: rest =>
      if b = ascii '[' then
        match depth with
        | 0 => stopAt .tooDeep (b :: rest)
        | depth + 1 =>
          (readItems (readValue depth) true rest).map fun (items, rest) ↦ (.array items, rest)
      else if b = ascii '{' then
        match depth with
        | 0 => stopAt .tooDeep (b :: rest)
        | depth + 1 =>
          (readMembers (readValue depth) true rest).map fun (members, rest) ↦
            (.object (lastValues members), rest)
      else readScalar b rest

/-- How deep lists and objects may nest. -/
def maxDepth : Nat := 127

/-- The line and the column behind some bytes. -/
def positionAfter (bytes : Bytes) : Nat × Nat :=
  (bytes.count 0x0A + 1, (bytes.reverse.takeWhile (· ≠ 0x0A)).length)

/-- The value that bytes stand for. -/
def parse (bytes : Bytes) : Except Fault Value :=
  let read : Read Value :=
    match readValue maxDepth bytes with
    | .error s => .error s
    | .ok (value, rest) =>
      match skipBlanks rest with
      | [] => .ok (value, [])
      | more => stopAt .trailingCharacters more
  match read with
  | .ok (value, _) => .ok value
  | .error s =>
    let (line, column) := positionAfter (bytes.take (bytes.length - s.left))
    .error ⟨s.kind, line, column⟩

end ChatHook.Json
