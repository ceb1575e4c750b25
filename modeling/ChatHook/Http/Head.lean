import ChatHook.Http.Status
import ChatHook.Text.Numeral
import ChatHook.Text.Utf8

/-!
# Response heads

A response head is read from the bytes of a connection: the status line, header fields and an
empty line. Reading ends with the head and the bytes behind it, with a fault at the first byte
that fits no head, or in the middle of a head that is good so far.
-/

namespace ChatHook.Http

/-- Why bytes are no response. -/
inductive HeadFault where
  /-- The connection was closed before a final head was complete. -/
  | incomplete
  | version
  | status
  | field
  | tooLarge
  | contentLength
  | transferEncoding
deriving DecidableEq

/-- The wording of a fault. -/
def HeadFault.message : HeadFault → String
  | .incomplete => "connection closed before message completed"
  | .version => "invalid HTTP version parsed"
  | .status => "invalid HTTP status-code parsed"
  | .field => "invalid HTTP header parsed"
  | .tooLarge => "message head is too large"
  | .contentLength => "invalid content-length parsed"
  | .transferEncoding => "unexpected transfer-encoding parsed"

/-- The outcome of reading a piece at the start of some bytes. -/
inductive Scan (α : Type) where
  /-- The piece, and the bytes behind it. -/
  | done (value : α) (rest : Bytes)
  /-- The bytes end inside the piece. -/
  | short
  | fault (fault : HeadFault)

namespace Scan

/-- Reads on behind a piece. -/
def andThen {α β : Type} (s : Scan α) (next : α → Bytes → Scan β) : Scan β :=
  match s with
  | .done value rest => next value rest
  | .short => .short
  | .fault f => .fault f

end Scan

/-! ## Lines -/

/-- Carriage return. -/
def cr : UInt8 := 0x0D

/-- Line feed. -/
def lf : UInt8 := 0x0A

/-- A line feed that has to come next. -/
def expectLf (wrong : HeadFault) : Bytes → Scan Unit
  | [] => .short
  | b :: rest => if b = lf then .done () rest else .fault wrong

/-- The empty lines in front of a head. -/
def skipEmptyLines : Bytes → Scan Unit
  | [] => .short
  | [b] => if b = cr ∨ b = lf then .short else .done () [b]
  | b :: c :: rest =>
    if b = lf then skipEmptyLines (c :: rest)
    else if b = cr then
      if c = lf then skipEmptyLines rest else .fault .field
    else .done () (b :: c :: rest)

/-! ## The status line -/

/-- The version at the start of a status line: its minor number, 0 or 1. Fewer bytes than a
version may still become one. -/
def readVersion (bytes : Bytes) : Scan Nat :=
  let known := Utf8.encode "HTTP/1."
  if 8 ≤ bytes.length then
    if bytes.take 8 = known ++ [0x30] then .done 0 (bytes.drop 8)
    else if bytes.take 8 = known ++ [0x31] then .done 1 (bytes.drop 8)
    else .fault .version
  else if bytes.isPrefixOf known then .short
  else .fault .version

/-- A decimal digit that has to come next. -/
def readDigit : Bytes → Scan Nat
  | [] => .short
  | b :: rest => if 0x30 ≤ b ∧ b ≤ 0x39 then .done (b.toNat - 0x30) rest else .fault .status

/-- The three digits of a status code. -/
def readCode (bytes : Bytes) : Scan Nat :=
  (readDigit bytes).andThen fun a bytes ↦
    (readDigit bytes).andThen fun b bytes ↦
      (readDigit bytes).andThen fun c bytes ↦ .done (a * 100 + b * 10 + c) bytes

/-- Whether a byte may stand in a reason phrase or a header value: a tab, or anything that is no
control. -/
def isTextByte (b : UInt8) : Bool :=
  b = 0x09 || (0x20 ≤ b && b ≠ 0x7F)

/-- The reason phrase and the end of its line. -/
def skipReason : Bytes → Scan Unit
  | [] => .short
  | b :: rest =>
    if b = cr then expectLf .status rest
    else if b = lf then .done () rest
    else if isTextByte b then skipReason rest
    else .fault .status

/-- What follows a status code: a space and a reason, or the end of the line. -/
def endStatusLine : Bytes → Scan Unit
  | [] => .short
  | b :: rest =>
    if b = 0x20 then skipReason rest
    else if b = cr then expectLf .status rest
    else if b = lf then .done () rest
    else .fault .status

/-! ## Header fields -/

/-- A header field: its name in lower case, and its value. -/
structure Field where
  name : Bytes
  value : Bytes
deriving DecidableEq

/-- Whether a byte may stand in the name of a header field. -/
def isNameByte (b : UInt8) : Bool :=
  (0x30 ≤ b && b ≤ 0x39) || (0x41 ≤ b && b ≤ 0x5A) || (0x61 ≤ b && b ≤ 0x7A) ||
    (Utf8.encode "!#$%&'*+-.^_`|~").contains b

/-- A byte with a capital letter made small. -/
def lowerByte (b : UInt8) : UInt8 :=
  if 0x41 ≤ b ∧ b ≤ 0x5A then b + 0x20 else b

/-- Whether a byte is a space or a tab. -/
def isSpaceByte (b : UInt8) : Bool :=
  b = 0x20 || b = 0x09

/-- The name of a field and its colon; `seen` holds the bytes passed, last first. -/
def readName (seen : Bytes) : Bytes → Scan Bytes
  | [] => .short
  | b :: rest =>
    if isNameByte b then readName (lowerByte b :: seen) rest
    else if b = 0x3A ∧ seen ≠ [] then .done seen.reverse rest
    else .fault .field

/-- The value of a field and the end of its line, without spaces around it; `seen` holds the bytes
passed, last first. -/
def readValue (seen : Bytes) : Bytes → Scan Bytes
  | [] => .short
  | b :: rest =>
    if isTextByte b then
      readValue (if seen.isEmpty && isSpaceByte b then seen else b :: seen) rest
    else
      let value := (seen.dropWhile isSpaceByte).reverse
      if b = cr then (expectLf .field rest).andThen fun _ rest ↦ .done value rest
      else if b = lf then .done value rest
      else .fault .field

/-- One field. -/
def readField (bytes : Bytes) : Scan Field :=
  (readName [] bytes).andThen fun name bytes ↦
    (readValue [] bytes).andThen fun value bytes ↦ .done ⟨name, value⟩ bytes

/-- At most `room` fields and the empty line behind them. -/
def readFields : Nat → Bytes → Scan (List Field)
  | _, [] => .short
  | room, b :: rest =>
    if b = cr then (expectLf .field rest).andThen fun _ rest ↦ .done [] rest
    else if b = lf then .done [] rest
    else if !isNameByte b then .fault .field
    else match room with
      | 0 => .fault .tooLarge
      | room + 1 =>
        (readField (b :: rest)).andThen fun field rest ↦
          (readFields room rest).andThen fun fields rest ↦ .done (field :: fields) rest

/-! ## Heads -/

/-- A response head. -/
structure Head where
  minorVersion : Nat
  status : Status
  fields : List Field

/-- The most header fields a head may have. -/
def maxFields : Nat := 100

/-- The size that a head may not reach without being complete. -/
def maxHeadSize : Nat := 417792

/-- A head at the start of some bytes. -/
def readHead (bytes : Bytes) : Scan Head :=
  (skipEmptyLines bytes).andThen fun _ bytes ↦
    (readVersion bytes).andThen fun minor bytes ↦
      match bytes with
      | [] => .short
      | b :: bytes =>
        if b ≠ 0x20 then .fault .version
        else
          (readCode bytes).andThen fun code bytes ↦
            (endStatusLine bytes).andThen fun _ bytes ↦
              (readFields maxFields bytes).andThen fun fields bytes ↦
                if code < 100 then .fault .status else .done ⟨minor, ⟨code⟩, fields⟩ bytes

/-- The values of the fields of a name, in order. -/
def Head.values (head : Head) (name : String) : List Bytes :=
  head.fields.filterMap fun f ↦ if f.name = Utf8.encode name then some f.value else none

/-- The number written by decimal digits alone, if it fits 64 bits. -/
def decimalBytes? (bytes : Bytes) : Option Nat :=
  if bytes.isEmpty || !bytes.all (fun b ↦ 0x30 ≤ b && b ≤ 0x39) then none
  else
    let n := bytes.foldl (fun sum b ↦ sum * 10 + (b.toNat - 0x30)) 0
    if n < Numeral.wordBound then some n else none

/-- The lengths that a value names: decimal numbers separated by commas, spaces around them not
counted. -/
def lengths? (value : Bytes) : Option (List Nat) :=
  if value.all fun b ↦ b < 0x80 then
    (value.splitOn 0x2C).mapM fun part ↦
      decimalBytes? ((part.dropWhile isSpaceByte).reverse.dropWhile isSpaceByte).reverse
  else none

/-- The fault of a head that says contradictory things about the length of its body. -/
def Head.lengthFault? (head : Head) : Option HeadFault :=
  if head.status.code = 101 ∨ head.status.code = 204 ∨ head.status.code = 304 then none
  else if (head.values "transfer-encoding").isEmpty then
    match (head.values "content-length").mapM lengths? with
    | none => some .contentLength
    | some lists =>
      match lists.flatten with
      | [] => none
      | n :: others =>
        if !others.all (· = n) then some .contentLength
        else if Numeral.wordBound - 2 ≤ n then some .tooLarge
        else none
  else if head.minorVersion = 0 then some .transferEncoding
  else none

end ChatHook.Http
