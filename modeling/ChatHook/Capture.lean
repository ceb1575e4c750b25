import ChatHook.Json.Reader
import ChatHook.Text.Blank

/-!
# Captured requests

What arrives on a connection is read as one request: a line with a method and a path, header lines
up to an empty one, and a body as long as the headers say. Reading is strict where it looks and
blind elsewhere: the rest of the first line and everything behind the body have no influence.
-/

namespace ChatHook

/-- A request as it arrived. -/
structure Captured where
  method : String
  path : String
  headers : List (String × String)
  body : Bytes
deriving DecidableEq

/-- Why a text is no length. -/
inductive LengthFault where
  | empty
  | invalidDigit
  | tooLarge
deriving DecidableEq

/-- Why there is nothing to show of a request. -/
inductive CaptureFault where
  /-- A word or a colon is missing. -/
  | missingPart
  /-- A line is no text. -/
  | lineNotText
  | badLength (fault : LengthFault)
  /-- No memory could hold the body. -/
  | capacity
  /-- The connection ended inside the body. -/
  | shortBody
  /-- More than one connection was made. -/
  | secondRequest
  /-- The body is no JSON text. -/
  | badJson (fault : Json.Fault)
deriving DecidableEq

/-- The name of the kind of a length fault. -/
def LengthFault.name : LengthFault → String
  | .empty => "Empty"
  | .invalidDigit => "InvalidDigit"
  | .tooLarge => "PosOverflow"

/-- The wording of a fault that comes with an error. -/
def failedWith (error : String) : String :=
  "called \x60Result::unwrap()\x60 on an \x60Err\x60 value: " ++ error

/-- The wording of a fault. -/
def CaptureFault.message : CaptureFault → String
  | .missingPart => "called \x60Option::unwrap()\x60 on a \x60None\x60 value"
  | .lineNotText =>
    failedWith "Error \x7b kind: InvalidData, message: \"stream did not contain valid UTF-8\" \x7d"
  | .badLength fault => failedWith ("ParseIntError \x7b kind: " ++ fault.name ++ " \x7d")
  | .capacity => "capacity overflow"
  | .shortBody =>
    failedWith "Error \x7b kind: UnexpectedEof, message: \"failed to fill whole buffer\" \x7d"
  | .secondRequest => "More than one request was sent"
  | .badJson fault => failedWith fault.inspect

/-! ## Looking at a captured request -/

/-- Whether two names are the same up to the case of ASCII letters. -/
def sameName (a b : String) : Bool :=
  a.toList.map Char.toLower = b.toList.map Char.toLower

namespace Captured

/-- The value of the first header of a name among some headers. -/
def lookUp? (headers : List (String × String)) (name : String) : Option String :=
  (headers.find? fun (known, _) ↦ sameName known name).map Prod.snd

/-- The value of the first header of a name. -/
def header? (r : Captured) (name : String) : Option String :=
  lookUp? r.headers name

/-- The JSON value in the body. -/
def json (r : Captured) : Except CaptureFault Json.Value :=
  (Json.parse r.body).mapError .badJson

end Captured

/-! ## Reading -/

/-- The first line of some bytes, with its line feed, and the bytes behind it. -/
def cutLine : Bytes → Bytes × Bytes
  | [] => ([], [])
  | b :: rest =>
    if b = 0x0A then ([b], rest)
    else
      let (line, after) := cutLine rest
      (b :: line, after)

theorem length_cutLine_snd_le (bytes : Bytes) : (cutLine bytes).2.length ≤ bytes.length := by
  induction bytes with
  | nil => simp [cutLine]
  | cons b rest ih =>
    simp only [cutLine]
    split
    · simp
    · exact Nat.le_succ_of_le ih

theorem length_cutLine_snd_lt {bytes : Bytes} (h : (cutLine bytes).1 ≠ []) :
    (cutLine bytes).2.length < bytes.length := by
  match bytes with
  | [] => simp [cutLine] at h
  | b :: rest =>
    simp only [cutLine]
    split
    · simp
    · exact Nat.lt_succ_of_le (length_cutLine_snd_le rest)

/-- The method and the path in a request line. -/
def readRequestLine (line : String) : Except CaptureFault (String × String) :=
  match Text.words line.toList with
  | method :: path :: _ => .ok (String.ofList method, String.ofList path)
  | _ => .error .missingPart

/-- The name and the value in a header line. -/
def readHeaderLine (line : List Char) : Except CaptureFault (String × String) :=
  let name := line.takeWhile (· ≠ ':')
  match line.drop name.length with
  | [] => .error .missingPart
  | _ :: value => .ok (String.ofList (Text.trim name), String.ofList (Text.trim value))

/-- The headers up to the first line without anything but blanks, and the bytes behind it. The end
of the bytes is such a line. -/
def readHeaders (bytes : Bytes) : Except CaptureFault (List (String × String) × Bytes) :=
  let line := (cutLine bytes).1
  let rest := (cutLine bytes).2
  match Utf8.decode? line with
  | none => .error .lineNotText
  | some text =>
    let content := Text.trimEnd text.toList
    if _h : line = [] ∨ content = [] then .ok ([], rest)
    else
      match readHeaderLine content with
      | .error f => .error f
      | .ok header =>
        (readHeaders rest).map fun (headers, after) ↦ (header :: headers, after)
termination_by bytes.length
decreasing_by exact length_cutLine_snd_lt fun hl ↦ absurd (Or.inl hl) (by assumption)

/-- The number in decimal digits behind another one; the first character that does not fit
decides. -/
def extendLength (n : Nat) : List Char → Except LengthFault Nat
  | [] => .ok n
  | c :: cs =>
    match Numeral.digitIn? 10 c with
    | none => .error .invalidDigit
    | some d =>
      if Numeral.wordBound ≤ n * 10 + d then .error .tooLarge else extendLength (n * 10 + d) cs

/-- The length that a text writes down: decimal digits, perhaps behind a plus sign. -/
def readLength (text : String) : Except LengthFault Nat :=
  match text.toList with
  | [] => .error .empty
  | ['+'] => .error .invalidDigit
  | '+' :: cs => extendLength 0 cs
  | cs => extendLength 0 cs

/-- The length of the body: nothing without a header that tells it. -/
def bodyLength (headers : List (String × String)) : Except CaptureFault Nat :=
  match Captured.lookUp? headers "content-length" with
  | none => .ok 0
  | some value =>
    match readLength value with
    | .error f => .error (.badLength f)
    | .ok n => if Numeral.signedBound ≤ n then .error .capacity else .ok n

/-- The request that arrived on a connection. -/
def capture (bytes : Bytes) : Except CaptureFault Captured :=
  match Utf8.decode? (cutLine bytes).1 with
  | none => .error .lineNotText
  | some line =>
    match readRequestLine line with
    | .error f => .error f
    | .ok (method, path) =>
      match readHeaders (cutLine bytes).2 with
      | .error f => .error f
      | .ok (headers, rest) =>
        match bodyLength headers with
        | .error f => .error f
        | .ok n =>
          if n ≤ rest.length then .ok ⟨method, path, headers, rest.take n⟩
          else .error .shortBody

end ChatHook
