import ChatHook.Text.Quoted
import ChatHook.Text.Utf8

/-!
# JSON values

What a JSON text stands for, and why bytes are no JSON text.
-/

namespace ChatHook.Json

/-- A number: an integer as long as it fits into a machine word and is written as one, and
otherwise a decimal, which has a sign even when it is zero. -/
inductive Number where
  | integer (n : Int)
  | decimal (isNegative : Bool) (digits : Nat) (exponent : Int)
deriving DecidableEq

/-- A JSON value. The members of an object keep the order in which they are written. -/
inductive Value where
  | null
  | bool (b : Bool)
  | number (n : Number)
  | string (text : String)
  | array (items : List Value)
  | object (members : List (String × Value))

/-- What is wrong with bytes that are no JSON text. -/
inductive FaultKind where
  | endInList
  | endInObject
  | endInString
  | endInValue
  | noColon
  | noListComma
  | noObjectComma
  | noWord
  | noValue
  | badEscape
  | badNumber
  | numberTooLarge
  | badCharacter
  | controlCharacter
  | keyIsNoString
  | loneSurrogate
  | trailingComma
  | trailingCharacters
  | halfPair
  | tooDeep
deriving DecidableEq

/-- The wording of a fault. -/
def FaultKind.message : FaultKind → String
  | .endInList => "EOF while parsing a list"
  | .endInObject => "EOF while parsing an object"
  | .endInString => "EOF while parsing a string"
  | .endInValue => "EOF while parsing a value"
  | .noColon => "expected \x60:\x60"
  | .noListComma => "expected \x60,\x60 or \x60]\x60"
  | .noObjectComma => "expected \x60,\x60 or \x60\x7d\x60"
  | .noWord => "expected ident"
  | .noValue => "expected value"
  | .badEscape => "invalid escape"
  | .badNumber => "invalid number"
  | .numberTooLarge => "number out of range"
  | .badCharacter => "invalid unicode code point"
  | .controlCharacter =>
    "control character (\\u0000-\\u001F) found while parsing a string"
  | .keyIsNoString => "key must be a string"
  | .loneSurrogate => "lone leading surrogate in hex escape"
  | .trailingComma => "trailing comma"
  | .trailingCharacters => "trailing characters"
  | .halfPair => "unexpected end of hex escape"
  | .tooDeep => "recursion limit exceeded"

/-- A fault, and where reading stopped: the line and the number of bytes read of it. -/
structure Fault where
  kind : FaultKind
  line : Nat
  column : Nat
deriving DecidableEq

/-- A fault shown for inspection. -/
def Fault.inspect (f : Fault) : String :=
  "Error(" ++ Text.quoted f.kind.message ++ ", line: " ++ toString f.line ++ ", column: " ++
    toString f.column ++ ")"

end ChatHook.Json
