import ChatHook.Text.Numeral
import ChatHook.Text.Utf8

/-!
# Percent encoding

A byte that may not stand in a place of a URL is written there as `%` and two hexadecimal digits.
Each place has its own set of ASCII characters that must be encoded; everything outside ASCII
always is.
-/

namespace ChatHook.Url

/-- A character as it stands in a place whose encoded characters `set` decides. -/
def percentChar (set : Char → Bool) (c : Char) : List Char :=
  if c.toNat < 0x80 && !set c then [c]
  else (String.utf8EncodeChar c).flatMap fun byte ↦ '%' :: Numeral.hexPair byte

/-- A text with the characters of a set encoded. -/
def percentEncode (set : Char → Bool) (cs : List Char) : List Char :=
  cs.flatMap (percentChar set)

/-- Controls are encoded everywhere. -/
def controlSet (c : Char) : Bool :=
  c.toNat < 0x20 || c.toNat = 0x7F

/-- What is encoded in a fragment. -/
def fragmentSet (c : Char) : Bool :=
  controlSet c || [' ', '"', '<', '>', '`'].contains c

/-- What is encoded in a path. -/
def pathSet (c : Char) : Bool :=
  fragmentSet c || ['#', '?', '{', '}'].contains c

/-- What is encoded in a user name or password. -/
def userinfoSet (c : Char) : Bool :=
  pathSet c || ['/', ':', ';', '=', '@', '[', '\\', ']', '^', '|'].contains c

/-- What is encoded in a query. -/
def querySet (c : Char) : Bool :=
  controlSet c || [' ', '"', '#', '<', '>'].contains c

/-- What is encoded in the query of a special URL. -/
def specialQuerySet (c : Char) : Bool :=
  querySet c || c = '\''

/-- The byte of two hexadecimal digits. -/
def hexByte? (high low : UInt8) : Option UInt8 :=
  match Numeral.digit? (Char.ofNat high.toNat), Numeral.digit? (Char.ofNat low.toNat) with
  | some h, some l => some (h * 16 + l).toUInt8
  | _, _ => none

/-- Bytes with each encoded byte put back; a `%` without two digits stands for itself. -/
def percentDecode : Bytes → Bytes
  | b :: high :: low :: rest =>
    match (if b = 0x25 then hexByte? high low else none) with
    | some byte => byte :: percentDecode rest
    | none => b :: percentDecode (high :: low :: rest)
  | bytes => bytes

end ChatHook.Url
