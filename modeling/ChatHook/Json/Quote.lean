import ChatHook.Text.Numeral
import ChatHook.Text.Utf8

/-!
# JSON strings

A JSON string as it is written: the bytes of the text between double quotes, with a quote and a
backslash escaped, each control its short escape where there is one and `\u00XX` where there is
none. Everything else, DEL and all bytes of longer characters included, stands for itself.
-/

namespace ChatHook.Json

/-- The byte of an ASCII character. -/
def ascii (c : Char) : UInt8 :=
  c.toNat.toUInt8

/-- The bytes of an ASCII text. -/
def asciiBytes (cs : List Char) : Bytes :=
  cs.map ascii

/-- What a byte of a text is written as inside a JSON string. -/
def escape (byte : UInt8) : Bytes :=
  if byte = ascii '"' then asciiBytes ['\\', '"']
  else if byte = ascii '\\' then asciiBytes ['\\', '\\']
  else if 0x20 ≤ byte then [byte]
  else if byte = 0x08 then asciiBytes ['\\', 'b']
  else if byte = 0x09 then asciiBytes ['\\', 't']
  else if byte = 0x0A then asciiBytes ['\\', 'n']
  else if byte = 0x0C then asciiBytes ['\\', 'f']
  else if byte = 0x0D then asciiBytes ['\\', 'r']
  else asciiBytes ('\\' :: 'u' :: Numeral.padded 16 4 byte.toNat)

/-- The JSON string for a text given by its bytes. -/
def quote (text : Bytes) : Bytes :=
  ascii '"' :: (text.flatMap escape ++ [ascii '"'])

end ChatHook.Json
