import ChatHook.Text.Hidden

/-!
# Quoted text

A text between double quotes, on one line and with every character visible: quotes and
backslashes take a backslash, the common controls their letter, and every other hidden character
its number in braces.
-/

namespace ChatHook.Text

/-- What a character is written as inside quotes. -/
def quoteChar (c : Char) : List Char :=
  if c = '\x00' then ['\\', '0']
  else if c = '\t' then ['\\', 't']
  else if c = '\n' then ['\\', 'n']
  else if c = '\r' then ['\\', 'r']
  else if c = '"' then ['\\', '"']
  else if c = '\\' then ['\\', '\\']
  else if isHidden c then ['\\', 'u', '{'] ++ Numeral.digits 16 c.toNat ++ ['}']
  else [c]

/-- A text in quotes. -/
def quoted (text : String) : String :=
  String.ofList ('"' :: text.toList.flatMap quoteChar ++ ['"'])

end ChatHook.Text
