import ChatHook.Text.Utf8

/-!
# Base 64

Three bytes are four characters of six bits each; a remainder is filled up with `=`.
-/

namespace ChatHook.Base64

/-- The characters of the values below 64. -/
def alphabet : List Char :=
  "ABCDEFGHIJKLMNOPQRSTUVWXYZabcdefghijklmnopqrstuvwxyz0123456789+/".toList

/-- The character of a value below 64. -/
def character (value : Nat) : Char :=
  alphabet.getD value '='

/-- The base 64 form of bytes. -/
def encode : Bytes → List Char
  | a :: b :: c :: rest =>
    let n := a.toNat * 65536 + b.toNat * 256 + c.toNat
    [n / 262144, n / 4096 % 64, n / 64 % 64, n % 64].map character ++ encode rest
  | [a, b] =>
    let n := a.toNat * 1024 + b.toNat * 4
    [n / 4096, n / 64 % 64, n % 64].map character ++ ['=']
  | [a] =>
    let n := a.toNat * 16
    [n / 64, n % 64].map character ++ ['=', '=']
  | [] => []

end ChatHook.Base64
