/-!
# UTF-8

Text meets bytes in three ways: every text has an encoding, a byte string is read back strictly
as the text it encodes or not at all, and for display each ill-formed part of a byte string is
shown as one replacement character. Reading back inverts the encoding in both directions
(`decode?_encode`, `encode_of_decode?`).
-/

namespace ChatHook

/-- Raw bytes, in order. -/
abbrev Bytes := List UInt8

namespace Utf8

/-- The UTF-8 encoding of a text. -/
def encode (text : String) : Bytes :=
  text.toByteArray.data.toList

/-- The text whose encoding is exactly these bytes, if there is one. -/
def decode? (bytes : Bytes) : Option String :=
  String.fromUTF8? ⟨bytes.toArray⟩

theorem decode?_encode (text : String) : decode? (encode text) = some text := by
  simp [decode?, encode, String.fromUTF8?, text.isValidUTF8, String.fromUTF8]

theorem encode_of_decode? {bytes : Bytes} {text : String} (h : decode? bytes = some text) :
    encode text = bytes := by
  simp only [decode?, String.fromUTF8?, Option.dite_none_right_eq_some, Option.some.injEq] at h
  obtain ⟨_, rfl⟩ := h
  simp [encode, String.fromUTF8]

/-- Only encodings are read back, and each to its own text. -/
theorem decode?_eq_some_iff {bytes : Bytes} {text : String} :
    decode? bytes = some text ↔ bytes = encode text :=
  ⟨fun h ↦ (encode_of_decode? h).symm, fun h ↦ h ▸ decode?_encode text⟩

theorem encode_injective {a b : String} (h : encode a = encode b) : a = b :=
  Option.some.inj (by rw [← decode?_encode a, h, decode?_encode])

/-- The number of bytes in the encoding of a text. -/
def size (text : String) : Nat :=
  text.utf8ByteSize

theorem size_eq_length_encode (text : String) : size text = (encode text).length := by
  rfl

/-! ## Showing bytes that need not be text -/

/-- A character begun but not finished: the bits read so far, how many bytes are still to come,
and the bounds of the next one. Narrower bounds after some first bytes exclude overlong forms,
surrogates and values past the last character. -/
structure Unfinished where
  value : Nat
  owed : Nat
  low : Nat
  high : Nat

/-- What a byte at the start of a character promises; nothing for a byte that starts none. -/
def Unfinished.start? (byte : Nat) : Option Unfinished :=
  if byte < 0xC2 then none
  else if byte < 0xE0 then some ⟨byte - 0xC0, 1, 0x80, 0xBF⟩
  else if byte = 0xE0 then some ⟨0, 2, 0xA0, 0xBF⟩
  else if byte = 0xED then some ⟨0xD, 2, 0x80, 0x9F⟩
  else if byte < 0xF0 then some ⟨byte - 0xE0, 2, 0x80, 0xBF⟩
  else if byte = 0xF0 then some ⟨0, 3, 0x90, 0xBF⟩
  else if byte < 0xF4 then some ⟨byte - 0xF0, 3, 0x80, 0xBF⟩
  else if byte = 0xF4 then some ⟨4, 3, 0x80, 0x8F⟩
  else none

/-- The character that stands for ill-formed bytes. -/
def replacement : Char := '\uFFFD'

/-- A byte where a character may start: the characters it completes, and what it begins. -/
def begin (byte : Nat) : List Char × Option Unfinished :=
  if byte < 0x80 then ([Char.ofNat byte], none)
  else match Unfinished.start? byte with
    | some p => ([], some p)
    | none => ([replacement], none)

/-- One byte of a text shown leniently: the characters it completes, and what is left unfinished. -/
def advance (pending : Option Unfinished) (byte : UInt8) : List Char × Option Unfinished :=
  match pending with
  | none => begin byte.toNat
  | some p =>
    if p.low ≤ byte.toNat ∧ byte.toNat ≤ p.high then
      let value := p.value * 64 + (byte.toNat - 0x80)
      if p.owed ≤ 1 then ([Char.ofNat value], none)
      else ([], some ⟨value, p.owed - 1, 0x80, 0xBF⟩)
    else
      let (done, rest) := begin byte.toNat
      (replacement :: done, rest)

/-- The state of lenient reading after some bytes: the characters so far, last first, and what
is left open. -/
def scan (bytes : Bytes) : List Char × Option Unfinished :=
  bytes.foldl (fun (seen, pending) byte ↦
    let (done, rest) := advance pending byte
    (done.reverse ++ seen, rest)) ([], none)

/-- The text that bytes show: their own text where they have one, and otherwise one replacement
character for each longest part that starts no character, or that starts one and breaks off. -/
def display (bytes : Bytes) : String :=
  match decode? bytes with
  | some text => text
  | none =>
    let (seen, pending) := scan bytes
    String.ofList (if pending.isSome then replacement :: seen else seen).reverse

theorem display_encode (text : String) : display (encode text) = text := by
  simp [display, decode?_encode]

end Utf8

end ChatHook
