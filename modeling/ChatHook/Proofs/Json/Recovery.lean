import ChatHook.Json.Reader
import ChatHook.Payload
import Mathlib.Tactic.SplitIfs

/-!
# Reading written JSON back

A JSON string is written byte by byte (`Json.escape`) and read byte by byte (`Json.readText`). Each
byte is written as itself, or as a backslash with an escape that stands for this one byte
(`escape_cases`), so reading passes over a written text and has seen its bytes, whatever stands
before and behind it. A payload is an object with one such string in it and is read back as such.

## Main results

* `readText_flatMap_escape`: reading passes over a written text and has seen its bytes.
* `readText_encode`: a written string reads as its text.
* `parse_payload`: a payload reads as the object with the only key `content` and its text.
-/

namespace ChatHook.Json

/-! ### One byte -/

/-- The four digits of a control denote its code. -/
private theorem ofDigits?_padded : ∀ n < 32,
    (asciiBytes (Numeral.padded 16 4 n)).length = 4 ∧
      Numeral.ofDigits? 16 ((asciiBytes (Numeral.padded 16 4 n)).map fun x ↦ Char.ofNat x.toNat) =
        some n := by
  decide

/-- A control is encoded by its one byte. -/
private theorem encode_singleton : ∀ n < 32,
    Utf8.encode (String.singleton (Char.ofNat n)) = [n.toUInt8] := by
  decide +kernel

private theorem readFourDigits_append {n : Nat} : {digits : Bytes} → digits.length = 4 →
    Numeral.ofDigits? 16 (digits.map fun x ↦ Char.ofNat x.toNat) = some n →
    ∀ rest, readFourDigits (digits ++ rest) = .ok (n, rest)
  | [a, b, c, d], _, hvalue, rest => by
      change readFourDigits (a :: b :: c :: d :: rest) = _
      rw [readFourDigits, hvalue]

/-- The long escape of a control stands for the control. -/
theorem readEscape_padded {byte : UInt8} (hbyte : byte < 0x20) (rest : Bytes) :
    readEscape (asciiBytes ('u' :: Numeral.padded 16 4 byte.toNat) ++ rest) =
      .ok ([byte], rest) := by
  have hlt : byte.toNat < 32 := UInt8.lt_iff_toNat_lt.1 hbyte
  obtain ⟨hlength, hvalue⟩ := ofDigits?_padded _ hlt
  have hu : shortEscape? (ascii 'u') = none := by decide
  have hpoint : readCodePoint (asciiBytes (Numeral.padded 16 4 byte.toNat) ++ rest) =
      .ok (byte.toNat, rest) := by
    rw [readCodePoint, readFourDigits_append hlength hvalue]
    simp only
    rw [if_neg (by omega), if_neg (by omega)]
  change readEscape (ascii 'u' :: (asciiBytes (Numeral.padded 16 4 byte.toNat) ++ rest)) = _
  rw [readEscape, hu]
  simp only [↓reduceIte, hpoint, Except.map, encode_singleton _ hlt]
  simp

/-- A byte of a text is written as itself, where it is no quote, no backslash and no control, and
otherwise as a backslash with an escape that stands for it. -/
theorem escape_cases (byte : UInt8) :
    (escape byte = [byte] ∧ byte ≠ ascii '"' ∧ byte ≠ ascii '\\' ∧ ¬byte < 0x20) ∨
      ∃ e, escape byte = ascii '\\' :: e ∧ ∀ rest, readEscape (e ++ rest) = .ok ([byte], rest) := by
  rw [escape]
  split_ifs with hquote hback hplain h8 h9 hA hC hD
  · exact .inr ⟨[ascii '"'], rfl, fun rest ↦ by subst hquote; rfl⟩
  · exact .inr ⟨[ascii '\\'], rfl, fun rest ↦ by subst hback; rfl⟩
  · exact .inl ⟨rfl, hquote, hback, UInt8.not_lt.2 hplain⟩
  · exact .inr ⟨[ascii 'b'], rfl, fun rest ↦ by subst h8; rfl⟩
  · exact .inr ⟨[ascii 't'], rfl, fun rest ↦ by subst h9; rfl⟩
  · exact .inr ⟨[ascii 'n'], rfl, fun rest ↦ by subst hA; rfl⟩
  · exact .inr ⟨[ascii 'f'], rfl, fun rest ↦ by subst hC; rfl⟩
  · exact .inr ⟨[ascii 'r'], rfl, fun rest ↦ by subst hD; rfl⟩
  · exact .inr ⟨_, rfl, readEscape_padded (UInt8.not_le.1 hplain)⟩

/-! ### Texts -/

theorem readText_cons_of_plain {byte : UInt8} (hquote : byte ≠ ascii '"')
    (hback : byte ≠ ascii '\\') (hplain : ¬byte < 0x20) (seen rest : Bytes) :
    readText seen (byte :: rest) = readText (byte :: seen) rest := by
  rw [readText, if_neg hquote, if_neg hback, if_neg hplain]

theorem readText_backslash {bytes text after : Bytes} (h : readEscape bytes = .ok (text, after))
    (seen : Bytes) :
    readText seen (ascii '\\' :: bytes) = readText (text.reverse ++ seen) after := by
  rw [readText, if_neg (by decide), if_pos rfl]
  split
  · simp_all
  · simp_all

/-- Reading passes over a written byte and has seen the byte. -/
theorem readText_escape (byte : UInt8) (seen rest : Bytes) :
    readText seen (escape byte ++ rest) = readText (byte :: seen) rest := by
  rcases escape_cases byte with ⟨he, hquote, hback, hplain⟩ | ⟨e, he, hread⟩
  · rw [he]
    exact readText_cons_of_plain hquote hback hplain seen rest
  · rw [he]
    exact readText_backslash (hread rest) seen

/-- Reading passes over a written text and has seen its bytes. -/
theorem readText_flatMap_escape (text seen rest : Bytes) :
    readText seen (text.flatMap escape ++ rest) = readText (text.reverse ++ seen) rest := by
  induction text generalizing seen with
  | nil => rfl
  | cons byte text ih =>
    rw [List.flatMap_cons, List.append_assoc, readText_escape, ih, List.reverse_cons,
      List.append_assoc, List.singleton_append]

/-- A written string, behind its opening quote, reads as its text. -/
theorem readText_encode (text : String) (rest : Bytes) :
    readText [] ((Utf8.encode text).flatMap escape ++ ascii '"' :: rest) = .ok (text, rest) := by
  rw [readText_flatMap_escape, readText, if_pos rfl, List.append_nil, List.reverse_reverse,
    Utf8.decode?_encode]

/-! ### Values -/

private theorem skipBlanks_cons {byte : UInt8} (h : isBlankByte byte = false) (rest : Bytes) :
    skipBlanks (byte :: rest) = byte :: rest := by
  rw [skipBlanks, List.dropWhile_cons_of_neg (by simp [h])]

/-- A written string is read as a value. -/
theorem readValue_quote (depth : Nat) (text : String) (rest : Bytes) :
    readValue depth (quote (Utf8.encode text) ++ rest) = .ok (.string text, rest) := by
  have hquote : quote (Utf8.encode text) ++ rest =
      ascii '"' :: ((Utf8.encode text).flatMap escape ++ ascii '"' :: rest) := by
    simp [quote]
  rw [hquote, readValue.eq_def]
  simp only
  rw [skipBlanks_cons (by decide)]
  simp only
  rw [if_neg (by decide), if_neg (by decide), readScalar, if_neg (by decide), if_neg (by decide),
    if_neg (by decide), if_neg (by decide), if_neg (by decide), if_pos rfl, readText_encode]
  rfl

/-- A key and its value are read as a member, whatever reads the value. -/
theorem readMember_quote {item : Bytes → Read Value} {bytes rest : Bytes} {value : Value}
    (hitem : item bytes = .ok (value, rest)) (key : String) :
    readMember item ((Utf8.encode key).flatMap escape ++ ascii '"' :: ascii ':' :: bytes) =
      .ok ((key, value), rest) := by
  rw [readMember, readText_encode]
  simp only
  rw [skipBlanks_cons (by decide)]
  simp only [↓reduceIte, hitem]
  rfl

/-- An object with one member, behind its opening brace. -/
theorem readMembers_singleton {item : Bytes → Read Value} {bytes : Bytes} {value : Value}
    (hitem : item bytes = .ok (value, [ascii '}'])) (key : String) :
    readMembers item true (quote (Utf8.encode key) ++ ascii ':' :: bytes) =
      .ok ([(key, value)], []) := by
  have hquote : quote (Utf8.encode key) ++ ascii ':' :: bytes =
      ascii '"' :: ((Utf8.encode key).flatMap escape ++ ascii '"' :: ascii ':' :: bytes) := by
    simp [quote]
  rw [hquote, readMembers, skipBlanks_cons (by decide)]
  simp only
  rw [if_neg (by decide)]
  simp only [↓reduceIte, readMember_quote hitem]
  -- The members behind the first one are read only from fewer bytes.
  have hshorter : ([ascii '}'] : Bytes).length <
      (ascii '"' :: ((Utf8.encode key).flatMap escape ++
        ascii '"' :: ascii ':' :: bytes)).length := by
    simp only [List.length_cons, List.length_append, List.length_nil]
    omega
  rw [if_pos hshorter, readMembers, skipBlanks_cons (by decide)]
  rfl

/-- **A payload is read back.** -/
theorem parse_payload (message : String) :
    parse (Payload.mk message).json = .ok (.object [("content", .string message)]) := by
  have hobject : readMembers (readValue 126) true
      (quote (Utf8.encode "content") ++ ascii ':' ::
        (quote (Utf8.encode message) ++ [ascii '}'])) =
      .ok ([("content", .string message)], []) :=
    readMembers_singleton (readValue_quote 126 message [ascii '}']) "content"
  have hvalue : readValue maxDepth (Payload.mk message).json =
      .ok (.object [("content", .string message)], []) := by
    rw [Payload.json, readValue.eq_def]
    simp only
    rw [skipBlanks_cons (by decide)]
    simp only
    rw [if_neg (by decide), if_pos trivial, maxDepth]
    simp only
    rw [hobject]
    rfl
  rw [parse, hvalue]
  rfl

end ChatHook.Json
