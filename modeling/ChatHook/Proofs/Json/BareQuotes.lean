import ChatHook.Capture
import ChatHook.Proofs.Json.Recovery
import Mathlib.Data.Bool.AllAny

/-!
# Quotes and controls in a written payload

What reading a payload back does not show is what stands in its bytes. A byte of a text is written
as itself or as a backslash, a mark and digits (`escape_shape`), and none of these is a control. A
double quote in the text stands behind a backslash, so of the bare quotes of a payload
(`bareQuotes`) two are around the key, two around the text, and there are no others, whatever the
text is.

## Main results

* `bareQuotes_quote`: the bare quotes of a written string are its first and its last byte.
* `le_of_mem_quote`: a written string has no controls.
* `payload_round_trip`: what a payload is read as, and what stands in it.
-/

namespace ChatHook

namespace Json

/-! ### Written bytes -/

/-- The places of the double quotes that are not escaped. A backslash escapes the byte behind it
unless it is escaped itself; `place` is where the bytes start, and `escaped` tells whether the first
one is escaped. -/
def bareQuotes (place : Nat) (escaped : Bool) : Bytes → List Nat
  | [] => []
  | b :: rest =>
    if escaped then bareQuotes (place + 1) false rest
    else if b = ascii '"' then place :: bareQuotes (place + 1) false rest
    else bareQuotes (place + 1) (b = ascii '\\') rest

/-- A byte that is written as it is: no quote, no backslash and no control. -/
def IsPlain (b : UInt8) : Prop :=
  b ≠ ascii '"' ∧ b ≠ ascii '\\' ∧ 0x20 ≤ b

instance (b : UInt8) : Decidable (IsPlain b) :=
  inferInstanceAs (Decidable (_ ∧ _ ∧ _))

private theorem isPlain_of_mem_padded {n : Nat} (h : n < 32) :
    ∀ d ∈ asciiBytes (Numeral.padded 16 4 n), IsPlain d := by
  have hall : ∀ n < 32, (asciiBytes (Numeral.padded 16 4 n)).all (fun d ↦ IsPlain d) = true := by
    decide
  exact List.all_iff_forall_prop.1 (hall n h)

/-- A byte of a text is written as itself, or as a backslash, a mark, and perhaps digits. -/
theorem escape_shape (byte : UInt8) :
    (escape byte = [byte] ∧ IsPlain byte) ∨
      ∃ mark digits, escape byte = ascii '\\' :: mark :: digits ∧ 0x20 ≤ mark ∧
        ∀ d ∈ digits, IsPlain d := by
  rw [escape]
  split_ifs with hquote hback hplain h8 h9 hA hC hD
  · exact .inr ⟨_, [], rfl, by decide, by simp⟩
  · exact .inr ⟨_, [], rfl, by decide, by simp⟩
  · exact .inl ⟨rfl, hquote, hback, hplain⟩
  · exact .inr ⟨_, [], rfl, by decide, by simp⟩
  · exact .inr ⟨_, [], rfl, by decide, by simp⟩
  · exact .inr ⟨_, [], rfl, by decide, by simp⟩
  · exact .inr ⟨_, [], rfl, by decide, by simp⟩
  · exact .inr ⟨_, [], rfl, by decide, by simp⟩
  · have hlt : byte.toNat < 32 := UInt8.lt_iff_toNat_lt.1 (UInt8.not_le.1 hplain)
    exact .inr ⟨_, _, rfl, by decide, isPlain_of_mem_padded hlt⟩

/-! ### Controls -/

theorem le_of_mem_escape {byte b : UInt8} (h : b ∈ escape byte) : 0x20 ≤ b := by
  rcases escape_shape byte with ⟨he, hplain⟩ | ⟨mark, digits, he, hmark, hdigits⟩
  · rw [he, List.mem_singleton] at h
    exact h ▸ hplain.2.2
  · rw [he, List.mem_cons, List.mem_cons] at h
    rcases h with rfl | rfl | h
    · decide
    · exact hmark
    · exact (hdigits b h).2.2

/-- A written string has no controls. -/
theorem le_of_mem_quote {text : Bytes} {b : UInt8} (h : b ∈ quote text) : 0x20 ≤ b := by
  rw [quote, List.mem_cons, List.mem_append, List.mem_flatMap, List.mem_singleton] at h
  rcases h with rfl | ⟨byte, -, h⟩ | rfl
  · decide
  · exact le_of_mem_escape h
  · decide

/-! ### Bare quotes -/

/-- A plain byte is passed over. -/
theorem bareQuotes_cons {b : UInt8} (h : IsPlain b) (place : Nat) (rest : Bytes) :
    bareQuotes place false (b :: rest) = bareQuotes (place + 1) false rest := by
  rw [bareQuotes, if_neg Bool.false_ne_true, if_neg h.1, decide_eq_false h.2.1]

theorem bareQuotes_plain {bytes : Bytes} (h : ∀ b ∈ bytes, IsPlain b) (place : Nat)
    (rest : Bytes) :
    bareQuotes place false (bytes ++ rest) = bareQuotes (place + bytes.length) false rest := by
  induction bytes generalizing place with
  | nil => rfl
  | cons b bytes ih =>
    obtain ⟨hb, hbytes⟩ := List.forall_mem_cons.1 h
    rw [List.cons_append, bareQuotes_cons hb, ih hbytes, List.length_cons, Nat.add_assoc,
      Nat.add_comm 1]

/-- A written byte is passed over, also where it is a quote. -/
theorem bareQuotes_escape (byte : UInt8) (place : Nat) (rest : Bytes) :
    bareQuotes place false (escape byte ++ rest) =
      bareQuotes (place + (escape byte).length) false rest := by
  rcases escape_shape byte with ⟨he, hplain⟩ | ⟨mark, digits, he, -, hdigits⟩
  · rw [he]
    exact bareQuotes_cons hplain place rest
  · have hmark : bareQuotes place false (ascii '\\' :: mark :: (digits ++ rest)) =
        bareQuotes (place + 2) false (digits ++ rest) := by
      rw [bareQuotes, if_neg Bool.false_ne_true, if_neg (by decide), decide_eq_true rfl, bareQuotes,
        if_pos rfl]
    rw [he, List.cons_append, List.cons_append, hmark, bareQuotes_plain hdigits]
    simp only [List.length_cons]
    congr 1
    omega

/-- A written text has no bare quotes. -/
theorem bareQuotes_flatMap_escape (text : Bytes) (place : Nat) (rest : Bytes) :
    bareQuotes place false (text.flatMap escape ++ rest) =
      bareQuotes (place + (text.flatMap escape).length) false rest := by
  induction text generalizing place with
  | nil => rfl
  | cons byte text ih =>
    rw [List.flatMap_cons, List.append_assoc, bareQuotes_escape, ih, List.length_append,
      Nat.add_assoc]

/-- The bare quotes of a written string are its first and its last byte. -/
theorem bareQuotes_quote (text : Bytes) (place : Nat) (rest : Bytes) :
    bareQuotes place false (quote text ++ rest) =
      place :: (place + (quote text).length - 1) ::
        bareQuotes (place + (quote text).length) false rest := by
  have hlength : (quote text).length = (text.flatMap escape).length + 2 := by
    rw [quote, List.length_cons, List.length_append, List.length_singleton]
  rw [quote, List.cons_append, List.append_assoc, bareQuotes, if_neg Bool.false_ne_true, if_pos rfl,
    bareQuotes_flatMap_escape, List.singleton_append, bareQuotes, if_neg Bool.false_ne_true,
    if_pos rfl, ← quote, hlength]
  congr 2
  · omega
  · congr 1
    omega

/-! ### Payloads -/

/-- A payload has no controls. -/
theorem le_of_mem_payload {message : String} {b : UInt8} (h : b ∈ (Payload.mk message).json) :
    0x20 ≤ b := by
  simp only [Payload.json, List.mem_cons, List.mem_append, List.not_mem_nil, or_false] at h
  rcases h with rfl | hkey | rfl | hvalue | rfl
  · decide
  · exact le_of_mem_quote hkey
  · decide
  · exact le_of_mem_quote hvalue
  · decide

/-- The bare quotes of a payload are those around the key, at 1 and 9, and those around the value,
at 11 and in front of the closing brace. -/
theorem bareQuotes_payload (message : String) :
    bareQuotes 0 false (Payload.mk message).json =
      [1, 9, 11, (Payload.mk message).json.length - 2] := by
  have hkey : (quote (Utf8.encode "content")).length = 9 := by decide
  have hlength : (Payload.mk message).json.length =
      (quote (Utf8.encode message)).length + 12 := by
    simp only [Payload.json, List.length_cons, List.length_append, hkey, List.length_nil]
    omega
  rw [hlength, Payload.json, bareQuotes_cons (by decide), bareQuotes_quote, hkey,
    bareQuotes_cons (by decide), bareQuotes_quote, bareQuotes_cons (by decide), bareQuotes]
  simp only [List.cons.injEq, and_true, true_and]
  omega

/-- Different messages have different payloads. -/
theorem payload_injective : Function.Injective fun message ↦ (Payload.mk message).json := by
  intro message other h
  have hread := parse_payload message
  rw [show (Payload.mk message).json = (Payload.mk other).json from h, parse_payload] at hread
  simpa using hread.symm

end Json

open Json

/-- **Payloads and back.** Whatever the message, a captured body that is its payload is read as the
object with the only key `content` and the message as its value; the payload has no byte below
`0x20`; its bare quotes are the four around the key and the value; and different messages have
different payloads. -/
theorem payload_round_trip (message : String) :
    (∀ method path headers,
      (Captured.mk method path headers (Payload.mk message).json).json =
        .ok (.object [("content", .string message)])) ∧
    (∀ b ∈ (Payload.mk message).json, 0x20 ≤ b) ∧
    bareQuotes 0 false (Payload.mk message).json =
      [1, 9, 11, (Payload.mk message).json.length - 2] ∧
    ∀ other, other ≠ message → (Payload.mk other).json ≠ (Payload.mk message).json := by
  refine ⟨fun method path headers ↦ ?_, fun b ↦ le_of_mem_payload, bareQuotes_payload message,
    fun other hne ↦ payload_injective.ne hne⟩
  rw [Captured.json, parse_payload]
  rfl

/-- A message of a backslash, a quote, the first and the last control of ASCII, a separator of lines
and a character of four bytes. -/
private def awkward : String :=
  "\\\"\x00\x7f\u2028😀"

theorem awkward_payload_round_trip :
    (Payload.mk awkward).json ≠ (Payload.mk "").json ∧
      (∀ b ∈ (Payload.mk awkward).json, 0x20 ≤ b) ∧
      bareQuotes 0 false (Payload.mk awkward).json = [1, 9, 11, 30] ∧
      (Captured.mk "POST" "/" [] (Payload.mk awkward).json).json =
        .ok (.object [("content", .string awkward)]) := by
  obtain ⟨hread, hcontrols, hquotes, -⟩ := payload_round_trip awkward
  obtain ⟨-, -, -, hdifferent⟩ := payload_round_trip ""
  exact ⟨hdifferent awkward (by decide), hcontrols, hquotes, hread "POST" "/" []⟩

end ChatHook
