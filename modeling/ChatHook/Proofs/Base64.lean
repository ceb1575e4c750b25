import ChatHook.Http.Base64

/-!
# Reading base 64 back

Four characters are three bytes again, and the last four are one or two where they end in `=`. So
the base 64 form of bytes tells what the bytes are (`decode?_encode`).
-/

namespace ChatHook.Base64

/-- The value of a character. -/
def value? (c : Char) : Option Nat :=
  alphabet.idxOf? c

theorem value?_character {n : Nat} (h : n < 64) : value? (character n) = some n := by
  revert h n
  decide

/-- The bytes of a base 64 form. -/
def decode? : List Char → Option Bytes
  | [] => some []
  | a :: b :: c :: d :: rest =>
    match value? a, value? b, value? c, value? d with
    | some a, some b, some c, some d =>
      (decode? rest).map fun bytes ↦
        [a * 4 + b / 16, b % 16 * 16 + c / 4, c % 4 * 64 + d].map UInt8.ofNat ++ bytes
    | some a, some b, some c, none =>
      if d :: rest = ['='] then some ([a * 4 + b / 16, b % 16 * 16 + c / 4].map UInt8.ofNat)
      else none
    | some a, some b, none, none =>
      if c :: d :: rest = ['=', '='] then some [UInt8.ofNat (a * 4 + b / 16)] else none
    | _, _, _, _ => none
  | _ => none

/-- A value of fewer than 256 that is put together again. -/
private theorem ofNat_of_eq {byte : UInt8} {n : Nat} (h : n = byte.toNat) :
    UInt8.ofNat n = byte := by
  rw [h, UInt8.ofNat_toNat]

/-- The base 64 form of bytes is read back as the bytes. -/
theorem decode?_encode (bytes : Bytes) : decode? (encode bytes) = some bytes := by
  have hpad : value? '=' = none := by decide
  induction bytes using encode.induct with
  | case1 a b c rest ih =>
    have ha := a.toNat_lt
    have hb := b.toNat_lt
    have hc := c.toNat_lt
    simp only [encode, List.map_cons, List.map_nil, List.cons_append, List.nil_append, decode?]
    rw [value?_character (by omega), value?_character (by omega), value?_character (by omega),
      value?_character (by omega)]
    simp only [ih, Option.map_some, Option.some.injEq, List.cons.injEq, and_true]
    exact ⟨ofNat_of_eq (by omega), ofNat_of_eq (by omega), ofNat_of_eq (by omega)⟩
  | case2 a b =>
    have ha := a.toNat_lt
    have hb := b.toNat_lt
    simp only [encode, List.map_cons, List.map_nil, List.cons_append, List.nil_append, decode?]
    rw [value?_character (by omega), value?_character (by omega), value?_character (by omega), hpad]
    simp only [if_true, Option.some.injEq, List.cons.injEq, and_true]
    exact ⟨ofNat_of_eq (by omega), ofNat_of_eq (by omega)⟩
  | case3 a =>
    have ha := a.toNat_lt
    simp only [encode, List.map_cons, List.map_nil, List.cons_append, List.nil_append, decode?]
    rw [value?_character (by omega), value?_character (by omega), hpad]
    simp only [if_true, Option.some.injEq, List.cons.injEq, and_true]
    exact ofNat_of_eq (by omega)
  | case4 => rfl

end ChatHook.Base64
