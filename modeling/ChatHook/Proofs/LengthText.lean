import ChatHook.Capture
import ChatHook.Proofs.Results
import ChatHook.Proofs.WrittenText
import Mathlib.Tactic.SplitIfs

/-!
# Texts of lengths

A length is written in decimal digits, at least one, perhaps behind a plus sign, and a machine word
holds it (`WritesLength`). Zeros in front do not count. Digits are read one by one, and the first
character that does not fit decides why a text is no length (`IsNoLength`): one that is no digit, or
the digit with which the number leaves the word, whatever stands behind it. The number only grows
with its digits (`le_ofDigitChars`), so it leaves the word once and for all.

## Main results

* `readLength_eq_ok_iff`: which texts are read as which lengths.
* `readLength_eq_error_iff`: why a text is no length.
-/

namespace ChatHook

/-! ### Texts -/

/-- The characters of a text without the plus sign that it may start with. -/
def unsigned : List Char → List Char
  | '+' :: cs => cs
  | cs => cs

theorem unsigned_of_isDigit {cs : List Char} (h : ∀ c ∈ cs, c.isDigit = true) :
    unsigned cs = cs := by
  rw [unsigned]
  rintro digits rfl
  exact absurd (h '+' List.mem_cons_self) (by decide)

/-- A text writes a length in decimal digits. -/
structure WritesLength (text : String) (n : Nat) : Prop where
  ne_nil : unsigned text.toList ≠ []
  isDigit : ∀ c ∈ unsigned text.toList, c.isDigit = true
  value : Nat.ofDigitChars 10 (unsigned text.toList) 0 = n
  fits : n < Numeral.wordBound

/-- A text is no length. -/
inductive IsNoLength (text : String) : LengthFault → Prop
  | empty (h : text = "") : IsNoLength text .empty
  /-- There is a sign and nothing else. -/
  | loneSign (hne : text ≠ "") (h : unsigned text.toList = []) : IsNoLength text .invalidDigit
  /-- A character is no digit, and the digits before it are not too many. -/
  | stray {digits rest : List Char} {c : Char} (h : unsigned text.toList = digits ++ c :: rest)
      (hdigits : ∀ d ∈ digits, d.isDigit = true)
      (hfits : Nat.ofDigitChars 10 digits 0 < Numeral.wordBound) (hc : c.isDigit = false) :
      IsNoLength text .invalidDigit
  /-- The first digits make too large a number. -/
  | tooLarge {digits rest : List Char} (h : unsigned text.toList = digits ++ rest)
      (hdigits : ∀ d ∈ digits, d.isDigit = true)
      (hlarge : Numeral.wordBound ≤ Nat.ofDigitChars 10 digits 0) : IsNoLength text .tooLarge

/-! ### Digits one by one -/

theorem digitIn?_of_isDigit {c : Char} (h : c.isDigit = true) :
    Numeral.digitIn? 10 c = some (c.toNat - '0'.toNat) := by
  have hrange := Char.isDigit_iff_toNat.1 h
  have hc : '0' ≤ c ∧ c ≤ '9' := hrange
  have hvalue : c.toNat - '0'.toNat < 10 := by
    have hzero : '0'.toNat = 48 := rfl
    have hnine : '9'.toNat = 57 := rfl
    omega
  rw [Numeral.digitIn?, Numeral.digit?, if_pos hc, Option.filter_some,
    if_pos (decide_eq_true hvalue)]

theorem digitIn?_of_not_isDigit {c : Char} (h : c.isDigit = false) :
    Numeral.digitIn? 10 c = none := by
  have hc : ¬('0' ≤ c ∧ c ≤ '9') := fun hc ↦ by
    rw [Char.isDigit_iff_toNat.2 hc] at h
    cases h
  rw [Numeral.digitIn?, Numeral.digit?, if_neg hc]
  -- A letter stands for ten at least.
  split_ifs <;> simp

theorem le_ofDigitChars (digits : List Char) (n : Nat) : n ≤ Nat.ofDigitChars 10 digits n := by
  rw [Nat.ofDigitChars_eq_ofDigitChars_zero]
  exact Nat.le_add_right_of_le (Nat.le_mul_of_pos_left n (Nat.pow_pos (by decide)))

theorem extendLength_cons_of_isDigit {c : Char} (h : c.isDigit = true) (n : Nat) (cs : List Char) :
    extendLength n (c :: cs) = if Numeral.wordBound ≤ n * 10 + (c.toNat - '0'.toNat)
      then .error .tooLarge else extendLength (n * 10 + (c.toNat - '0'.toNat)) cs := by
  simp only [extendLength, digitIn?_of_isDigit h]

theorem extendLength_cons_of_not_isDigit {c : Char} (h : c.isDigit = false) (n : Nat)
    (cs : List Char) : extendLength n (c :: cs) = .error .invalidDigit := by
  simp only [extendLength, digitIn?_of_not_isDigit h]

/-- Digits are read as long as a machine word holds their number. -/
theorem extendLength_append {digits : List Char} (hdigits : ∀ c ∈ digits, c.isDigit = true)
    {n : Nat} (hfits : Nat.ofDigitChars 10 digits n < Numeral.wordBound) (rest : List Char) :
    extendLength n (digits ++ rest) = extendLength (Nat.ofDigitChars 10 digits n) rest := by
  induction digits generalizing n with
  | nil => rfl
  | cons c digits ih =>
    obtain ⟨hc, hrest⟩ := List.forall_mem_cons.1 hdigits
    rw [Nat.ofDigitChars_cons, Nat.mul_comm] at hfits ⊢
    have hnext := Nat.lt_of_le_of_lt (le_ofDigitChars digits _) hfits
    rw [List.cons_append, extendLength_cons_of_isDigit hc, if_neg (Nat.not_le.2 hnext),
      ih hrest hfits]

/-- Digits of too large a number are refused, whatever stands behind them. -/
theorem extendLength_of_le {digits : List Char} (hdigits : ∀ c ∈ digits, c.isDigit = true) {n : Nat}
    (hn : n < Numeral.wordBound) (hlarge : Numeral.wordBound ≤ Nat.ofDigitChars 10 digits n)
    (rest : List Char) : extendLength n (digits ++ rest) = .error .tooLarge := by
  induction digits generalizing n with
  | nil => exact absurd hlarge (Nat.not_le.2 hn)
  | cons c digits ih =>
    obtain ⟨hc, hrest⟩ := List.forall_mem_cons.1 hdigits
    rw [Nat.ofDigitChars_cons, Nat.mul_comm] at hlarge
    rw [List.cons_append, extendLength_cons_of_isDigit hc]
    split_ifs with hnext
    · rfl
    · exact ih hrest (Nat.not_le.1 hnext) hlarge

/-! ### Reading -/

/-- A text is read behind its sign. -/
theorem readLength_eq (text : String) :
    readLength text = if text = "" then .error .empty
      else if unsigned text.toList = [] then .error .invalidDigit
      else extendLength 0 (unsigned text.toList) := by
  simp only [readLength, ← String.toList_eq_nil_iff]
  generalize text.toList = cs
  split <;> simp_all [unsigned]

theorem WritesLength.ne_empty {text : String} {n : Nat} (h : WritesLength text n) : text ≠ "" := by
  rintro rfl
  exact h.ne_nil rfl

theorem readLength_of_writesLength {text : String} {n : Nat} (h : WritesLength text n) :
    readLength text = .ok n := by
  have hfits : Nat.ofDigitChars 10 (unsigned text.toList) 0 < Numeral.wordBound := h.value ▸ h.fits
  have happend := extendLength_append h.isDigit hfits []
  rw [List.append_nil, h.value] at happend
  rw [readLength_eq, if_neg h.ne_empty, if_neg h.ne_nil, happend, extendLength]

theorem readLength_of_isNoLength {text : String} {fault : LengthFault}
    (h : IsNoLength text fault) : readLength text = .error fault := by
  have hempty : unsigned text.toList ≠ [] → text ≠ "" := by
    rintro hne rfl
    exact hne rfl
  rw [readLength_eq]
  cases h with
  | empty h => rw [if_pos h]
  | loneSign hne h => rw [if_neg hne, if_pos h]
  | stray h hdigits hfits hc =>
    have hne : unsigned text.toList ≠ [] := by simp [h]
    rw [if_neg (hempty hne), if_neg hne, h, extendLength_append hdigits hfits,
      extendLength_cons_of_not_isDigit hc]
  | @tooLarge digits rest h hdigits hlarge =>
    have hne : unsigned text.toList ≠ [] := by
      rw [h]
      refine List.append_ne_nil_of_left_ne_nil ?_ rest
      rintro rfl
      exact absurd hlarge (by decide)
    rw [if_neg (hempty hne), if_neg hne, h, extendLength_of_le hdigits (by decide) hlarge]

/-- Every text is a length, or there is a reason why not. -/
theorem writesLength_or_isNoLength (text : String) :
    (∃ n, WritesLength text n) ∨ ∃ fault, IsNoLength text fault := by
  by_cases hempty : text = ""
  · exact .inr ⟨_, .empty hempty⟩
  by_cases hnone : unsigned text.toList = []
  · exact .inr ⟨_, .loneSign hempty hnone⟩
  obtain ⟨digits, rest, hchars, hdigits, hrest⟩ := exists_run Char.isDigit (unsigned text.toList)
  rcases Nat.lt_or_ge (Nat.ofDigitChars 10 digits 0) Numeral.wordBound with hfits | hlarge
  · cases rest with
    | nil =>
      rw [List.append_nil] at hchars
      subst hchars
      exact .inl ⟨_, hnone, hdigits, rfl, hfits⟩
    | cons c rest => exact .inr ⟨_, .stray hchars hdigits hfits (hrest c rfl)⟩
  · exact .inr ⟨_, .tooLarge hchars hdigits hlarge⟩

/-- A text is read as a length exactly where it writes it. -/
theorem readLength_eq_ok_iff {text : String} {n : Nat} :
    readLength text = .ok n ↔ WritesLength text n :=
  (result_iff_of_total (fun _ ↦ readLength_of_writesLength) (fun _ ↦ readLength_of_isNoLength)
    (writesLength_or_isNoLength text)).1 n

/-- A text is refused as a length exactly where it is none, for the reason that comes first. -/
theorem readLength_eq_error_iff {text : String} {fault : LengthFault} :
    readLength text = .error fault ↔ IsNoLength text fault :=
  (result_iff_of_total (fun _ ↦ readLength_of_writesLength) (fun _ ↦ readLength_of_isNoLength)
    (writesLength_or_isNoLength text)).2 fault

end ChatHook
