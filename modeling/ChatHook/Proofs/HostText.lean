import ChatHook.Url.HostText
import Mathlib.Tactic.SplitIfs

/-!
# What hosts are written with

The text of a web host holds no blanks, no controls and none of the characters that divide a URL
(`isHostChar`). A label of a name is checked for them before it is written (`Domain.isSound`), what
Punycode adds to it are letters, digits and hyphens, and addresses are digits, full stops, colons
and brackets.

## Main results

* `isHostChar_of_mem_encode`: Punycode adds no other characters.
* `isPlain_of_specialHost`: the text of a web host.
-/

namespace ChatHook

/-- Whether a character may stand in the text of a web host. -/
def isHostChar (c : Char) : Bool :=
  0x20 < c.toNat && !(['/', '\\', '?', '#', '@'].contains c)

theorem ne_of_isHostChar {c d : Char} (hc : isHostChar c = true) (hd : isHostChar d = false) :
    c ≠ d := by
  rintro rfl
  simp [hc] at hd

/-! ### Letters and digits -/

/-- What is not forbidden in a domain name may stand in the text of a host. -/
theorem isHostChar_of_not_isForbidden {c : Char} (h : Domain.isForbidden c = false) :
    isHostChar c = true := by
  simp only [Domain.isForbidden, Bool.or_eq_false_iff, decide_eq_false_iff_not, Nat.not_le] at h
  obtain ⟨⟨hblank, -⟩, hdelimiter⟩ := h
  simp only [isHostChar, hblank, decide_true, Bool.true_and, Bool.not_eq_true']
  simp only [List.contains_eq_mem, decide_eq_false_iff_not] at hdelimiter ⊢
  intro hmem
  refine hdelimiter ?_
  revert hmem
  simp only [List.mem_cons, List.not_mem_nil, or_false]
  rintro (rfl | rfl | rfl | rfl | rfl) <;> decide

theorem isHostChar_digitChar (n : Nat) : isHostChar n.digitChar = true := by
  by_cases h : n < 16
  · revert h n
    decide
  · rw [Nat.digitChar_eq_star.2 (Nat.not_lt.1 h)]
    rfl

/-- The digits of a number may stand in the text of a host. -/
theorem isHostChar_of_mem_toDigits {base : Nat} (hbase : 1 < base) {n : Nat} {c : Char}
    (h : c ∈ Nat.toDigits base n) : isHostChar c = true := by
  induction n using Nat.strongRecOn with
  | ind n ih =>
    rw [Nat.toDigits_eq_if hbase] at h
    split_ifs at h with hlt
    · rw [List.mem_singleton.1 h]
      exact isHostChar_digitChar n
    · rcases List.mem_append.1 h with h | h
      · exact ih (n / base) (Nat.div_lt_self (by omega) hbase) h
      · rw [List.mem_singleton.1 h]
        exact isHostChar_digitChar _

/-! ### Punycode -/

namespace Domain.Punycode

theorem isHostChar_digit {value : Nat} (h : value < 36) : isHostChar (digit value) = true := by
  revert h value
  decide

theorem threshold_bounds (position bias : Nat) :
    1 ≤ threshold position bias ∧ threshold position bias ≤ 26 := by
  unfold threshold
  split_ifs <;> omega

theorem isHostChar_of_mem_distanceDigits {bias position distance : Nat} {c : Char}
    (h : c ∈ distanceDigits bias position distance) : isHostChar c = true := by
  have hbounds := threshold_bounds position bias
  fun_induction distanceDigits bias position distance with
  | case1 position distance t ht ih =>
    rcases List.mem_cons.1 h with rfl | h
    · have hmod := Nat.mod_lt (distance - t) (Nat.sub_pos_of_lt ht.2.2)
      exact isHostChar_digit (by omega)
    · exact ih h (threshold_bounds _ bias)
  | case2 position distance t ht =>
    rw [List.mem_singleton.1 h]
    exact isHostChar_digit (by omega)

/-- Passing a character writes nothing but digits. -/
theorem isHostChar_of_mem_written_step {code : Nat} {s : Encoding} {c : Char}
    (hs : ∀ d ∈ s.written, isHostChar d = true) :
    ∀ d ∈ (s.step code c).written, isHostChar d = true := by
  intro d hd
  rw [Encoding.step] at hd
  split_ifs at hd
  · exact hs d hd
  · rcases List.mem_append.1 hd with hd | hd
    · exact isHostChar_of_mem_distanceDigits (List.mem_reverse.1 hd)
    · exact hs d hd
  · exact hs d hd

theorem isHostChar_of_mem_written_foldl {code : Nat} (label : List Char) {s : Encoding}
    (hs : ∀ d ∈ s.written, isHostChar d = true) :
    ∀ d ∈ (label.foldl (Encoding.step code) s).written, isHostChar d = true := by
  induction label generalizing s with
  | nil => exact hs
  | cons c label ih => exact ih (isHostChar_of_mem_written_step hs)

theorem isHostChar_of_mem_written_encodeCodes {label : List Char} {before : Nat}
    (codes : List Nat) {s : Encoding} (hs : ∀ d ∈ s.written, isHostChar d = true) :
    ∀ d ∈ (encodeCodes label before codes s).written, isHostChar d = true := by
  induction codes generalizing before s with
  | nil => exact hs
  | cons code codes ih => exact ih (isHostChar_of_mem_written_foldl label hs)

/-- Punycode adds letters, digits and hyphens to the characters that it keeps. -/
theorem isHostChar_of_mem_encode {label : List Char} (hlabel : ∀ c ∈ label, isHostChar c = true)
    {c : Char} (h : c ∈ encode label) : isHostChar c = true := by
  rcases List.mem_append.1 h with hfront | hwritten
  · split_ifs at hfront with hplain
    · simp at hfront
    · rcases List.mem_append.1 hfront with hkept | hhyphen
      · exact hlabel c (List.mem_filter.1 hkept).1
      · rw [List.mem_singleton.1 hhyphen]
        rfl
  · exact isHostChar_of_mem_written_encodeCodes _ (by simp) c (List.mem_reverse.1 hwritten)

end Domain.Punycode

/-! ### Names -/

theorem exists_mem_of_mem_mapM {α β : Type} {f : α → Option β} {xs : List α} {ys : List β}
    (h : xs.mapM f = some ys) {y : β} (hy : y ∈ ys) : ∃ x ∈ xs, f x = some y := by
  induction xs generalizing ys with
  | nil =>
    obtain rfl : [] = ys := by simpa using h
    simp at hy
  | cons x xs ih =>
    simp only [List.mapM_cons, Option.bind_eq_bind, Option.bind_eq_some_iff, Option.pure_def,
      Option.some.injEq] at h
    obtain ⟨z, hz, zs, hzs, rfl⟩ := h
    rcases List.mem_cons.1 hy with rfl | hy
    · exact ⟨x, List.mem_cons_self, hz⟩
    · obtain ⟨x', hx', hfx⟩ := ih hzs hy
      exact ⟨x', List.mem_cons_of_mem x hx', hfx⟩

theorem mem_intercalate_singleton {α : Type} {separator a : α} {parts : List (List α)}
    (h : a ∈ [separator].intercalate parts) : a = separator ∨ ∃ part ∈ parts, a ∈ part := by
  induction parts with
  | nil => simp at h
  | cons part parts ih =>
    by_cases hparts : parts = []
    · subst hparts
      rw [List.intercalate_singleton] at h
      exact .inr ⟨part, List.mem_cons_self, h⟩
    · rw [List.intercalate_cons_of_ne_nil hparts, List.append_assoc] at h
      rcases List.mem_append.1 h with h | h
      · exact .inr ⟨part, List.mem_cons_self, h⟩
      · rcases List.mem_cons.1 h with h | h
        · exact .inl h
        · rcases ih h with h | ⟨part', hpart', h⟩
          · exact .inl h
          · exact .inr ⟨part', List.mem_cons_of_mem part hpart', h⟩

namespace Domain

/-- A label that is let through holds nothing forbidden. -/
theorem isHostChar_of_mem_label? {cs label : List Char} (h : label? cs = some label) {c : Char}
    (hc : c ∈ label) : isHostChar c = true := by
  have hsound : isSound label = true := by
    rw [label?] at h
    split_ifs at h with hcarried hsound
    · exact (Option.filter_eq_some_iff.1 h).2
    · rwa [← Option.some.inj h]
  simp only [isSound, Bool.and_eq_true, Bool.not_eq_true', List.any_eq_false,
    Bool.not_eq_true] at hsound
  exact isHostChar_of_not_isForbidden (hsound.1.2 c hc)

theorem isHostChar_of_mem_asciiLabel? {label written : List Char}
    (h : asciiLabel? label = some written) (hlabel : ∀ c ∈ label, isHostChar c = true) {c : Char}
    (hc : c ∈ written) : isHostChar c = true := by
  rw [asciiLabel?] at h
  split_ifs at h
  · exact hlabel c (by rwa [Option.some.inj h])
  · rw [← Option.some.inj h] at hc
    rcases List.mem_append.1 hc with hmark | hcode
    · revert hmark
      simp only [List.mem_cons, List.not_mem_nil, or_false]
      rintro (rfl | rfl | rfl | rfl) <;> rfl
    · exact Punycode.isHostChar_of_mem_encode hlabel hcode

/-- The ASCII form of a name. -/
theorem isHostChar_of_mem_toAscii? {cs name : List Char} (h : toAscii? cs = some name) {c : Char}
    (hc : c ∈ name) : isHostChar c = true := by
  simp only [toAscii?] at h
  split at h
  · simp at h
  · split at h
    · simp at h
    · rename_i labels hlabels
      split_ifs at h
      obtain ⟨written, hwritten, rfl⟩ := Option.map_eq_some_iff.1 h
      rcases mem_intercalate_singleton hc with rfl | ⟨part, hpart, hc⟩
      · rfl
      · obtain ⟨label, hlabel, hascii⟩ := exists_mem_of_mem_mapM hwritten hpart
        obtain ⟨source, -, hsource⟩ := exists_mem_of_mem_mapM hlabels hlabel
        exact isHostChar_of_mem_asciiLabel? hascii
          (fun c hc ↦ isHostChar_of_mem_label? hsource hc) hc

theorem isHostChar_of_mem_ofBytes? {bytes : Bytes} {name : List Char}
    (h : ofBytes? bytes = some name) {c : Char} (hc : c ∈ name) : isHostChar c = true := by
  obtain ⟨text, -, htext⟩ := Option.bind_eq_some_iff.1 h
  exact isHostChar_of_mem_toAscii? htext hc

end Domain

/-! ### Hosts -/

namespace Url

/-- A host is written with the characters of a host, and with at least one of them. -/
def Host.IsPlain (host : Host) : Prop :=
  host.text ≠ "" ∧ ∀ c ∈ host.text.toList, isHostChar c = true

theorem isHostChar_of_mem_piecesText {pieces : List Nat} {c : Char} (h : c ∈ piecesText pieces) :
    isHostChar c = true := by
  rcases mem_intercalate_singleton h with rfl | ⟨part, hpart, hc⟩
  · rfl
  · obtain ⟨piece, -, rfl⟩ := List.mem_map.1 hpart
    exact isHostChar_of_mem_toDigits (by decide) hc

theorem isPlain_ipv4 (address : Nat) : (Host.ipv4 address).IsPlain := by
  refine ⟨by simp [Host.text, String.intercalate_cons_cons], fun c hc ↦ ?_⟩
  rw [Host.text, String.toList_intercalate] at hc
  rcases mem_intercalate_singleton hc with rfl | ⟨part, hpart, hc⟩
  · rfl
  · rw [List.map_map] at hpart
    obtain ⟨shift, -, rfl⟩ := List.mem_map.1 hpart
    rw [Function.comp_apply, Nat.toString_eq_ofList_toDigits, String.toList_ofList] at hc
    exact isHostChar_of_mem_toDigits (by decide) hc

theorem isPlain_ipv6 (pieces : List Nat) : (Host.ipv6 pieces).IsPlain := by
  refine ⟨by simp [Host.text], fun c hc ↦ ?_⟩
  have hbody : ∀ front back : List Nat, c ∈ piecesText front ++ [':', ':'] ++ piecesText back →
      isHostChar c = true := by
    intro front back h
    simp only [List.mem_append, List.mem_cons, List.not_mem_nil, or_false] at h
    rcases h with (h | rfl | rfl) | h
    · exact isHostChar_of_mem_piecesText h
    · rfl
    · rfl
    · exact isHostChar_of_mem_piecesText h
  simp only [Host.text, String.toList_ofList, List.mem_append, List.mem_cons,
    List.not_mem_nil, or_false] at hc
  rcases hc with (rfl | hc) | rfl
  · rfl
  · split_ifs at hc
    · exact isHostChar_of_mem_piecesText hc
    · exact hbody _ _ hc
  · rfl

theorem isPlain_of_bracketHost {cs : List Char} {host : Host} (h : bracketHost cs = .ok host) :
    host.IsPlain := by
  rw [bracketHost.eq_def] at h
  split at h
  · split at h
    · rw [← Except.ok.inj h]
      exact isPlain_ipv6 _
    · simp at h
  · simp at h

/-- The host of a web address is written with nothing but the characters of a host. -/
theorem isPlain_of_specialHost {cs : List Char} {host : Host} (h : specialHost cs = .ok host) :
    host.IsPlain := by
  rw [specialHost] at h
  split_ifs at h
  · exact isPlain_of_bracketHost h
  · split at h
    · simp at h
    · rename_i name hname
      split_ifs at h with hempty
      · split at h
        · rw [← Except.ok.inj h]
          exact isPlain_ipv4 _
        · simp at h
      · rw [← Except.ok.inj h]
        refine ⟨by simpa [Host.text] using hempty, fun c hc ↦ ?_⟩
        rw [Host.text, String.toList_ofList] at hc
        exact Domain.isHostChar_of_mem_ofBytes? hname hc

end Url

end ChatHook
