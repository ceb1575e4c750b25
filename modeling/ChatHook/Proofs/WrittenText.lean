import ChatHook.Text.Blank
import ChatHook.Text.Numeral
import ChatHook.Text.Utf8
import Mathlib.Data.Bool.AllAny
import Mathlib.Data.List.DropRight
import Mathlib.Data.List.TakeWhile
import Mathlib.Tactic.SplitIfs

/-!
# Texts and how they are written

What trimming and cutting into words leave of a text that is put together from parts, which bytes
stand in the encoding of a text, and how a number is read from its digits by a reader that takes
them one by one (`read_toDigits`).

## Main results

* `Text.trim_between`: blanks around a text do not count.
* `Text.words_append_cons`: a blank divides the words of a text.
* `Text.words_eq_cons_iff`: where the first word of a text stands.
* `Utf8.mem_of_mem_encode`: a byte of ASCII stands for nothing but its character.
* `read_toDigits`: the digits of a number are read as the number.
-/

namespace ChatHook

/-- A text starts with the longest run of characters of one kind. -/
theorem exists_run (p : Char → Bool) (cs : List Char) :
    ∃ front back, cs = front ++ back ∧ (∀ c ∈ front, p c = true) ∧
      ∀ c ∈ back.head?, p c = false := by
  refine ⟨cs.takeWhile p, cs.dropWhile p, List.takeWhile_append_dropWhile.symm,
    fun c hc ↦ List.mem_takeWhile_imp hc, fun c hc ↦ ?_⟩
  have hhead := List.head?_dropWhile_not p cs
  rw [Option.mem_def.1 hc] at hhead
  exact hhead

/-! ### Blanks -/

namespace Text

theorem trimEnd_append_cons {c : Char} (hc : isBlank c = false) (front tail : List Char) :
    trimEnd (front ++ c :: tail) = front ++ c :: trimEnd tail := by
  have hkept : (c :: front.reverse).dropWhile isBlank = c :: front.reverse :=
    List.dropWhile_cons_of_neg (by simp [hc])
  simp only [trimEnd, List.reverse_append, List.reverse_cons, List.append_assoc,
    List.singleton_append, List.dropWhile_append, hkept]
  split_ifs with hempty
  · simp [List.isEmpty_iff.1 hempty]
  · simp

theorem trimEnd_eq_nil_iff {cs : List Char} : trimEnd cs = [] ↔ ∀ c ∈ cs, isBlank c = true :=
  List.rdropWhile_eq_nil_iff

theorem trimEnd_trimEnd (cs : List Char) : trimEnd (trimEnd cs) = trimEnd cs :=
  List.rdropWhile_idempotent isBlank cs

theorem trimEnd_append_of_blank (cs : List Char) {blanks : List Char}
    (h : ∀ c ∈ blanks, isBlank c = true) : trimEnd (cs ++ blanks) = trimEnd cs := by
  rw [trimEnd, List.reverse_append,
    List.dropWhile_append_of_pos fun c hc ↦ h c (List.mem_reverse.1 hc), trimEnd]

/-- Trimming does not mind whether the end is trimmed already. -/
theorem trim_trimEnd (cs : List Char) : trim (trimEnd cs) = trim cs := by
  cases hstart : trimStart cs with
  | nil =>
    have hblank : ∀ c ∈ cs, isBlank c = true := List.dropWhile_eq_nil_iff.1 hstart
    have hend : trimEnd cs = [] := trimEnd_eq_nil_iff.2 hblank
    rw [hend, trim, trim, hstart]
    rfl
  | cons c tail =>
    have hc : isBlank c = false := by
      have hhead := List.head_dropWhile_not isBlank (l := cs) (by
        rw [show cs.dropWhile isBlank = c :: tail from hstart]
        exact List.cons_ne_nil c tail)
      simpa [show cs.dropWhile isBlank = c :: tail from hstart] using hhead
    have hcs : cs = cs.takeWhile isBlank ++ c :: tail := by
      rw [← show cs.dropWhile isBlank = c :: tail from hstart, List.takeWhile_append_dropWhile]
    have hblank : ∀ b ∈ cs.takeWhile isBlank, isBlank b = true := fun b hb ↦ by
      simpa using List.mem_takeWhile_imp hb
    have hshort : trimStart (trimEnd cs) = c :: trimEnd tail := by
      rw [hcs, trimEnd_append_cons hc, trimStart, List.dropWhile_append_of_pos hblank,
        List.dropWhile_cons_of_neg (by simp [hc])]
    rw [trim, trim, hshort, hstart]
    have hend := trimEnd_append_cons hc []
    simp only [List.nil_append] at hend
    rw [hend, hend, trimEnd_trimEnd]

/-- Blanks around a text do not count. -/
theorem trim_between {front back : List Char} (hfront : ∀ c ∈ front, isBlank c = true)
    (hback : ∀ c ∈ back, isBlank c = true) (cs : List Char) :
    trim (front ++ (cs ++ back)) = trim cs := by
  have hstart : trim (front ++ (cs ++ back)) = trim (cs ++ back) := by
    rw [trim, trimStart, List.dropWhile_append_of_pos hfront, trim, trimStart]
  rw [hstart, ← trim_trimEnd, trimEnd_append_of_blank cs hback, trim_trimEnd]

theorem trim_of_no_blank {cs : List Char} (h : ∀ c ∈ cs, isBlank c = false) : trim cs = cs := by
  cases cs with
  | nil => rfl
  | cons c cs =>
    have hstart : trimStart (c :: cs) = c :: cs :=
      List.dropWhile_cons_of_neg (by simp [h c List.mem_cons_self])
    rw [trim, hstart]
    refine List.rdropWhile_eq_self_iff.2 fun hne ↦ ?_
    simp [h _ (List.getLast_mem hne)]

theorem isBlank_of_isDigit {c : Char} (h : c.isDigit = true) : isBlank c = false := by
  have hrange : 48 ≤ c.toNat ∧ c.toNat ≤ 57 := by
    simpa [Char.isDigit, UInt32.le_iff_toNat_le] using h
  simp only [isBlank, Bool.or_eq_false_iff, Bool.and_eq_false_iff, decide_eq_false_iff_not]
  omega

theorem lf_notMem_of_no_blank {cs : List Char} (h : ∀ c ∈ cs, isBlank c = false) : '\n' ∉ cs := by
  intro hmem
  have hblank : isBlank '\n' = true := by decide
  rw [h _ hmem] at hblank
  exact Bool.false_ne_true hblank

/-- A blank divides the words of a text. -/
theorem words_append_cons {b : Char} (hb : isBlank b = true) (front back : List Char) :
    words (front ++ b :: back) = words front ++ words back := by
  rw [words, List.splitOnP_append_cons front back hb, List.filter_append, words, words]

theorem words_of_no_blank {word : List Char} (hne : word ≠ [])
    (h : ∀ c ∈ word, isBlank c = false) : words word = [word] := by
  rw [words, List.splitOnP_eq_singleton h, List.filter_cons_of_pos (by simpa using hne),
    List.filter_nil]

/-- Blanks in front of a text do not count for its words. -/
theorem words_append_of_blank {blanks : List Char} (h : ∀ b ∈ blanks, isBlank b = true)
    (cs : List Char) : words (blanks ++ cs) = words cs := by
  induction blanks with
  | nil => rfl
  | cons b blanks ih =>
    obtain ⟨hb, hblanks⟩ := List.forall_mem_cons.1 h
    rw [List.cons_append, ← ih hblanks]
    exact words_append_cons hb [] (blanks ++ cs)

/-- A word ends at a blank or with the text. -/
theorem words_append_of_no_blank {word : List Char} (hne : word ≠ [])
    (h : ∀ c ∈ word, isBlank c = false) {tail : List Char}
    (htail : ∀ c ∈ tail.head?, isBlank c = true) : words (word ++ tail) = word :: words tail := by
  cases tail with
  | nil =>
    rw [List.append_nil, words_of_no_blank hne h]
    rfl
  | cons b tail =>
    have hb : isBlank b = true := htail b rfl
    rw [words_append_cons hb, words_of_no_blank hne h, List.singleton_append]
    exact congrArg (word :: ·) (words_append_cons hb [] tail).symm

/-- The first word of a text stands behind blanks. -/
theorem words_eq_cons_iff {cs word : List Char} {others : List (List Char)} :
    words cs = word :: others ↔ ∃ front tail, cs = front ++ (word ++ tail) ∧
      (∀ c ∈ front, isBlank c = true) ∧ word ≠ [] ∧ (∀ c ∈ word, isBlank c = false) ∧
      (∀ c ∈ tail.head?, isBlank c = true) ∧ words tail = others := by
  constructor
  · intro h
    obtain ⟨front, behind, rfl, hfront, hbehind⟩ := exists_run isBlank cs
    obtain ⟨word', tail, rfl, hword, htail⟩ := exists_run (!isBlank ·) behind
    simp only [Bool.not_eq_true', Bool.not_eq_false'] at hword htail
    rw [words_append_of_blank hfront] at h
    have hne : word' ≠ [] := by
      rintro rfl
      -- What stands behind the blanks starts with none, and here it would start with one.
      cases tail with
      | nil => cases h
      | cons c tail => exact Bool.false_ne_true ((hbehind c rfl).symm.trans (htail c rfl))
    rw [words_append_of_no_blank hne hword htail] at h
    obtain ⟨rfl, rfl⟩ := List.cons.inj h
    exact ⟨front, tail, rfl, hfront, hne, hword, htail, rfl⟩
  · rintro ⟨front, tail, rfl, hfront, hne, hword, htail, rfl⟩
    rw [words_append_of_blank hfront, words_append_of_no_blank hne hword htail]

end Text

/-! ### Bytes of a text -/

namespace Utf8

/-- Bytes that no text encodes are not read back. -/
theorem decode?_eq_none_iff {bytes : Bytes} :
    decode? bytes = none ↔ ∀ text, encode text ≠ bytes := by
  rw [Option.eq_none_iff_forall_ne_some]
  exact forall_congr' fun text ↦ not_congr (decode?_eq_some_iff.trans eq_comm)

theorem encode_append (a b : String) : encode (a ++ b) = encode a ++ encode b := by
  simp [encode, String.toByteArray_append]

theorem encode_eq_flatMap (text : String) :
    encode text = text.toList.flatMap String.utf8EncodeChar := by
  have hbytes := String.toByteArray_ofList (l := text.toList)
  rw [String.ofList_toList] at hbytes
  simp [encode, hbytes, List.utf8Encode]

theorem encode_join (texts : List String) : encode (String.join texts) = texts.flatMap encode := by
  rw [encode_eq_flatMap, String.toList_join, List.flatMap_assoc]
  exact List.flatMap_congr fun text _ ↦ (encode_eq_flatMap text).symm

/-- A byte of ASCII is written for its own character only. -/
theorem toNat_of_mem_utf8EncodeChar {c : Char} {b : UInt8} (hb : b.toNat < 0x80)
    (h : b ∈ String.utf8EncodeChar c) : c.toNat = b.toNat := by
  have hc : c.val.toNat = c.toNat := rfl
  -- The bytes of longer forms are not below `0x80`.
  have hhigh : ∀ m n, 0x80 ≤ m → m + n ≤ 0xFF → ¬(UInt8.ofNat (n + m)).toNat < 0x80 := by
    intro m n hm hn
    rw [UInt8.toNat_ofNat']
    omega
  simp only [String.utf8EncodeChar, hc] at h
  split_ifs at h with h1 h2 h3
  · rw [List.mem_singleton.1 h, UInt8.toNat_ofNat']
    omega
  · simp only [List.mem_cons, List.not_mem_nil, or_false] at h
    rcases h with rfl | rfl
    · exact absurd hb (hhigh _ _ (by omega) (by omega))
    · exact absurd hb (hhigh _ _ (by omega) (by omega))
  · simp only [List.mem_cons, List.not_mem_nil, or_false] at h
    rcases h with rfl | rfl | rfl
    · exact absurd hb (hhigh _ _ (by omega) (by omega))
    · exact absurd hb (hhigh _ _ (by omega) (by omega))
    · exact absurd hb (hhigh _ _ (by omega) (by omega))
  · simp only [List.mem_cons, List.not_mem_nil, or_false] at h
    rcases h with rfl | rfl | rfl | rfl
    · exact absurd hb (hhigh _ _ (by omega) (by omega))
    · exact absurd hb (hhigh _ _ (by omega) (by omega))
    · exact absurd hb (hhigh _ _ (by omega) (by omega))
    · exact absurd hb (hhigh _ _ (by omega) (by omega))

/-- A byte of ASCII stands in an encoding only where its character stands in the text. -/
theorem mem_of_mem_encode {c : Char} (hc : c.toNat < 0x80) {b : UInt8} (hb : b.toNat = c.toNat)
    {text : String} (h : b ∈ encode text) : c ∈ text.toList := by
  rw [encode_eq_flatMap, List.mem_flatMap] at h
  obtain ⟨d, hd, hbyte⟩ := h
  have hcd : d.toNat = c.toNat := (toNat_of_mem_utf8EncodeChar (hb ▸ hc) hbyte).trans hb
  rwa [← Char.toNat_inj.1 hcd]

end Utf8

/-! ### Numbers -/

/-- A reader that takes digits one by one, as long as the number does not reach a bound, reads the
digits of a number as the number. -/
theorem read_toDigits {R : Type} (read : Nat → List Char → R) {bound : Nat}
    (hstep : ∀ m d rest, d < 10 → m * 10 + d < bound →
      read m (d.digitChar :: rest) = read (m * 10 + d) rest)
    {n : Nat} (h : n < bound) (rest : List Char) :
    read 0 (Nat.toDigits 10 n ++ rest) = read n rest := by
  induction n using Nat.strongRecOn generalizing rest with
  | ind n ih =>
    rcases Nat.lt_or_ge n 10 with hlt | hle
    · rw [Nat.toDigits_of_lt_base hlt, List.singleton_append, hstep 0 n rest hlt (by omega),
        Nat.zero_mul, Nat.zero_add]
    · have hmod := Nat.div_add_mod' n 10
      rw [Nat.toDigits_of_base_le (by decide) hle, List.append_assoc, List.singleton_append,
        ih (n / 10) (by omega) (by omega), hstep (n / 10) (n % 10) rest (by omega) (by omega), hmod]

theorem toList_toString (n : Nat) : (toString n).toList = Nat.toDigits 10 n := by
  rw [Nat.toString_eq_ofList_toDigits, String.toList_ofList]

/-- A number is written by digits. -/
theorem isDigit_of_mem_toString {n : Nat} {c : Char} (h : c ∈ (toString n).toList) :
    c.isDigit = true := by
  rw [toList_toString] at h
  exact Nat.isDigit_of_mem_toDigits (by decide) (by decide) h

end ChatHook
