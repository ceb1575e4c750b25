import ChatHook.Capture
import ChatHook.Proofs.WrittenText

/-!
# The lines of a request

A head is read line by line. A line ends with its line feed, or where the bytes end (`IsLine`), so
bytes start with one line and only one. What a line comes to depends on nothing behind it: the first
one has two words or is refused, and of the others a blank one ends the headers, one with a colon is
a header in front of the headers behind it, and every other one is refused. Blanks at the end of a
line are taken off before it is looked at, which no colon and no value notices.

## Main results

* `exists_isLine`, `cutLine_of_isLine`: bytes are cut behind their first line.
* `firstWords_iff`, `readRequestLine_eq_ok_iff`: which first lines have a method and a path.
* `readHeaders_of_blank`, `readHeaders_of_header`: what a line of the headers comes to.
-/

namespace ChatHook

/-! ### Lines -/

/-- Bytes are a line in front of others: they end with their only line feed, or have none and
nothing stands behind them. -/
inductive IsLine : Bytes → Bytes → Prop
  | ended {content : Bytes} (h : 0x0A ∉ content) (rest : Bytes) : IsLine (content ++ [0x0A]) rest
  | last {line : Bytes} (h : 0x0A ∉ line) : IsLine line []

theorem cutLine_append {content : Bytes} (h : 0x0A ∉ content) (rest : Bytes) :
    cutLine (content ++ 0x0A :: rest) = (content ++ [0x0A], rest) := by
  induction content with
  | nil => rfl
  | cons b content ih =>
    have hb : b ≠ 0x0A := fun hb ↦ h (hb ▸ List.mem_cons_self)
    rw [List.cons_append, cutLine, if_neg hb, ih fun hmem ↦ h (List.mem_cons_of_mem b hmem)]
    rfl

theorem cutLine_of_notMem {line : Bytes} (h : 0x0A ∉ line) : cutLine line = (line, []) := by
  induction line with
  | nil => rfl
  | cons b line ih =>
    have hb : b ≠ 0x0A := fun hb ↦ h (hb ▸ List.mem_cons_self)
    rw [cutLine, if_neg hb, ih fun hmem ↦ h (List.mem_cons_of_mem b hmem)]

/-- Bytes are cut behind their first line. -/
theorem cutLine_of_isLine {line rest : Bytes} (h : IsLine line rest) :
    cutLine (line ++ rest) = (line, rest) := by
  cases h with
  | ended h => rw [List.append_assoc, List.singleton_append, cutLine_append h]
  | last h => rw [List.append_nil, cutLine_of_notMem h]

/-- Bytes start with a line. -/
theorem exists_isLine (bytes : Bytes) : ∃ line rest, bytes = line ++ rest ∧ IsLine line rest := by
  by_cases h : 0x0A ∈ bytes
  · obtain ⟨content, rest, rfl, hcontent⟩ := List.eq_append_cons_of_mem h
    exact ⟨content ++ [0x0A], rest, by simp, .ended hcontent rest⟩
  · exact ⟨bytes, [], (List.append_nil bytes).symm, .last h⟩

/-- A line is one in front of any other bytes, if something stands behind it. -/
theorem IsLine.of_ne_nil {line rest : Bytes} (h : IsLine line rest) (hrest : rest ≠ [])
    (rest' : Bytes) : IsLine line rest' := by
  cases h with
  | ended h => exact .ended h rest'
  | last h => exact absurd rfl hrest

/-- Only where nothing is left a line has no bytes. -/
theorem IsLine.length_lt {line rest : Bytes} (h : IsLine line rest) (hne : line ++ rest ≠ []) :
    rest.length < (line ++ rest).length := by
  cases h with
  | ended =>
    rw [List.length_append, List.length_append]
    exact Nat.lt_add_of_pos_left (Nat.succ_pos _)
  | last => simpa [List.length_pos_iff] using hne

theorem isLine_encode {content : String} (h : '\n' ∉ content.toList) (rest : Bytes) :
    IsLine (Utf8.encode (content ++ "\n")) rest := by
  have hlf : Utf8.encode "\n" = [0x0A] := by decide
  rw [Utf8.encode_append, hlf]
  exact .ended (fun hmem ↦ h (Utf8.mem_of_mem_encode (by decide) rfl hmem)) rest

/-! ### The first line -/

/-- A word of a line: characters, at least one, none of which is a blank. -/
structure IsWord (word : String) : Prop where
  ne_empty : word ≠ ""
  isBlank : ∀ c ∈ word.toList, Text.isBlank c = false

/-- The first two words of a line. Blanks may stand in front of them, at least one stands between
them, and the second one ends at a blank or with the line. -/
inductive FirstWords (first second : String) : String → Prop
  | intro {front gap tail : String} (hfront : ∀ c ∈ front.toList, Text.isBlank c = true)
      (hfirst : IsWord first) (hne : gap ≠ "") (hgap : ∀ c ∈ gap.toList, Text.isBlank c = true)
      (hsecond : IsWord second) (htail : ∀ c ∈ tail.toList.head?, Text.isBlank c = true) :
      FirstWords first second (front ++ first ++ gap ++ second ++ tail)

/-- The first two words stand first when a line is cut at its blanks. -/
theorem FirstWords.exists_words {first second line : String} (h : FirstWords first second line) :
    ∃ others, Text.words line.toList = first.toList :: second.toList :: others := by
  cases h with
  | @intro front gap tail hfront hfirst hne hgap hsecond htail =>
    have hsecondWords : Text.words (gap.toList ++ (second.toList ++ tail.toList)) =
        second.toList :: Text.words tail.toList :=
      Text.words_eq_cons_iff.2 ⟨_, _, rfl, hgap, by simpa using hsecond.ne_empty, hsecond.isBlank,
        htail, rfl⟩
    have hbehind : ∀ c ∈ (gap.toList ++ (second.toList ++ tail.toList)).head?,
        Text.isBlank c = true := by
      obtain ⟨c, cs, hcs⟩ := List.exists_cons_of_ne_nil (by simpa using hne : gap.toList ≠ [])
      simpa [hcs] using hgap c (hcs ▸ List.mem_cons_self)
    exact ⟨Text.words tail.toList, Text.words_eq_cons_iff.2 ⟨front.toList, _, by simp, hfront,
      by simpa using hfirst.ne_empty, hfirst.isBlank, hbehind, hsecondWords⟩⟩

theorem firstWords_of_words {first second line : String} {others : List (List Char)}
    (h : Text.words line.toList = first.toList :: second.toList :: others) :
    FirstWords first second line := by
  obtain ⟨front, behind, hline, hfront, hfirst, hfirstWord, hbehind, h⟩ :=
    Text.words_eq_cons_iff.1 h
  obtain ⟨gap, tail, rfl, hgap, hsecond, hsecondWord, htail, -⟩ := Text.words_eq_cons_iff.1 h
  have hne : gap ≠ [] := by
    -- Otherwise the second word would start with a blank.
    rintro rfl
    obtain ⟨c, cs, hcs⟩ := List.exists_cons_of_ne_nil hsecond
    rw [hcs] at hbehind hsecondWord
    exact Bool.false_ne_true ((hsecondWord c List.mem_cons_self).symm.trans (hbehind c rfl))
  have hparts : line = String.ofList front ++ first ++ String.ofList gap ++ second ++
      String.ofList tail := by
    rw [← String.toList_inj]
    simp [hline]
  rw [hparts]
  exact .intro (by simpa using hfront) ⟨by simpa using hfirst, hfirstWord⟩ (by simpa using hne)
    (by simpa using hgap) ⟨by simpa using hsecond, hsecondWord⟩ (by simpa using htail)

theorem firstWords_iff {first second line : String} : FirstWords first second line ↔
    ∃ others, Text.words line.toList = first.toList :: second.toList :: others :=
  ⟨FirstWords.exists_words, fun ⟨_, h⟩ ↦ firstWords_of_words h⟩

/-- A method and a path are read exactly where they are the first two words. -/
theorem readRequestLine_eq_ok_iff {line method path : String} :
    readRequestLine line = .ok (method, path) ↔ FirstWords method path line := by
  rw [firstWords_iff, readRequestLine]
  split
  · rename_i first second others hwords
    simp [hwords, ← String.toList_inj]
  · rename_i hwords
    simp only [reduceCtorEq, false_iff]
    rintro ⟨others, h⟩
    exact hwords _ _ _ h

/-- A first line is refused exactly where it has no two words. -/
theorem readRequestLine_eq_error_iff {line : String} {fault : CaptureFault} :
    readRequestLine line = .error fault ↔
      fault = .missingPart ∧ ∀ method path, ¬FirstWords method path line := by
  simp only [← readRequestLine_eq_ok_iff]
  rw [readRequestLine]
  split <;> simp [eq_comm]

/-! ### Lines of headers -/

/-- A header without the blanks around its name and its value. -/
def Captured.trimmed (header : String × String) : String × String :=
  (String.ofList (Text.trim header.1.toList), String.ofList (Text.trim header.2.toList))

/-- A header is read from its line, whose name ends at the first colon. -/
theorem readHeaderLine_of_colon {name : String} (h : ':' ∉ name.toList) (value : String) :
    readHeaderLine (Text.trimEnd (name ++ ":" ++ value).toList) =
      .ok (Captured.trimmed (name, value)) := by
  have hname : ∀ c ∈ name.toList, decide (c ≠ ':') = true := fun c hc ↦
    decide_eq_true fun hcolon ↦ h (hcolon ▸ hc)
  have hline : Text.trimEnd (name ++ ":" ++ value).toList =
      name.toList ++ ':' :: Text.trimEnd value.toList := by
    have hcolon : (":" : String).toList = [':'] := rfl
    rw [String.toList_append, String.toList_append, hcolon, List.append_assoc,
      List.singleton_append, Text.trimEnd_append_cons (by decide)]
  have htake : (name.toList ++ ':' :: Text.trimEnd value.toList).takeWhile (· ≠ ':') =
      name.toList := by
    rw [List.takeWhile_append_of_pos hname, List.takeWhile_cons_of_neg (by decide), List.append_nil]
  simp only [readHeaderLine, hline, htake, List.drop_left, Text.trim_trimEnd]
  rfl

theorem readHeaderLine_of_notMem {line : List Char} (h : ':' ∉ line) :
    readHeaderLine (Text.trimEnd line) = .error .missingPart := by
  have hline : ∀ c ∈ Text.trimEnd line, decide (c ≠ ':') = true := fun c hc ↦
    decide_eq_true fun hcolon ↦ h (hcolon ▸ (List.rdropWhile_prefix Text.isBlank line).subset hc)
  simp only [readHeaderLine, List.takeWhile_eq_self_iff.2 hline, List.drop_length]

section

variable {line : String} {rest : Bytes}

/-- Headers are read line by line. -/
theorem readHeaders_of_isLine (h : IsLine (Utf8.encode line) rest) :
    readHeaders (Utf8.encode line ++ rest) =
      if Text.trimEnd line.toList = [] then .ok ([], rest)
      else match readHeaderLine (Text.trimEnd line.toList) with
        | .error fault => .error fault
        | .ok header =>
          (readHeaders rest).map fun (headers, after) ↦ (header :: headers, after) := by
  have hempty : Utf8.encode line = [] → Text.trimEnd line.toList = [] := by
    intro hbytes
    obtain rfl : line = "" := Utf8.encode_injective hbytes
    rfl
  rw [readHeaders]
  simp only [cutLine_of_isLine h, Utf8.decode?_encode, or_iff_right_of_imp hempty]
  rfl

/-- A blank line ends the headers. -/
theorem readHeaders_of_blank (h : IsLine (Utf8.encode line) rest)
    (hblank : ∀ c ∈ line.toList, Text.isBlank c = true) :
    readHeaders (Utf8.encode line ++ rest) = .ok ([], rest) := by
  rw [readHeaders_of_isLine h, if_pos (Text.trimEnd_eq_nil_iff.2 hblank)]

/-- A line with a colon is a header. -/
theorem readHeaders_of_header {name value : String} (hname : ':' ∉ name.toList)
    (h : IsLine (Utf8.encode (name ++ ":" ++ value)) rest) :
    readHeaders (Utf8.encode (name ++ ":" ++ value) ++ rest) =
      (readHeaders rest).map fun (headers, after) ↦
        (Captured.trimmed (name, value) :: headers, after) := by
  have hnonempty : Text.trimEnd (name ++ ":" ++ value).toList ≠ [] := fun hempty ↦
    absurd (Text.trimEnd_eq_nil_iff.1 hempty ':' (by simp)) (by decide)
  rw [readHeaders_of_isLine h, if_neg hnonempty, readHeaderLine_of_colon hname]

/-- A line that is not blank is refused without a colon. -/
theorem readHeaders_of_notMem (h : IsLine (Utf8.encode line) rest)
    (hnonblank : ¬∀ c ∈ line.toList, Text.isBlank c = true) (hcolon : ':' ∉ line.toList) :
    readHeaders (Utf8.encode line ++ rest) = .error .missingPart := by
  have hnonempty : Text.trimEnd line.toList ≠ [] := fun hempty ↦
    hnonblank (Text.trimEnd_eq_nil_iff.1 hempty)
  rw [readHeaders_of_isLine h, if_neg hnonempty, readHeaderLine_of_notMem hcolon]

theorem readHeaders_of_notText {line : Bytes} (h : IsLine line rest)
    (htext : ∀ text, Utf8.encode text ≠ line) :
    readHeaders (line ++ rest) = .error .lineNotText := by
  rw [readHeaders, cutLine_of_isLine h]
  simp only [Utf8.decode?_eq_none_iff.2 htext]

end

end ChatHook
