import ChatHook.Http.Request
import ChatHook.Proofs.HeadLines
import ChatHook.Proofs.LengthText

/-!
# Written requests are captured

What a client writes on a connection, the reader of captured requests takes apart again: lines end
where the writer ended them, since neither targets nor header values have line feeds; of the words
of the first line the second one is the target, since targets have no blanks; names end at the first
colon, and values lose nothing but blanks around them (`Captured.shown`). The length that stands in
a header is read as the number that was written, and so the body is the one that was sent, whatever
is in it.

## Main results

* `readHeaders_lines`: header lines are read back.
* `readLength_toString`: a written length is read back.
* `capture_wire`: a written request is read back.
-/

namespace ChatHook

/-! ### Lengths -/

/-- A written length is read back, as long as a machine word holds it. -/
theorem readLength_toString {n : Nat} (h : n < Numeral.wordBound) :
    readLength (toString n) = .ok n := by
  have hdigits : ∀ c ∈ (toString n).toList, c.isDigit = true := fun c hc ↦
    isDigit_of_mem_toString hc
  have hchars : unsigned (toString n).toList = Nat.toDigits 10 n := by
    rw [unsigned_of_isDigit hdigits, toList_toString]
  refine readLength_of_writesLength ⟨?_, ?_, ?_, h⟩
  · rw [hchars]
    exact Nat.toDigits_ne_nil
  · rwa [unsigned_of_isDigit hdigits]
  · rw [hchars, Nat.ofDigitChars_ten_toDigits]

/-! ### Headers -/

/-- The line that a header is written in. -/
def headerLine (header : String × String) : String :=
  header.1 ++ ": " ++ header.2 ++ "\r\n"

/-- A header fits into one line: its name ends at the first colon, and its value does not end the
line. -/
structure IsHeader (header : String × String) : Prop where
  colon_notMem : ':' ∉ header.1.toList
  isBlank_of_mem : ∀ c ∈ header.1.toList, Text.isBlank c = false
  lf_notMem : '\n' ∉ header.2.toList

/-- A header as it is captured: without blanks around its value. -/
def Captured.shown (header : String × String) : String × String :=
  (header.1, String.ofList (Text.trim header.2.toList))

/-- What a line has around the value of its header is trimmed off. -/
theorem trimmed_of_isHeader {header : String × String} (h : IsHeader header) :
    Captured.trimmed (header.1, " " ++ header.2 ++ "\r\n") = Captured.shown header := by
  have hspace : ∀ c ∈ [' '], Text.isBlank c = true := List.all_eq_true.1 (by decide)
  have hend : ∀ c ∈ ['\r', '\n'], Text.isBlank c = true := List.all_eq_true.1 (by decide)
  have hvalue : (" " ++ header.2 ++ "\r\n").toList =
      [' '] ++ (header.2.toList ++ ['\r', '\n']) := by
    simp
  simp only [Captured.trimmed, hvalue, Text.trim_between hspace hend,
    Text.trim_of_no_blank h.isBlank_of_mem, String.ofList_toList]
  rfl

/-- A written header is read, and the headers behind it. -/
theorem readHeaders_line {header : String × String} (h : IsHeader header) (bytes : Bytes) :
    readHeaders (Utf8.encode (headerLine header) ++ bytes) =
      (readHeaders bytes).map fun (headers, rest) ↦ (Captured.shown header :: headers, rest) := by
  have hcontent : headerLine header = header.1 ++ ": " ++ header.2 ++ "\r" ++ "\n" := by
    rw [← String.toList_inj]
    simp [headerLine]
  have hcolon : headerLine header = header.1 ++ ":" ++ (" " ++ header.2 ++ "\r\n") := by
    rw [← String.toList_inj]
    simp [headerLine]
  have hlf : '\n' ∉ (header.1 ++ ": " ++ header.2 ++ "\r").toList := by
    have hname := Text.lf_notMem_of_no_blank h.isBlank_of_mem
    simp [hname, h.lf_notMem]
  have hline : IsLine (Utf8.encode (headerLine header)) bytes := hcontent ▸ isLine_encode hlf bytes
  rw [hcolon] at hline ⊢
  rw [readHeaders_of_header h.colon_notMem hline, trimmed_of_isHeader h]

/-- The empty line ends the headers. -/
theorem readHeaders_end (body : Bytes) :
    readHeaders (Utf8.encode "\r\n" ++ body) = .ok ([], body) := by
  have hline : IsLine (Utf8.encode ("\r" ++ "\n")) body := isLine_encode (by decide) body
  exact readHeaders_of_blank hline (List.all_eq_true.1 (by decide))

/-- Written headers are read back. -/
theorem readHeaders_lines {headers : List (String × String)}
    (h : ∀ header ∈ headers, IsHeader header) (body : Bytes) :
    readHeaders (headers.flatMap (fun header ↦ Utf8.encode (headerLine header)) ++
      (Utf8.encode "\r\n" ++ body)) = .ok (headers.map Captured.shown, body) := by
  induction headers with
  | nil => exact readHeaders_end body
  | cons header headers ih =>
    obtain ⟨hheader, hheaders⟩ := List.forall_mem_cons.1 h
    rw [List.flatMap_cons, List.append_assoc, readHeaders_line hheader, ih hheaders]
    rfl

namespace Captured

/-- The case of a name does not count. -/
theorem lookUp?_of_sameName {name name' : String} (h : sameName name name' = true)
    (headers : List (String × String)) : lookUp? headers name = lookUp? headers name' := by
  have hlower : name.toList.map Char.toLower = name'.toList.map Char.toLower := by
    simpa [sameName] using h
  simp only [lookUp?, sameName, hlower]

theorem lookUp?_shown (headers : List (String × String)) (name : String) :
    lookUp? (headers.map shown) name =
      (lookUp? headers name).map fun value ↦ String.ofList (Text.trim value.toList) := by
  simp only [lookUp?, List.find?_map, Option.map_map]
  rfl

theorem lookUp?_append (front back : List (String × String)) (name : String) :
    lookUp? (front ++ back) name = (lookUp? front name).or (lookUp? back name) := by
  simp only [lookUp?, List.find?_append]
  cases front.find? fun header ↦ sameName header.1 name <;> rfl

/-- A written number has no blanks around it. -/
theorem ofList_trim_toString (n : Nat) :
    String.ofList (Text.trim (toString n).toList) = toString n := by
  rw [Text.trim_of_no_blank, String.ofList_toList]
  exact fun c hc ↦ Text.isBlank_of_isDigit (isDigit_of_mem_toString hc)

/-- A header that may be absent. -/
theorem lookUp?_toList {α : Type} (a? : Option α) (value : α → String) (known name : String) :
    lookUp? (a?.map fun a ↦ (known, value a)).toList name =
      if sameName known name then a?.map value else none := by
  cases a? with
  | none => simp [lookUp?]
  | some a =>
    simp only [lookUp?, Option.map_some, Option.toList_some]
    cases hname : sameName known name <;> simp [hname]

theorem lookUp?_toList_mk (value? : Option String) (known name : String) :
    lookUp? (value?.map (Prod.mk known)).toList name =
      if sameName known name then value? else none := by
  simpa using lookUp?_toList value? id known name

theorem lookUp?_singleton (known value name : String) :
    lookUp? [(known, value)] name = if sameName known name then some value else none :=
  lookUp?_toList_mk (some value) known name

end Captured

open Http Captured

/-- A name that is none of the others finds what describes the body. -/
theorem lookUp?_headers (r : Request) {name : String}
    (h : ∀ known ∈ ["accept", "authorization", "host", "referer", "user-agent"],
      sameName known name = false) :
    lookUp? r.headers name =
      (if sameName "content-length" name then r.body.map fun body ↦ toString body.length
        else none).or
      (if sameName "content-type" name then r.body.map fun _ ↦ "application/json" else none) := by
  simp only [List.forall_mem_cons] at h
  simp only [Request.headers, lookUp?_append, lookUp?_toList, lookUp?_toList_mk,
    lookUp?_singleton, h]
  simp

/-- The length that a captured request tells, by its name in any case. -/
theorem lookUp?_shown_contentLength (r : Request) {name : String}
    (h : sameName name "content-length" = true) :
    lookUp? (r.headers.map shown) name = r.body.map fun body ↦ toString body.length := by
  rw [lookUp?_of_sameName h, lookUp?_shown, lookUp?_headers r (by decide), if_pos (by decide),
    if_neg (by decide), Option.or_none, Option.map_map]
  simp only [Function.comp_def, ofList_trim_toString]

/-- The type of the body that a captured request tells, by its name in any case. -/
theorem lookUp?_shown_contentType (r : Request) {name : String}
    (h : sameName name "content-type" = true) :
    lookUp? (r.headers.map shown) name = r.body.map fun _ ↦ "application/json" := by
  have htrim : String.ofList (Text.trim "application/json".toList) = "application/json" := by
    decide +kernel
  rw [lookUp?_of_sameName h, lookUp?_shown, lookUp?_headers r (by decide), if_neg (by decide),
    if_pos (by decide), Option.none_or, Option.map_map]
  simp only [Function.comp_def, htrim]

/-- Every name of a header is a word without colons. -/
theorem isHeader_of_mem_headers {r : Request}
    (hvalues : ∀ header ∈ r.headers, '\n' ∉ header.2.toList) {header : String × String}
    (h : header ∈ r.headers) : IsHeader header := by
  have hname : header.1 ∈ ["accept", "authorization", "content-length", "content-type", "host",
      "referer", "user-agent"] := by
    simp only [Request.headers, List.mem_append, List.mem_singleton, Option.mem_toList,
      Option.map_eq_some_iff] at h
    rcases h with (((((rfl | ⟨_, -, rfl⟩) | ⟨_, -, rfl⟩) | ⟨_, -, rfl⟩) | rfl) | ⟨_, -, rfl⟩) |
      ⟨_, -, rfl⟩ <;> simp
  have hword : ∀ name ∈ ["accept", "authorization", "content-length", "content-type", "host",
      "referer", "user-agent"], ':' ∉ name.toList ∧
        name.toList.all (fun c ↦ Text.isBlank c = false) = true := by
    decide
  obtain ⟨hcolon, hblank⟩ := hword _ hname
  exact ⟨hcolon, List.all_iff_forall_prop.1 hblank, hvalues header h⟩

/-- A captured request says how long its body is. -/
theorem bodyLength_shown {r : Request} (h : r.bodyBytes.length < Numeral.signedBound) :
    bodyLength (r.headers.map shown) = .ok r.bodyBytes.length := by
  rw [bodyLength, lookUp?_shown_contentLength r (by decide)]
  cases hbody : r.body with
  | none => simp [Request.bodyBytes, hbody]
  | some body =>
    have hbytes : r.bodyBytes = body := by simp [Request.bodyBytes, hbody]
    have hword : body.length < Numeral.wordBound := hbytes ▸ Nat.lt_trans h (by decide)
    rw [hbytes] at h ⊢
    simp only [Option.map_some, readLength_toString hword, if_neg (Nat.not_le.2 h)]

/-! ### Requests -/

theorem wire_eq (r : Request) (target : String) :
    r.wire target = Utf8.encode (r.method.text ++ " " ++ target ++ " HTTP/1.1\r" ++ "\n") ++
      (r.headers.flatMap (fun header ↦ Utf8.encode (headerLine header)) ++
        (Utf8.encode "\r\n" ++ r.bodyBytes)) := by
  have hline : r.method.text ++ " " ++ target ++ " HTTP/1.1\r\n" =
      r.method.text ++ " " ++ target ++ " HTTP/1.1\r" ++ "\n" := by
    have hend : " HTTP/1.1\r\n" = " HTTP/1.1\r" ++ "\n" := by decide
    rw [hend, ← String.append_assoc]
  rw [Request.wire, hline, Utf8.encode_append _ "\r\n", Utf8.encode_append _ (String.join _),
    Utf8.encode_join, List.flatMap_map, List.append_assoc, List.append_assoc]
  rfl

/-- The first line of a request is read back. -/
theorem readRequestLine_append {method target : String} (hmethod : IsWord method)
    (htarget : IsWord target) (rest : String) :
    readRequestLine (method ++ " " ++ target ++ " " ++ rest) = .ok (method, target) := by
  have hspace : ∀ c ∈ " ".toList, Text.isBlank c = true := List.all_iff_forall_prop.1 (by decide)
  have hline : method ++ " " ++ target ++ " " ++ rest =
      "" ++ method ++ " " ++ target ++ (" " ++ rest) := by
    rw [← String.toList_inj]
    simp
  have htail : ∀ c ∈ (" " ++ rest).toList.head?, Text.isBlank c = true := by
    intro c hc
    obtain rfl : ' ' = c := by simpa using hc
    decide
  rw [hline]
  exact readRequestLine_eq_ok_iff.2 (.intro (by simp) hmethod (by decide) hspace htarget htail)

/-- **A written request is read back.** -/
theorem capture_wire {r : Request} {target : String} (hne : target ≠ "")
    (htarget : ∀ c ∈ target.toList, Text.isBlank c = false)
    (hvalues : ∀ header ∈ r.headers, '\n' ∉ header.2.toList)
    (hlength : r.bodyBytes.length < Numeral.signedBound) :
    capture (r.wire target) =
      .ok ⟨r.method.text, target, r.headers.map shown, r.bodyBytes⟩ := by
  have hmethod : IsWord r.method.text := by
    cases r.method <;> exact ⟨by decide, List.all_iff_forall_prop.1 (by decide)⟩
  have hlf : '\n' ∉ (r.method.text ++ " " ++ target ++ " HTTP/1.1\r").toList := by
    have hword := Text.lf_notMem_of_no_blank hmethod.isBlank
    have hword' := Text.lf_notMem_of_no_blank htarget
    simp [hword, hword']
  have hfirst : readRequestLine (r.method.text ++ " " ++ target ++ " HTTP/1.1\r" ++ "\n") =
      .ok (r.method.text, target) := by
    have hline := readRequestLine_append hmethod ⟨hne, htarget⟩ ("HTTP/1.1\r" ++ "\n")
    simpa [String.append_assoc] using hline
  rw [wire_eq, capture, cutLine_of_isLine (isLine_encode hlf _)]
  simp only [Utf8.decode?_encode, hfirst]
  rw [readHeaders_lines fun header h ↦ isHeader_of_mem_headers hvalues h]
  simp only [bodyLength_shown hlength]
  simp

end ChatHook
