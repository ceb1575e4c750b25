import ChatHook.Endpoint
import ChatHook.Proofs.Captured

/-!
# Framed requests

The bytes of a connection are framed as a request (`Captured.IsFramedIn`) if their first line has
two words, the lines behind it are headers up to a blank one or to the end of the bytes
(`HeaderLines`), and as many bytes follow as the headers announce (`Announces`). These bytes are the
body, whatever they are, and none behind them matters. Bytes are framed as one request at most, and
the reader finds it; where there is none, it tells the first thing that is missing (`IsBroken`).

What each of the two relations says of the bytes is what the reader does with them, and all bytes
are of one of them (`isFramedIn_or_isBroken`); so both characterize the reader.

## Main results

* `headerLines_or_brokenLines`: all bytes start with headers or with a line that is refused.
* `bodyLength_eq_ok_iff`: which headers announce which length.
* `Captured.IsFramedIn.exists_front`: bytes behind the body do not matter.
* `framing_settles_capture`: what is captured of the bytes of a connection.
-/

namespace ChatHook

/-! ### Header lines -/

/-- Bytes start with lines of headers and the line that ends them. -/
inductive HeaderLines : Bytes → List (String × String) → Bytes → Prop
  /-- A blank line ends the headers. Where the bytes end, nothing is such a line. -/
  | blank {line : String} {rest : Bytes} (hline : IsLine (Utf8.encode line) rest)
      (hblank : ∀ c ∈ line.toList, Text.isBlank c = true) :
      HeaderLines (Utf8.encode line ++ rest) [] rest
  /-- The name of a header ends at the first colon of its line. -/
  | header {name value : String} {rest after : Bytes} {headers : List (String × String)}
      (hname : ':' ∉ name.toList) (hline : IsLine (Utf8.encode (name ++ ":" ++ value)) rest)
      (hrest : HeaderLines rest headers after) :
      HeaderLines (Utf8.encode (name ++ ":" ++ value) ++ rest)
        (Captured.trimmed (name, value) :: headers) after

/-- Bytes start with lines of headers and a line that is refused. -/
inductive BrokenLines : Bytes → CaptureFault → Prop
  | notText {line rest : Bytes} (hline : IsLine line rest)
      (htext : ∀ text, Utf8.encode text ≠ line) : BrokenLines (line ++ rest) .lineNotText
  | noColon {line : String} {rest : Bytes} (hline : IsLine (Utf8.encode line) rest)
      (hnonblank : ¬∀ c ∈ line.toList, Text.isBlank c = true) (hcolon : ':' ∉ line.toList) :
      BrokenLines (Utf8.encode line ++ rest) .missingPart
  | behind {name value : String} {rest : Bytes} {fault : CaptureFault} (hname : ':' ∉ name.toList)
      (hline : IsLine (Utf8.encode (name ++ ":" ++ value)) rest) (hrest : BrokenLines rest fault) :
      BrokenLines (Utf8.encode (name ++ ":" ++ value) ++ rest) fault

theorem readHeaders_of_headerLines {bytes rest : Bytes} {headers : List (String × String)}
    (h : HeaderLines bytes headers rest) : readHeaders bytes = .ok (headers, rest) := by
  induction h with
  | blank hline hblank => exact readHeaders_of_blank hline hblank
  | header hname hline _ ih =>
    rw [readHeaders_of_header hname hline, ih]
    rfl

theorem readHeaders_of_brokenLines {bytes : Bytes} {fault : CaptureFault}
    (h : BrokenLines bytes fault) : readHeaders bytes = .error fault := by
  induction h with
  | notText hline htext => exact readHeaders_of_notText hline htext
  | noColon hline hnonblank hcolon => exact readHeaders_of_notMem hline hnonblank hcolon
  | behind hname hline _ ih =>
    rw [readHeaders_of_header hname hline, ih]
    rfl

/-- A text with a colon has a name in front of the first one. -/
theorem exists_name_of_colon {text : String} (h : ':' ∈ text.toList) :
    ∃ name value : String, ':' ∉ name.toList ∧ text = name ++ ":" ++ value := by
  obtain ⟨name, value, htext, hname⟩ := List.eq_append_cons_of_mem h
  refine ⟨String.ofList name, String.ofList value, by simpa using hname, ?_⟩
  rw [← String.toList_inj]
  simp [htext]

/-- All bytes start with headers, or with a line that is refused as one. -/
theorem headerLines_or_brokenLines (bytes : Bytes) :
    (∃ headers rest, HeaderLines bytes headers rest) ∨ ∃ fault, BrokenLines bytes fault := by
  induction hlength : bytes.length using Nat.strongRecOn generalizing bytes with
  | ind n ih =>
    obtain ⟨line, rest, rfl, hline⟩ := exists_isLine bytes
    cases hdecode : Utf8.decode? line with
    | none => exact .inr ⟨_, .notText hline (Utf8.decode?_eq_none_iff.1 hdecode)⟩
    | some text =>
      obtain rfl := Utf8.decode?_eq_some_iff.1 hdecode
      by_cases hblank : ∀ c ∈ text.toList, Text.isBlank c = true
      · exact .inl ⟨_, _, .blank hline hblank⟩
      by_cases hcolon : ':' ∈ text.toList
      · -- A line with a colon is not empty, so fewer bytes stand behind it.
        have hne : Utf8.encode text ++ rest ≠ [] := by
          intro hempty
          obtain rfl : text = "" := Utf8.encode_injective (List.append_eq_nil_iff.1 hempty).1
          exact absurd hcolon (by decide)
        have hrest := ih rest.length (hlength ▸ hline.length_lt hne) rest rfl
        obtain ⟨name, value, hname, rfl⟩ := exists_name_of_colon hcolon
        rcases hrest with ⟨headers, after, hheaders⟩ | ⟨fault, hfault⟩
        · exact .inl ⟨_, _, .header hname hline hheaders⟩
        · exact .inr ⟨_, .behind hname hline hfault⟩
      · exact .inr ⟨_, .noColon hline hblank hcolon⟩

/-- Bytes behind the headers do not matter to them, if there are any. -/
theorem HeaderLines.exists_front {bytes rest : Bytes} {headers : List (String × String)}
    (h : HeaderLines bytes headers rest) (hrest : rest ≠ []) :
    ∃ front, bytes = front ++ rest ∧ ∀ rest', HeaderLines (front ++ rest') headers rest' := by
  induction h with
  | @blank line rest hline hblank =>
    exact ⟨Utf8.encode line, rfl, fun rest' ↦ .blank (hline.of_ne_nil hrest rest') hblank⟩
  | @header name value rest after headers hname hline _ ih =>
    obtain ⟨front, rfl, hfront⟩ := ih hrest
    refine ⟨Utf8.encode (name ++ ":" ++ value) ++ front, (List.append_assoc ..).symm,
      fun rest' ↦ ?_⟩
    rw [List.append_assoc]
    exact .header hname (hline.of_ne_nil (by simp [hrest]) _) (hfront rest')

/-! ### Announced lengths -/

/-- The first header of a name among some headers has a value. -/
inductive FirstNamed (name value : String) : List (String × String) → Prop
  | intro {before after : List (String × String)} {known : String}
      (hbefore : ∀ header ∈ before, sameName header.1 name = false)
      (hknown : sameName known name = true) :
      FirstNamed name value (before ++ (known, value) :: after)

theorem lookUp?_eq_some_iff {headers : List (String × String)} {name value : String} :
    Captured.lookUp? headers name = some value ↔ FirstNamed name value headers := by
  simp only [Captured.lookUp?, Option.map_eq_some_iff, List.find?_eq_some_iff_append]
  constructor
  · rintro ⟨⟨known, _⟩, ⟨hknown, before, after, rfl, hbefore⟩, rfl⟩
    exact .intro (fun header hheader ↦ by simpa using hbefore header hheader) hknown
  · rintro ⟨hbefore, hknown⟩
    exact ⟨_, ⟨hknown, _, _, rfl, fun header hheader ↦ by simpa using hbefore header hheader⟩, rfl⟩

theorem lookUp?_eq_none_iff {headers : List (String × String)} {name : String} :
    Captured.lookUp? headers name = none ↔
      ∀ header ∈ headers, sameName header.1 name = false := by
  simp [Captured.lookUp?]

/-- Headers announce a body of a length. Only the first header of the name counts. -/
inductive Announces (headers : List (String × String)) : Nat → Prop
  /-- Without a header of the name there is no body. -/
  | nothing (h : ∀ header ∈ headers, sameName header.1 "content-length" = false) :
      Announces headers 0
  | length {value : String} {n : Nat} (hvalue : FirstNamed "content-length" value headers)
      (hlength : WritesLength value n) (hn : n < Numeral.signedBound) : Announces headers n

/-- Headers announce a body, but no length that a body could have. -/
inductive AnnouncesNoLength (headers : List (String × String)) : CaptureFault → Prop
  | notLength {value : String} {fault : LengthFault}
      (hvalue : FirstNamed "content-length" value headers) (hfault : IsNoLength value fault) :
      AnnouncesNoLength headers (.badLength fault)
  | capacity {value : String} {n : Nat} (hvalue : FirstNamed "content-length" value headers)
      (hlength : WritesLength value n) (hn : Numeral.signedBound ≤ n) :
      AnnouncesNoLength headers .capacity

section

variable {headers : List (String × String)}

theorem bodyLength_of_announces {n : Nat} (h : Announces headers n) :
    bodyLength headers = .ok n := by
  cases h with
  | nothing h => simp only [bodyLength, lookUp?_eq_none_iff.2 h]
  | length hvalue hlength hn =>
    simp only [bodyLength, lookUp?_eq_some_iff.2 hvalue, readLength_of_writesLength hlength,
      if_neg (Nat.not_le.2 hn)]

theorem bodyLength_of_announcesNoLength {fault : CaptureFault}
    (h : AnnouncesNoLength headers fault) : bodyLength headers = .error fault := by
  cases h with
  | notLength hvalue hfault =>
    simp only [bodyLength, lookUp?_eq_some_iff.2 hvalue, readLength_of_isNoLength hfault]
  | capacity hvalue hlength hn =>
    simp only [bodyLength, lookUp?_eq_some_iff.2 hvalue, readLength_of_writesLength hlength,
      if_pos hn]

theorem announces_or_announcesNoLength (headers : List (String × String)) :
    (∃ n, Announces headers n) ∨ ∃ fault, AnnouncesNoLength headers fault := by
  cases hlookup : Captured.lookUp? headers "content-length" with
  | none => exact .inl ⟨0, .nothing (lookUp?_eq_none_iff.1 hlookup)⟩
  | some value =>
    have hvalue := lookUp?_eq_some_iff.1 hlookup
    rcases writesLength_or_isNoLength value with ⟨n, hlength⟩ | ⟨fault, hfault⟩
    · rcases Nat.lt_or_ge n Numeral.signedBound with hn | hn
      · exact .inl ⟨n, .length hvalue hlength hn⟩
      · exact .inr ⟨_, .capacity hvalue hlength hn⟩
    · exact .inr ⟨_, .notLength hvalue hfault⟩

/-- Headers are read as a length exactly where they announce it. -/
theorem bodyLength_eq_ok_iff {n : Nat} : bodyLength headers = .ok n ↔ Announces headers n :=
  (result_iff_of_total (fun _ ↦ bodyLength_of_announces)
    (fun _ ↦ bodyLength_of_announcesNoLength) (announces_or_announcesNoLength headers)).1 n

/-- The announced length is the one that a look at the headers tells, in any case of the name. -/
theorem Announces.lookUp? {n : Nat} (h : Announces headers n) {name : String}
    (hname : sameName name "content-length" = true) :
    (Captured.lookUp? headers name = none → n = 0) ∧
      ∀ value, Captured.lookUp? headers name = some value → WritesLength value n := by
  rw [Captured.lookUp?_of_sameName hname]
  cases h with
  | nothing h => simp [lookUp?_eq_none_iff.2 h]
  | length hvalue hlength => simpa [lookUp?_eq_some_iff.2 hvalue] using hlength

end

/-! ### Heads -/

/-- Bytes start with the head of a request: a line with a method and a path, and headers. -/
inductive HasHead (method path : String) (headers : List (String × String)) :
    Bytes → Bytes → Prop
  | intro {line : String} {rest after : Bytes} (hline : IsLine (Utf8.encode line) rest)
      (hwords : FirstWords method path line) (hheaders : HeaderLines rest headers after) :
      HasHead method path headers (Utf8.encode line ++ rest) after

/-- Bytes do not start with the head of a request. -/
inductive BrokenHead : Bytes → CaptureFault → Prop
  | notText {line rest : Bytes} (hline : IsLine line rest)
      (htext : ∀ text, Utf8.encode text ≠ line) : BrokenHead (line ++ rest) .lineNotText
  | noWords {line : String} {rest : Bytes} (hline : IsLine (Utf8.encode line) rest)
      (hwords : ∀ method path, ¬FirstWords method path line) :
      BrokenHead (Utf8.encode line ++ rest) .missingPart
  | brokenLines {line method path : String} {rest : Bytes} {fault : CaptureFault}
      (hline : IsLine (Utf8.encode line) rest) (hwords : FirstWords method path line)
      (hrest : BrokenLines rest fault) : BrokenHead (Utf8.encode line ++ rest) fault

section

variable {bytes rest : Bytes} {method path : String} {headers : List (String × String)}

/-- Behind a head as many bytes are captured as its headers announce. -/
theorem capture_of_hasHead (h : HasHead method path headers bytes rest) :
    capture bytes = (bodyLength headers).bind fun n ↦
      if n ≤ rest.length then .ok ⟨method, path, headers, rest.take n⟩ else .error .shortBody := by
  obtain ⟨hline, hwords, hheaders⟩ := h
  simp only [capture, cutLine_of_isLine hline, Utf8.decode?_encode,
    readRequestLine_eq_ok_iff.2 hwords, readHeaders_of_headerLines hheaders]
  cases bodyLength headers <;> rfl

theorem capture_of_brokenHead {fault : CaptureFault} (h : BrokenHead bytes fault) :
    capture bytes = .error fault := by
  cases h with
  | notText hline htext =>
    simp only [capture, cutLine_of_isLine hline, Utf8.decode?_eq_none_iff.2 htext]
  | noWords hline hwords =>
    simp only [capture, cutLine_of_isLine hline, Utf8.decode?_encode,
      readRequestLine_eq_error_iff.2 ⟨rfl, hwords⟩]
  | brokenLines hline hwords hrest =>
    simp only [capture, cutLine_of_isLine hline, Utf8.decode?_encode,
      readRequestLine_eq_ok_iff.2 hwords, readHeaders_of_brokenLines hrest]

/-- All bytes start with a head, or there is a reason why not. -/
theorem hasHead_or_brokenHead (bytes : Bytes) :
    (∃ method path headers rest, HasHead method path headers bytes rest) ∨
      ∃ fault, BrokenHead bytes fault := by
  obtain ⟨line, rest, rfl, hline⟩ := exists_isLine bytes
  cases hdecode : Utf8.decode? line with
  | none => exact .inr ⟨_, .notText hline (Utf8.decode?_eq_none_iff.1 hdecode)⟩
  | some text =>
    obtain rfl := Utf8.decode?_eq_some_iff.1 hdecode
    by_cases hwords : ∃ method path, FirstWords method path text
    · obtain ⟨method, path, hwords⟩ := hwords
      rcases headerLines_or_brokenLines rest with ⟨headers, after, hheaders⟩ | ⟨fault, hfault⟩
      · exact .inl ⟨_, _, _, _, .intro hline hwords hheaders⟩
      · exact .inr ⟨_, .brokenLines hline hwords hfault⟩
    · exact .inr ⟨_, .noWords hline fun method path h ↦ hwords ⟨method, path, h⟩⟩

/-- Bytes behind a head do not matter to it, if there are any. -/
theorem HasHead.exists_front (h : HasHead method path headers bytes rest) (hrest : rest ≠ []) :
    ∃ front, bytes = front ++ rest ∧
      ∀ rest', HasHead method path headers (front ++ rest') rest' := by
  obtain ⟨hline, hwords, hheaders⟩ := h
  rename_i line _
  obtain ⟨front, rfl, hfront⟩ := hheaders.exists_front hrest
  refine ⟨Utf8.encode line ++ front, (List.append_assoc ..).symm, fun rest' ↦ ?_⟩
  rw [List.append_assoc]
  exact .intro (hline.of_ne_nil (by simp [hrest]) _) hwords (hfront rest')

end

/-! ### Requests -/

/-- Bytes are framed as a request in front of others. -/
structure Captured.IsFramedIn (captured : Captured) (bytes after : Bytes) : Prop where
  head : HasHead captured.method captured.path captured.headers bytes (captured.body ++ after)
  length : Announces captured.headers captured.body.length

/-- Bytes are not framed as a request. Of several faults it is the first one that counts. -/
inductive IsBroken (bytes : Bytes) : CaptureFault → Prop
  | head {fault : CaptureFault} (hhead : BrokenHead bytes fault) : IsBroken bytes fault
  | noLength {method path : String} {headers : List (String × String)} {rest : Bytes}
      {fault : CaptureFault} (hhead : HasHead method path headers bytes rest)
      (hlength : AnnouncesNoLength headers fault) : IsBroken bytes fault
  | short {method path : String} {headers : List (String × String)} {rest : Bytes} {n : Nat}
      (hhead : HasHead method path headers bytes rest) (hlength : Announces headers n)
      (hshort : rest.length < n) : IsBroken bytes .shortBody

section

variable {bytes : Bytes}

theorem capture_of_isFramedIn {captured : Captured} {after : Bytes}
    (h : captured.IsFramedIn bytes after) : capture bytes = .ok captured := by
  have hfits : captured.body.length ≤ (captured.body ++ after).length := by simp
  simp only [capture_of_hasHead h.head, bodyLength_of_announces h.length, Except.bind,
    if_pos hfits, List.take_left']

theorem capture_of_isBroken {fault : CaptureFault} (h : IsBroken bytes fault) :
    capture bytes = .error fault := by
  cases h with
  | head hhead => exact capture_of_brokenHead hhead
  | noLength hhead hlength =>
    simp only [capture_of_hasHead hhead, bodyLength_of_announcesNoLength hlength, Except.bind]
  | short hhead hlength hshort =>
    simp only [capture_of_hasHead hhead, bodyLength_of_announces hlength, Except.bind,
      if_neg (Nat.not_le.2 hshort)]

/-- All bytes are framed as a request, or there is a reason why not. -/
theorem isFramedIn_or_isBroken (bytes : Bytes) :
    (∃ captured after, Captured.IsFramedIn captured bytes after) ∨
      ∃ fault, IsBroken bytes fault := by
  rcases hasHead_or_brokenHead bytes with ⟨method, path, headers, rest, hhead⟩ | ⟨fault, hhead⟩
  · rcases announces_or_announcesNoLength headers with ⟨n, hlength⟩ | ⟨fault, hfault⟩
    · rcases Nat.lt_or_ge rest.length n with hshort | hfits
      · exact .inr ⟨_, .short hhead hlength hshort⟩
      · -- The body is the first part of what stands behind the head.
        have hbody : (rest.take n).length = n := List.length_take_of_le hfits
        rw [← List.take_append_drop n rest] at hhead
        rw [← hbody] at hlength
        exact .inl ⟨⟨method, path, headers, rest.take n⟩, rest.drop n, hhead, hlength⟩
    · exact .inr ⟨fault, .noLength hhead hfault⟩
  · exact .inr ⟨fault, .head hhead⟩

/-- A request is captured exactly where the bytes are framed as it, and otherwise the first fault is
told. -/
theorem capture_iff (bytes : Bytes) :
    (∀ captured, capture bytes = .ok captured ↔ ∃ after, captured.IsFramedIn bytes after) ∧
      ∀ fault, capture bytes = .error fault ↔ IsBroken bytes fault :=
  result_iff_of_total (fun _ ⟨_, h⟩ ↦ capture_of_isFramedIn h) (fun _ ↦ capture_of_isBroken)
    (isFramedIn_or_isBroken bytes)

/-- Bytes behind the body do not matter, if any stand behind the head. -/
theorem Captured.IsFramedIn.exists_front {captured : Captured} {after : Bytes}
    (h : captured.IsFramedIn bytes after) :
    ∃ front, bytes = front ++ after ∧ (captured.body ++ after ≠ [] →
      ∀ after', captured.IsFramedIn (front ++ after') after') := by
  by_cases hbehind : captured.body ++ after = []
  · obtain ⟨-, rfl⟩ := List.append_eq_nil_iff.1 hbehind
    exact ⟨bytes, (List.append_nil bytes).symm, fun hne ↦ absurd hbehind hne⟩
  · obtain ⟨front, rfl, hfront⟩ := h.head.exists_front hbehind
    refine ⟨front ++ captured.body, (List.append_assoc ..).symm, fun _ after' ↦ ⟨?_, h.length⟩⟩
    rw [List.append_assoc]
    exact hfront (captured.body ++ after')

end

/-- **Framing settles what is captured.** Of the bytes of a connection a request is captured exactly
where they are framed as it, and otherwise the first fault of its frame is told; so it is at the end
of an endpoint, whose faults no other connection hides. The body is as long as the headers of the
captured request say, by the name in any case, and the bytes behind it can be exchanged for any
others: what stands there is never looked at. Where nothing stands behind the head it may be the end
of the bytes that ends it, and then more bytes would belong to its last line. -/
theorem framing_settles_capture (bytes : Bytes) :
    (∀ captured, capture bytes = .ok captured ↔ ∃ after, captured.IsFramedIn bytes after) ∧
    (∀ fault, capture bytes = .error fault ↔ IsBroken bytes fault) ∧
    (∀ captured, Endpoint.finish bytes 0 = .ok captured ↔
      ∃ after, captured.IsFramedIn bytes after) ∧
    (∀ fault more, IsBroken bytes fault → Endpoint.finish bytes more = .error fault) ∧
    (∀ captured, capture bytes = .ok captured → ∀ name, sameName name "content-length" = true →
      (captured.header? name = none → captured.body = []) ∧
        ∀ value, captured.header? name = some value →
          WritesLength value captured.body.length) ∧
    ∀ captured after, captured.IsFramedIn bytes after →
      ∃ front, bytes = front ++ after ∧ (captured.body ++ after ≠ [] →
        ∀ after', capture (front ++ after') = .ok captured) := by
  obtain ⟨hok, herror⟩ := capture_iff bytes
  refine ⟨hok, herror, fun captured ↦ ?_, fun fault more hbroken ↦ ?_,
    fun captured h name hname ↦ ?_, fun captured after hframed ↦ ?_⟩
  · rw [← hok, Endpoint.finish]
    cases capture bytes <;> simp
  · simp only [Endpoint.finish, capture_of_isBroken hbroken]
  · obtain ⟨after, hframed⟩ := (hok captured).1 h
    obtain ⟨hnone, hsome⟩ := hframed.length.lookUp? hname
    exact ⟨fun hheader ↦ List.length_eq_zero_iff.1 (hnone hheader), hsome⟩
  · obtain ⟨front, hbytes, hfront⟩ := hframed.exists_front
    exact ⟨front, hbytes, fun hne after' ↦ capture_of_isFramedIn (hfront hne after')⟩

/-- A request with blanks of several kinds, two lengths, the first of them with a sign, and a body
with blank lines and a byte of no text. -/
private def oddRequest (after : Bytes) : Bytes :=
  Utf8.encode ("\u2003GET\u00A0/x y" ++ "\n") ++
    (Utf8.encode ("Content-LENGTH " ++ ":" ++ " +003\r\n") ++
      (Utf8.encode ("content-length" ++ ":" ++ "9\n") ++
        (Utf8.encode (" \u3000\r" ++ "\n") ++ ([0x0A, 0xFF, 0x0A] ++ after))))

/-- What is captured of it. -/
private def oddCaptured : Captured :=
  ⟨"GET", "/x", [("Content-LENGTH", "+003"), ("content-length", "9")], [0x0A, 0xFF, 0x0A]⟩

private theorem isFramedIn_oddRequest (after : Bytes) :
    oddCaptured.IsFramedIn (oddRequest after) after := by
  have hwords : FirstWords "GET" "/x" ("\u2003GET\u00A0/x y" ++ "\n") :=
    readRequestLine_eq_ok_iff.1 (by decide +kernel)
  have hblank : ∀ c ∈ (" \u3000\r" ++ "\n").toList, Text.isBlank c = true :=
    List.all_iff_forall_prop.1 (by decide)
  have hheaders : [Captured.trimmed ("Content-LENGTH ", " +003\r\n"),
      Captured.trimmed ("content-length", "9\n")] = oddCaptured.headers := by
    decide +kernel
  refine ⟨.intro (isLine_encode (by decide) _) hwords ?_,
    bodyLength_eq_ok_iff.1 (by decide +kernel)⟩
  rw [← hheaders]
  exact .header (by decide)
    (isLine_encode (by decide : '\n' ∉ "Content-LENGTH : +003\r".toList) _)
    (.header (by decide) (isLine_encode (by decide : '\n' ∉ "content-length:9".toList) _)
      (.blank (isLine_encode (by decide) _) hblank))

/-- A request that ends within its head, with a length that no machine word holds. -/
private def overlongRequest : Bytes :=
  Utf8.encode ("GET /x" ++ "\n") ++
    (Utf8.encode ("Content-Length" ++ ":" ++ "18446744073709551616") ++ (Utf8.encode "" ++ []))

private theorem isBroken_overlongRequest : IsBroken overlongRequest (.badLength .tooLarge) := by
  have hwords : FirstWords "GET" "/x" ("GET /x" ++ "\n") :=
    readRequestLine_eq_ok_iff.1 (by decide +kernel)
  have hheaders : HeaderLines (Utf8.encode ("Content-Length" ++ ":" ++ "18446744073709551616") ++
      (Utf8.encode "" ++ [])) [Captured.trimmed ("Content-Length", "18446744073709551616")] [] :=
    .header (by decide) (.last (by decide)) (.blank (.last (by decide)) (by simp))
  have hvalue : FirstNamed "content-length" "18446744073709551616"
      [Captured.trimmed ("Content-Length", "18446744073709551616")] :=
    lookUp?_eq_some_iff.1 (by decide +kernel)
  have hlarge : IsNoLength "18446744073709551616" .tooLarge :=
    readLength_eq_error_iff.1 (by decide +kernel)
  exact .noLength (.intro (isLine_encode (by decide) _) hwords hheaders) (.notLength hvalue hlarge)

theorem odd_requests_are_settled :
    (oddCaptured.IsFramedIn (oddRequest [0x41]) [0x41] ∧
      Endpoint.finish (oddRequest [0x41]) 0 = .ok oddCaptured ∧
      WritesLength "+003" oddCaptured.body.length ∧
      ∃ front, oddRequest [0x41] = front ++ [0x41] ∧
        ∀ after, capture (front ++ after) = .ok oddCaptured) ∧
      IsBroken overlongRequest (.badLength .tooLarge) ∧
      Endpoint.finish overlongRequest 2 = .error (.badLength .tooLarge) := by
  have hframed := isFramedIn_oddRequest [0x41]
  obtain ⟨hcapture, -, hfinish, -, hlength, hbehind⟩ := framing_settles_capture (oddRequest [0x41])
  obtain ⟨-, -, -, hbroken, -⟩ := framing_settles_capture overlongRequest
  obtain ⟨front, hbytes, hfront⟩ := hbehind oddCaptured [0x41] hframed
  refine ⟨⟨hframed, (hfinish _).2 ⟨_, hframed⟩, ?_, front, hbytes, hfront (by decide)⟩,
    isBroken_overlongRequest, hbroken _ 2 isBroken_overlongRequest⟩
  exact (hlength oddCaptured ((hcapture _).2 ⟨_, hframed⟩) "Content-Length" (by decide)).2 _
    (by decide)

end ChatHook
