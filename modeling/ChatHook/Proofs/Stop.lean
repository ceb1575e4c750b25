import ChatHook.Proofs.Source
import ChatHook.Webhook
import Mathlib.Data.List.TakeWhile

/-!
# Where reading stops

A source stops at an empty piece, at a failure that is no interruption, or at its end (`StopsAt`).
All that comes of reading it is settled there: a failure at the stop is what comes of it, whatever
was delivered before, and otherwise the bytes before the stop are taken as one text
(`isReading_of_stopsAt`). So neither the cuts between pieces nor interruptions matter
(`readMessage_append_congr`): a letter may be cut in two, as long as all of it arrives.

## Main results

* `exists_stopsAt`: every source has its stop.
* `drain_append`: what reading goes through leaves nothing but bytes.
* `stop_settles_reading`: what comes of reading, told by the stop and the bytes before it.
-/

namespace ChatHook

/-! ### The stop of a source -/

/-- A source has a stop behind the deliveries `before`, all of which reading goes through. The stop
has a failure if it is one, and `after` is what the source would do behind it. -/
inductive StopsAt : List Chunk → List Chunk → Option ReadFailure → List Chunk → Prop
  /-- The source has come to its end. -/
  | ending {before} (hbefore : ∀ chunk ∈ before, chunk.goesOn = true) :
      StopsAt before before none []
  | emptyPiece {before} (hbefore : ∀ chunk ∈ before, chunk.goesOn = true) (after) :
      StopsAt (before ++ .bytes [] :: after) before none after
  | failure {before} (hbefore : ∀ chunk ∈ before, chunk.goesOn = true) {failure : ReadFailure}
      (hfailure : failure.fault ≠ .interrupted) (after) :
      StopsAt (before ++ .failure failure :: after) before (some failure) after

/-- Every source has a stop. -/
theorem exists_stopsAt (source : List Chunk) :
    ∃ before failure after, StopsAt source before failure after := by
  have hbefore : ∀ chunk ∈ source.takeWhile Chunk.goesOn, chunk.goesOn = true :=
    fun chunk hchunk ↦ List.mem_takeWhile_imp hchunk
  have hsource := List.takeWhile_append_dropWhile (p := Chunk.goesOn) (l := source)
  have hstop := List.head?_dropWhile_not Chunk.goesOn source
  generalize source.takeWhile Chunk.goesOn = before at hbefore hsource
  generalize source.dropWhile Chunk.goesOn = rest at hsource hstop
  subst hsource
  match rest with
  | [] =>
    rw [List.append_nil]
    exact ⟨before, none, [], .ending hbefore⟩
  | .bytes piece :: after =>
    obtain rfl : piece = [] := by simpa [Chunk.goesOn] using hstop
    exact ⟨before, none, after, .emptyPiece hbefore after⟩
  | .failure failure :: after =>
    have hfailure : failure.fault ≠ .interrupted := by simpa [Chunk.goesOn] using hstop
    exact ⟨before, some failure, after, .failure hbefore hfailure after⟩

/-! ### Up to the stop -/

/-- What reading goes through leaves nothing but bytes. -/
theorem drain_append {before : List Chunk} (h : ∀ chunk ∈ before, chunk.goesOn = true)
    (after : List Chunk) :
    drain (before ++ after) = ⟨before.flatMap Chunk.piece ++ (drain after).bytes,
      (drain after).failure, (drain after).rest⟩ := by
  induction before with
  | nil => rfl
  | cons chunk before ih =>
    obtain ⟨hchunk, hbefore⟩ := List.forall_mem_cons.1 h
    rw [List.cons_append, drain_cons_of_goesOn hchunk, ih hbefore, List.flatMap_cons,
      List.append_assoc]

/-- Reading up to a stop. -/
theorem drain_of_stopsAt {source before after : List Chunk} {failure : Option ReadFailure}
    (h : StopsAt source before failure after) :
    drain source = ⟨before.flatMap Chunk.piece, failure, after⟩ := by
  cases h with
  | ending hbefore =>
    have happend := drain_append hbefore []
    rwa [drain, List.append_nil, List.append_nil] at happend
  | emptyPiece hbefore =>
    rw [drain_append hbefore, drain_cons_of_stop rfl, List.append_nil]
    rfl
  | failure hbefore hfailure =>
    rw [drain_append hbefore, drain_cons_of_stop (by simpa [Chunk.goesOn] using hfailure),
      List.append_nil]
    rfl

/-- Of what reading goes through only the bytes matter. -/
theorem readMessage_append_congr {before before' : List Chunk}
    (h : ∀ chunk ∈ before, chunk.goesOn = true) (h' : ∀ chunk ∈ before', chunk.goesOn = true)
    (hbytes : before.flatMap Chunk.piece = before'.flatMap Chunk.piece) (after : List Chunk) :
    readMessage (before ++ after) = readMessage (before' ++ after) := by
  rw [readMessage, readMessage, drain_append h, drain_append h', hbytes]

/-! ### What comes of reading -/

/-- A reading that came to a stop behind some bytes, with a failure if the stop is one. -/
structure IsReading (bytes : Bytes) (failure : Option ReadFailure) (after : List Chunk)
    (read : MessageRead) : Prop where
  /-- A failure at the stop is what comes of it, whatever the bytes are. -/
  failed : ∀ f, failure = some f → read.result = .error f
  /-- Otherwise a message is read exactly where the bytes are its text as a whole. -/
  ok_iff : failure = none → ∀ message, read.result = .ok message ↔ Utf8.encode message = bytes
  /-- Bytes that are no text as a whole are invalid data. -/
  notText_iff : failure = none →
    (read.result = .error .notText ↔ ∀ message, Utf8.encode message ≠ bytes)
  size : ∀ message, read.result = .ok message → Utf8.size message = bytes.length
  left : read.left = after.length

/-- What comes of reading is settled by the stop and the bytes before it. -/
theorem isReading_of_stopsAt {source before after : List Chunk} {failure : Option ReadFailure}
    (h : StopsAt source before failure after) :
    IsReading (before.flatMap Chunk.piece) failure after (readMessage source) := by
  rw [readMessage, drain_of_stopsAt h]
  generalize before.flatMap Chunk.piece = bytes
  cases failure with
  | some failure =>
    have hresult : ReadStop.result ⟨bytes, some failure, after⟩ = .error failure := rfl
    exact ⟨by simp [hresult], by simp, by simp, by simp [hresult], rfl⟩
  | none =>
    cases hdecode : Utf8.decode? bytes with
    | some text =>
      obtain rfl := Utf8.decode?_eq_some_iff.1 hdecode
      have hresult : ReadStop.result ⟨Utf8.encode text, none, after⟩ = .ok text := by
        simp only [ReadStop.result, hdecode]
      refine ⟨by simp, fun _ message ↦ ?_, fun _ ↦ ?_, fun message hmessage ↦ ?_, rfl⟩
      · rw [hresult, Except.ok.injEq]
        exact ⟨fun h ↦ h ▸ rfl, fun h ↦ (Utf8.encode_injective h).symm⟩
      · simp only [hresult, reduceCtorEq, false_iff]
        exact fun hno ↦ hno text rfl
      · obtain rfl := Except.ok.inj (hresult.symm.trans hmessage)
        rw [Utf8.size_eq_length_encode]
    | none =>
      have hno : ∀ message, Utf8.encode message ≠ bytes := by
        rintro message rfl
        simp [Utf8.decode?_encode] at hdecode
      have hresult : ReadStop.result ⟨bytes, none, after⟩ = .error .notText := by
        simp only [ReadStop.result, hdecode]
      exact ⟨by simp, fun _ message ↦ by simp [hresult, hno message],
        fun _ ↦ by simp [hresult, hno], by simp [hresult], rfl⟩

/-- A text is read back from every way of cutting its encoding. -/
theorem readMessage_of_pieces {source : List Chunk} (h : ∀ chunk ∈ source, chunk.goesOn = true)
    {message : String} (hbytes : source.flatMap Chunk.piece = Utf8.encode message) :
    readMessage source = ⟨.ok message, 0⟩ := by
  have hreading := isReading_of_stopsAt (.ending h)
  have hresult := (hreading.ok_iff rfl message).2 hbytes.symm
  have hleft := hreading.left
  generalize readMessage source = read at hresult hleft
  obtain ⟨result, left⟩ := read
  obtain rfl : result = .ok message := hresult
  obtain rfl : left = 0 := hleft
  rfl

/-- **The stop settles the reading.** Every source has a stop, and what comes of reading it is told
by the stop and by the bytes before it. Where the same bytes come before the same rest, cut in
whatever way and with whatever interruptions, the same is read and the same is left; and from all
of these the text of the bytes is read back. A failure is reported with its own kind and text. -/
theorem stop_settles_reading :
    (∀ source, ∃ before failure after, StopsAt source before failure after) ∧
    (∀ source before failure after, StopsAt source before failure after →
      IsReading (before.flatMap Chunk.piece) failure after (readMessage source)) ∧
    (∀ before before' after, (∀ chunk ∈ before, chunk.goesOn = true) →
      (∀ chunk ∈ before', chunk.goesOn = true) →
      before.flatMap Chunk.piece = before'.flatMap Chunk.piece →
      readMessage (before ++ after) = readMessage (before' ++ after)) ∧
    (∀ message source, (∀ chunk ∈ source, chunk.goesOn = true) →
      source.flatMap Chunk.piece = Utf8.encode message →
      readMessage source = ⟨.ok message, 0⟩) ∧
    (∀ failure, (SendError.unread failure).message = "failed to read message from stdin" ∧
      (SendError.unread failure).kindName = failure.fault.name ∧
      (SendError.unread failure).causes = [failure.text]) ∧
    ReadFailure.notText.fault.name = "InvalidData" :=
  ⟨exists_stopsAt, fun _ _ _ _ h ↦ isReading_of_stopsAt h,
    fun _ _ after h h' hbytes ↦ readMessage_append_congr h h' hbytes after,
    fun _ _ h hbytes ↦ readMessage_of_pieces h hbytes, fun _ ↦ ⟨rfl, rfl, rfl⟩, rfl⟩

/-- The two bytes of a letter, with an interruption between them. -/
private def halvedLetter : List Chunk :=
  [.bytes [0xC3], .failure (.ofFault .interrupted), .bytes [0xA9]]

/-- A broken pipe. -/
private def brokenPipe : ReadFailure :=
  .ofFault .brokenPipe

theorem halved_letter_is_read :
    (readMessage (halvedLetter ++ [.bytes [], .bytes [0xFF]]) =
        readMessage ([.bytes [0xC3, 0xA9]] ++ [.bytes [], .bytes [0xFF]])) ∧
      readMessage halvedLetter = ⟨.ok "é", 0⟩ ∧
      (readMessage ([.bytes [0xC3]] ++ .failure brokenPipe :: halvedLetter)).result =
        .error brokenPipe ∧
      (readMessage ([.bytes [0xC3]] ++ .bytes [] :: halvedLetter)).result = .error .notText ∧
      (readMessage ([.bytes [0xC3]] ++ .bytes [] :: halvedLetter)).left = 3 := by
  obtain ⟨-, hreading, hcongr, hpieces, -⟩ := stop_settles_reading
  have hgoesOn : ∀ chunk ∈ [Chunk.bytes [0xC3]], chunk.goesOn = true := by decide
  have hempty := hreading _ _ _ _ (.emptyPiece hgoesOn halvedLetter)
  refine ⟨hcongr _ _ _ (by decide) (by decide) rfl, hpieces _ _ (by decide) rfl, ?_, ?_,
    hempty.left⟩
  · exact (hreading _ _ _ _ (.failure hgoesOn (by decide) halvedLetter)).failed _ rfl
  · refine (hempty.notText_iff rfl).2 fun message hmessage ↦ ?_
    have hnone : Utf8.decode? [0xC3] = none := by decide +kernel
    cases hnone.symm.trans (Utf8.decode?_eq_some_iff.2 hmessage.symm)

end ChatHook
