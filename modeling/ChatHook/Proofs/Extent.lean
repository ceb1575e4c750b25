import ChatHook.Http.Delivery
import Mathlib.Tactic.SplitIfs

/-!
# Where a head ends

A reader that is done with a piece has read a front of its bytes, and from this front it reads the
same piece whatever stands behind it (`ExactAt`). This passes from one reader to the next behind it
(`ExactAt.andThen`), and so from bytes to lines, to fields and to whole heads. Hence the reply on a
connection is found behind the informational heads in front of it, and nothing behind its own head
has a part in it (`Brings`).

## Main results

* `exactAt_readHead`: a head is read from its own bytes alone.
* `readReply_eq_ok_iff`: which bytes bring which reply.
-/

namespace ChatHook.Http

/-! ### Exact readers -/

section Exact

variable {α β : Type} {read : Bytes → Scan α}

/-- If a reader is done with the bytes, it has read a front of them, and it reads the same from this
front whatever stands behind it. -/
def ExactAt (read : Bytes → Scan α) (bytes : Bytes) : Prop :=
  ∀ a rest, read bytes = .done a rest →
    ∃ front, bytes = front ++ rest ∧ ∀ more, read (front ++ more) = .done a more

theorem exactAt_done (a : α) (bytes : Bytes) : ExactAt (.done a) bytes := by
  intro a' rest h
  cases h
  exact ⟨[], rfl, fun more ↦ rfl⟩

theorem exactAt_fault (fault : HeadFault) (bytes : Bytes) :
    ExactAt (fun _ ↦ (.fault fault : Scan α)) bytes :=
  fun _ _ h ↦ nomatch h

/-- Nothing is read from no bytes by a reader that comes up short there. -/
theorem exactAt_nil (h : read [] = .short) : ExactAt read [] := by
  intro a rest hread
  simp [h] at hread

/-- A reader takes one byte and goes on as another one. -/
theorem ExactAt.cons {next : Bytes → Scan α} {b : UInt8} {bytes : Bytes}
    (hread : ∀ more, read (b :: more) = next more) (h : ExactAt next bytes) :
    ExactAt read (b :: bytes) := by
  intro a rest hdone
  obtain ⟨front, rfl, hfront⟩ := h a rest ((hread bytes).symm.trans hdone)
  exact ⟨b :: front, rfl, fun more ↦ (hread (front ++ more)).trans (hfront more)⟩

/-- A reader goes on as another one, from the same byte on. -/
theorem ExactAt.congr {read' : Bytes → Scan α} {b : UInt8} {bytes : Bytes}
    (hread : ∀ more, read (b :: more) = read' (b :: more)) (hnil : read' [] = .short)
    (h : ExactAt read' (b :: bytes)) : ExactAt read (b :: bytes) := by
  intro a rest hdone
  obtain ⟨front, hbytes, hfront⟩ := h a rest ((hread bytes).symm.trans hdone)
  cases front with
  | nil => simpa [hnil] using hfront []
  | cons c front =>
    obtain rfl : b = c := (List.cons.inj hbytes).1
    exact ⟨b :: front, hbytes, fun more ↦ (hread (front ++ more)).trans (hfront more)⟩

/-- One exact reader behind another. -/
theorem ExactAt.andThen {next : α → Bytes → Scan β} {bytes : Bytes} (h : ExactAt read bytes)
    (hnext : ∀ a rest, ExactAt (next a) rest) :
    ExactAt (fun bytes ↦ (read bytes).andThen next) bytes := by
  intro b rest hdone
  obtain ⟨a, middle, hread, hbehind⟩ := Scan.andThen_eq_done_iff.1 hdone
  obtain ⟨front, rfl, hfront⟩ := h a middle hread
  obtain ⟨back, rfl, hback⟩ := hnext a middle b rest hbehind
  refine ⟨front ++ back, (List.append_assoc front back rest).symm, fun more ↦ ?_⟩
  rw [List.append_assoc]
  exact Scan.andThen_eq_done_iff.2 ⟨a, back ++ more, hfront (back ++ more), hback more⟩

end Exact

/-! ### Lines -/

theorem exactAt_expectLf (wrong : HeadFault) (bytes : Bytes) :
    ExactAt (expectLf wrong) bytes := by
  cases bytes with
  | nil => exact exactAt_nil rfl
  | cons b bytes =>
    by_cases hlf : b = lf
    · exact .cons (fun more ↦ if_pos hlf) (exactAt_done () bytes)
    · exact .cons (fun more ↦ if_neg hlf) (exactAt_fault wrong bytes)

theorem exactAt_readDigit (bytes : Bytes) : ExactAt readDigit bytes := by
  cases bytes with
  | nil => exact exactAt_nil rfl
  | cons b bytes =>
    by_cases hdigit : 0x30 ≤ b ∧ b ≤ 0x39
    · exact .cons (fun more ↦ if_pos hdigit) (exactAt_done _ bytes)
    · exact .cons (fun more ↦ if_neg hdigit) (exactAt_fault _ bytes)

theorem exactAt_readCode (bytes : Bytes) : ExactAt readCode bytes :=
  (exactAt_readDigit bytes).andThen fun _ bytes ↦
    (exactAt_readDigit bytes).andThen fun _ bytes ↦
      (exactAt_readDigit bytes).andThen fun _ bytes ↦ exactAt_done _ bytes

theorem exactAt_skipReason (bytes : Bytes) : ExactAt skipReason bytes := by
  induction bytes with
  | nil => exact exactAt_nil rfl
  | cons b bytes ih =>
    by_cases hcr : b = cr
    · exact .cons (fun more ↦ if_pos hcr) (exactAt_expectLf _ bytes)
    by_cases hlf : b = lf
    · exact .cons (fun more ↦ (if_neg hcr).trans (if_pos hlf)) (exactAt_done () bytes)
    by_cases htext : isTextByte b
    · exact .cons (fun more ↦ (if_neg hcr).trans ((if_neg hlf).trans (if_pos htext))) ih
    · exact .cons (fun more ↦ (if_neg hcr).trans ((if_neg hlf).trans (if_neg htext)))
        (exactAt_fault _ bytes)

theorem exactAt_endStatusLine (bytes : Bytes) : ExactAt endStatusLine bytes := by
  cases bytes with
  | nil => exact exactAt_nil rfl
  | cons b bytes =>
    by_cases hspace : b = 0x20
    · exact .cons (fun more ↦ if_pos hspace) (exactAt_skipReason bytes)
    by_cases hcr : b = cr
    · exact .cons (fun more ↦ (if_neg hspace).trans (if_pos hcr)) (exactAt_expectLf _ bytes)
    by_cases hlf : b = lf
    · exact .cons (fun more ↦ (if_neg hspace).trans ((if_neg hcr).trans (if_pos hlf)))
        (exactAt_done () bytes)
    · exact .cons (fun more ↦ (if_neg hspace).trans ((if_neg hcr).trans (if_neg hlf)))
        (exactAt_fault _ bytes)

/-! ### Fields -/

theorem exactAt_readName (seen bytes : Bytes) : ExactAt (readName seen) bytes := by
  induction bytes generalizing seen with
  | nil => exact exactAt_nil rfl
  | cons b bytes ih =>
    by_cases hname : isNameByte b
    · exact .cons (fun more ↦ if_pos hname) (ih _)
    by_cases hcolon : b = 0x3A ∧ seen ≠ []
    · exact .cons (fun more ↦ (if_neg hname).trans (if_pos hcolon)) (exactAt_done _ bytes)
    · exact .cons (fun more ↦ (if_neg hname).trans (if_neg hcolon)) (exactAt_fault _ bytes)

theorem exactAt_readValue (seen bytes : Bytes) : ExactAt (readValue seen) bytes := by
  induction bytes generalizing seen with
  | nil => exact exactAt_nil rfl
  | cons b bytes ih =>
    by_cases htext : isTextByte b
    · exact .cons (fun more ↦ if_pos htext) (ih _)
    by_cases hcr : b = cr
    · exact .cons (fun more ↦ (if_neg htext).trans (if_pos hcr))
        ((exactAt_expectLf _ bytes).andThen fun _ rest ↦ exactAt_done _ rest)
    by_cases hlf : b = lf
    · exact .cons (fun more ↦ (if_neg htext).trans ((if_neg hcr).trans (if_pos hlf)))
        (exactAt_done _ bytes)
    · exact .cons (fun more ↦ (if_neg htext).trans ((if_neg hcr).trans (if_neg hlf)))
        (exactAt_fault _ bytes)

theorem exactAt_readField (bytes : Bytes) : ExactAt readField bytes :=
  (exactAt_readName [] bytes).andThen fun _ bytes ↦
    (exactAt_readValue [] bytes).andThen fun _ bytes ↦ exactAt_done _ bytes

/-- One field and the fields behind it are read exactly, if those are. -/
private theorem exactAt_readFields_of {room : Nat}
    (h : ∀ n, room = n + 1 → ∀ rest, ExactAt (readFields n) rest) (bytes : Bytes) :
    ExactAt (readFields room) bytes := by
  cases bytes with
  | nil => exact exactAt_nil (by rw [readFields])
  | cons b bytes =>
    by_cases hcr : b = cr
    · have hread : ∀ more, readFields room (b :: more) =
          (expectLf .field more).andThen fun _ rest ↦ .done [] rest := by
        intro more
        rw [readFields.eq_def]
        exact if_pos hcr
      exact .cons hread ((exactAt_expectLf _ bytes).andThen fun _ rest ↦ exactAt_done _ rest)
    by_cases hlf : b = lf
    · have hread : ∀ more, readFields room (b :: more) = .done [] more := by
        intro more
        rw [readFields.eq_def]
        exact (if_neg hcr).trans (if_pos hlf)
      exact .cons hread (exactAt_done _ bytes)
    by_cases hname : !isNameByte b
    · have hread : ∀ more, readFields room (b :: more) = .fault .field := by
        intro more
        rw [readFields.eq_def]
        exact (if_neg hcr).trans ((if_neg hlf).trans (if_pos hname))
      exact .cons hread (exactAt_fault _ bytes)
    cases room with
    | zero =>
      exact .cons (fun more ↦ by rw [readFields, if_neg hcr, if_neg hlf, if_neg hname])
        (exactAt_fault _ bytes)
    | succ room =>
      exact .congr (fun more ↦ by rw [readFields, if_neg hcr, if_neg hlf, if_neg hname]) rfl
        ((exactAt_readField _).andThen fun _ rest ↦
          (h room rfl rest).andThen fun _ rest ↦ exactAt_done _ rest)

theorem exactAt_readFields (room : Nat) (bytes : Bytes) : ExactAt (readFields room) bytes := by
  induction room generalizing bytes with
  | zero => exact exactAt_readFields_of (fun n h ↦ absurd h.symm (Nat.succ_ne_zero n)) bytes
  | succ room ih => exact exactAt_readFields_of (fun n h ↦ Nat.succ.inj h ▸ ih) bytes

/-! ### Heads -/

theorem skipEmptyLines_of_ne {b : UInt8} (hcr : b ≠ cr) (hlf : b ≠ lf) (more : Bytes) :
    skipEmptyLines (b :: more) = .done () (b :: more) := by
  cases more with
  | nil => simp [skipEmptyLines, hcr, hlf]
  | cons c more => simp [skipEmptyLines, hcr, hlf]

theorem skipEmptyLines_lf {bytes : Bytes} (h : bytes ≠ []) :
    skipEmptyLines (lf :: bytes) = skipEmptyLines bytes := by
  cases bytes with
  | nil => exact absurd rfl h
  | cons c bytes => rfl

/-- Behind empty lines anything else is left, and these lines would be skipped in front of any
other byte as well. -/
theorem skipEmptyLines_eq_done {bytes rest : Bytes} (h : skipEmptyLines bytes = .done () rest) :
    ∃ front, bytes = front ++ rest ∧ ∀ b more, b ≠ cr → b ≠ lf →
      skipEmptyLines (front ++ b :: more) = .done () (b :: more) := by
  fun_induction skipEmptyLines bytes with
  | case1 => cases h
  | case2 => cases h
  | case3 b hb =>
    cases h
    exact ⟨[], rfl, fun b more hcr hlf ↦ skipEmptyLines_of_ne hcr hlf more⟩
  | case4 c rest' ih =>
    obtain ⟨front, hbytes, hfront⟩ := ih h
    refine ⟨lf :: front, congrArg (lf :: ·) hbytes, fun b more hcr hlf ↦ ?_⟩
    rw [List.cons_append, skipEmptyLines_lf (by simp)]
    exact hfront b more hcr hlf
  | case5 rest' hne ih =>
    obtain ⟨front, hbytes, hfront⟩ := ih h
    exact ⟨cr :: lf :: front, congrArg (cr :: lf :: ·) hbytes, hfront⟩
  | case6 => cases h
  | case7 b c rest' hlf hcr =>
    cases h
    exact ⟨[], rfl, fun b more hcr hlf ↦ skipEmptyLines_of_ne hcr hlf more⟩

theorem readVersion_append (digit : UInt8) (more : Bytes) :
    readVersion (Utf8.encode "HTTP/1." ++ digit :: more) =
      if digit = 0x30 then .done 0 more
      else if digit = 0x31 then .done 1 more
      else .fault .version := by
  have hknown : Utf8.encode "HTTP/1." = [0x48, 0x54, 0x54, 0x50, 0x2F, 0x31, 0x2E] := by decide
  simp [readVersion, hknown]

/-- A version that is read stands in front of what is left, and is read as the same whatever stands
there. -/
theorem readVersion_eq_done {bytes rest : Bytes} {minor : Nat}
    (h : readVersion bytes = .done minor rest) :
    ∃ digit, bytes = Utf8.encode "HTTP/1." ++ digit :: rest ∧
      ∀ more, readVersion (Utf8.encode "HTTP/1." ++ digit :: more) = .done minor more := by
  have hcut : ∀ digit, bytes.take 8 = Utf8.encode "HTTP/1." ++ [digit] →
      bytes = Utf8.encode "HTTP/1." ++ digit :: bytes.drop 8 := by
    intro digit htake
    rw [← List.singleton_append, ← List.append_assoc, ← htake, List.take_append_drop]
  simp only [readVersion] at h
  split_ifs at h with hlong hzero hone
  · cases h
    exact ⟨0x30, hcut _ hzero, fun more ↦ readVersion_append 0x30 more⟩
  · cases h
    exact ⟨0x31, hcut _ hone, fun more ↦ readVersion_append 0x31 more⟩

/-- What follows a version: a space, a code and the rest of the head. -/
def readBehindVersion (minor : Nat) : Bytes → Scan Head
  | [] => .short
  | b :: bytes =>
    if b ≠ 0x20 then .fault .version
    else
      (readCode bytes).andThen fun code bytes ↦
        (endStatusLine bytes).andThen fun _ bytes ↦
          (readFields maxFields bytes).andThen fun fields bytes ↦
            if code < 100 then .fault .status else .done ⟨minor, ⟨code⟩, fields⟩ bytes

theorem readHead_eq (bytes : Bytes) :
    readHead bytes = (skipEmptyLines bytes).andThen fun _ bytes ↦
      (readVersion bytes).andThen readBehindVersion := rfl

theorem exactAt_readBehindVersion (minor : Nat) (bytes : Bytes) :
    ExactAt (readBehindVersion minor) bytes := by
  cases bytes with
  | nil => exact exactAt_nil rfl
  | cons b bytes =>
    by_cases hspace : b ≠ 0x20
    · exact .cons (fun more ↦ if_pos hspace) (exactAt_fault _ bytes)
    · refine .cons (fun more ↦ if_neg hspace) ((exactAt_readCode bytes).andThen fun code bytes ↦
        (exactAt_endStatusLine bytes).andThen fun _ bytes ↦
          (exactAt_readFields _ bytes).andThen fun fields bytes ↦ ?_)
      by_cases hcode : code < 100
      · simp only [hcode, if_true]
        exact exactAt_fault _ bytes
      · simp only [hcode, if_false]
        exact exactAt_done _ bytes

/-- **A head is read from its own bytes alone.** -/
theorem exactAt_readHead (bytes : Bytes) : ExactAt readHead bytes := by
  intro head rest h
  simp only [readHead_eq, Scan.andThen_eq_done_iff] at h
  obtain ⟨_, middle, hlines, minor, behind, hversion, hbehind⟩ := h
  obtain ⟨front, rfl, hfront⟩ := skipEmptyLines_eq_done hlines
  obtain ⟨digit, rfl, hdigit⟩ := readVersion_eq_done hversion
  obtain ⟨back, rfl, hback⟩ := exactAt_readBehindVersion minor behind head rest hbehind
  refine ⟨front ++ (Utf8.encode "HTTP/1." ++ digit :: back), by simp, fun more ↦ ?_⟩
  simp only [readHead_eq, Scan.andThen_eq_done_iff]
  refine ⟨(), _, ?_, minor, _, hdigit (back ++ more), hback more⟩
  -- The first byte of a version ends the empty lines.
  have hstart : ∀ tail, Utf8.encode "HTTP/1." ++ digit :: tail =
      0x48 :: (Utf8.encode "TTP/1." ++ digit :: tail) := fun _ ↦ rfl
  have hskip := hfront 0x48 (Utf8.encode "TTP/1." ++ digit :: (back ++ more)) (by decide)
    (by decide)
  rw [hstart]
  simpa [hstart] using hskip

/-! ### Replies -/

/-- A stream brings a reply: behind any number of informational heads, each of them complete, stands
a final head that says the reply and nothing contradictory about the length of its body. Anything
may follow this head. -/
inductive Brings : Bytes → Reply → Prop
  | final {front head} (body : Bytes) (hhead : readHead front = .done head [])
      (hfinal : head.status.isInterim = false) (hlength : head.lengthFault? = none) :
      Brings (front ++ body) head.reply
  | interim {front head stream reply} (hhead : readHead front = .done head [])
      (hinterim : head.status.isInterim = true) (h : Brings stream reply) :
      Brings (front ++ stream) reply

/-- A head that is all of some bytes is read as well in front of others. -/
theorem readHead_append {front : Bytes} {head : Head} (h : readHead front = .done head [])
    (more : Bytes) : readHead (front ++ more) = .done head more := by
  obtain ⟨front', hbytes, hfront⟩ := exactAt_readHead front head [] h
  rw [hbytes, List.append_nil]
  exact hfront more

/-- Bytes that start with a head are this head and what is left. -/
theorem exists_eq_append_of_readHead {bytes rest : Bytes} {head : Head}
    (h : readHead bytes = .done head rest) :
    ∃ front, bytes = front ++ rest ∧ readHead front = .done head [] := by
  obtain ⟨front, hbytes, hfront⟩ := exactAt_readHead bytes head rest h
  exact ⟨front, hbytes, by simpa using hfront []⟩

theorem readReply_of_interim {bytes rest : Bytes} {head : Head}
    (h : readHead bytes = .done head rest) (hinterim : head.status.isInterim = true) :
    readReply bytes = readReply rest := by
  rw [readReply]
  split <;> simp_all

theorem readReply_of_final {bytes rest : Bytes} {head : Head}
    (h : readHead bytes = .done head rest) (hfinal : head.status.isInterim = false)
    (hlength : head.lengthFault? = none) : readReply bytes = .ok head.reply := by
  rw [readReply]
  split <;> simp_all

/-- **Which bytes bring which reply.** -/
theorem readReply_eq_ok_iff {stream : Bytes} {reply : Reply} :
    readReply stream = .ok reply ↔ Brings stream reply := by
  constructor
  · intro h
    fun_induction readReply stream with
    | case1 => cases h
    | case2 => cases h
    | case3 stream head rest hhead hinterim ih =>
      obtain ⟨front, rfl, hfront⟩ := exists_eq_append_of_readHead hhead
      exact .interim hfront hinterim (ih h)
    | case4 => cases h
    | case5 stream head rest hhead hfinal hlength =>
      obtain ⟨front, rfl, hfront⟩ := exists_eq_append_of_readHead hhead
      obtain rfl := Except.ok.inj h
      exact .final rest hfront (by simpa using hfinal) hlength
  · intro h
    induction h with
    | final body hhead hfinal hlength =>
      exact readReply_of_final (readHead_append hhead body) hfinal hlength
    | interim hhead hinterim _ ih =>
      rw [readReply_of_interim (readHead_append hhead _) hinterim, ih]

end ChatHook.Http
