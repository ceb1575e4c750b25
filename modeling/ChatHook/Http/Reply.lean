import ChatHook.Http.Head

/-!
# Replies

What a connection answers to a request is read head by head: informational heads are passed over,
and the first other one is the reply. Every head takes at least one byte
(`length_lt_of_readHead`), so reading ends.
-/

namespace ChatHook.Http

/-! ## Reading takes bytes away -/

theorem Scan.andThen_eq_done_iff {α β : Type} {s : Scan α} {next : α → Bytes → Scan β} {b : β}
    {rest : Bytes} :
    s.andThen next = .done b rest ↔
      ∃ a middle, s = .done a middle ∧ next a middle = .done b rest := by
  cases s with
  | done value middle =>
    refine ⟨fun h ↦ ⟨value, middle, rfl, h⟩, fun h ↦ ?_⟩
    obtain ⟨a, m, ha, hnext⟩ := h
    cases ha
    exact hnext
  | short => simp [Scan.andThen]
  | fault f => simp [Scan.andThen]

theorem length_le_of_expectLf {wrong : HeadFault} {bytes rest : Bytes} {u : Unit}
    (h : expectLf wrong bytes = .done u rest) : rest.length ≤ bytes.length := by
  fun_cases expectLf wrong bytes <;> simp_all [expectLf]

theorem length_le_of_skipEmptyLines {bytes rest : Bytes} {u : Unit}
    (h : skipEmptyLines bytes = .done u rest) : rest.length ≤ bytes.length := by
  fun_induction skipEmptyLines bytes <;> simp_all <;> omega

theorem length_le_of_readVersion {bytes rest : Bytes} {n : Nat}
    (h : readVersion bytes = .done n rest) : rest.length ≤ bytes.length := by
  unfold readVersion at h
  grind

theorem length_lt_of_readDigit {bytes rest : Bytes} {n : Nat}
    (h : readDigit bytes = .done n rest) : rest.length < bytes.length := by
  cases bytes with
  | nil => simp [readDigit] at h
  | cons b tail => grind [readDigit]

theorem length_lt_of_readCode {bytes rest : Bytes} {n : Nat}
    (h : readCode bytes = .done n rest) : rest.length < bytes.length := by
  simp only [readCode, Scan.andThen_eq_done_iff] at h
  obtain ⟨_, _, h1, _, _, h2, _, _, h3, h4⟩ := h
  have := length_lt_of_readDigit h1
  have := length_lt_of_readDigit h2
  have := length_lt_of_readDigit h3
  grind

theorem length_le_of_skipReason {bytes rest : Bytes} {u : Unit}
    (h : skipReason bytes = .done u rest) : rest.length ≤ bytes.length := by
  fun_induction skipReason bytes with
  | case1 => simp at h
  | case2 =>
    have := length_le_of_expectLf h
    grind
  | case3 => grind
  | case4 => grind
  | case5 => simp at h

theorem length_le_of_endStatusLine {bytes rest : Bytes} {u : Unit}
    (h : endStatusLine bytes = .done u rest) : rest.length ≤ bytes.length := by
  cases bytes with
  | nil => simp [endStatusLine] at h
  | cons b tail =>
    simp only [endStatusLine] at h
    split at h
    · have := length_le_of_skipReason h
      grind
    · split at h
      · have := length_le_of_expectLf h
        grind
      · grind

theorem length_le_of_readName {seen bytes rest name : Bytes}
    (h : readName seen bytes = .done name rest) : rest.length ≤ bytes.length := by
  fun_induction readName seen bytes <;> grind

theorem length_le_of_readValue {seen bytes rest value : Bytes}
    (h : readValue seen bytes = .done value rest) : rest.length ≤ bytes.length := by
  fun_induction readValue seen bytes with
  | case1 => simp at h
  | case2 => grind
  | case3 =>
    obtain ⟨_, _, h1, h2⟩ := Scan.andThen_eq_done_iff.1 h
    have := length_le_of_expectLf h1
    grind
  | case4 => grind
  | case5 => simp at h

theorem length_le_of_readField {bytes rest : Bytes} {field : Field}
    (h : readField bytes = .done field rest) : rest.length ≤ bytes.length := by
  simp only [readField, Scan.andThen_eq_done_iff] at h
  obtain ⟨_, _, h1, _, _, h2, h3⟩ := h
  have := length_le_of_readName h1
  have := length_le_of_readValue h2
  grind

theorem length_le_of_readFields {room : Nat} {bytes rest : Bytes} {fields : List Field}
    (h : readFields room bytes = .done fields rest) : rest.length ≤ bytes.length := by
  induction room generalizing bytes rest fields with
  | zero =>
    cases bytes with
    | nil => simp [readFields] at h
    | cons b tail =>
      simp only [readFields] at h
      split at h
      · obtain ⟨_, _, h1, h2⟩ := Scan.andThen_eq_done_iff.1 h
        have := length_le_of_expectLf h1
        grind
      · grind
  | succ room ih =>
    cases bytes with
    | nil => simp [readFields] at h
    | cons b tail =>
      simp only [readFields] at h
      split at h
      · obtain ⟨_, _, h1, h2⟩ := Scan.andThen_eq_done_iff.1 h
        have := length_le_of_expectLf h1
        grind
      · split at h
        · grind
        · split at h
          · simp at h
          · obtain ⟨_, middle, h1, h2⟩ := Scan.andThen_eq_done_iff.1 h
            obtain ⟨_, _, h3, h4⟩ := Scan.andThen_eq_done_iff.1 h2
            have := length_le_of_readField h1
            have := ih h3
            grind

theorem length_lt_of_readHead {bytes rest : Bytes} {head : Head}
    (h : readHead bytes = .done head rest) : rest.length < bytes.length := by
  simp only [readHead, Scan.andThen_eq_done_iff] at h
  obtain ⟨_, bytes1, h1, _, bytes2, h2, h3⟩ := h
  have := length_le_of_skipEmptyLines h1
  have := length_le_of_readVersion h2
  split at h3
  · simp at h3
  · split at h3
    · simp at h3
    · simp only [Scan.andThen_eq_done_iff] at h3
      obtain ⟨_, _, h4, _, _, h5, _, _, h6, h7⟩ := h3
      have := length_lt_of_readCode h4
      have := length_le_of_endStatusLine h5
      have := length_le_of_readFields h6
      grind

/-! ## The reply -/

/-- What a send looks at in a response: its status and the first `Location`. -/
structure Reply where
  status : Status
  location : Option Bytes
deriving DecidableEq

/-- What a final head says. -/
def Head.reply (head : Head) : Reply :=
  ⟨head.status, (head.values "location").head?⟩

/-- The reply that a connection gives by sending bytes and closing. -/
def readReply (bytes : Bytes) : Except HeadFault Reply :=
  match _h : readHead bytes with
  | .fault f => .error f
  | .short => .error (if maxHeadSize ≤ bytes.length then .tooLarge else .incomplete)
  | .done head rest =>
    if head.status.isInterim then readReply rest
    else match head.lengthFault? with
      | some f => .error f
      | none => .ok head.reply
termination_by bytes.length
decreasing_by exact length_lt_of_readHead ‹_›

end ChatHook.Http
