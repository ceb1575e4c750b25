import ChatHook.Proofs.Extent

/-!
# Written heads

The plain form of a response head: a version, a code of three digits, a reason, fields with their
values behind a colon and a space, and an empty line, all lines ending in a carriage return and a
line feed. Every head of this form is read, and as what it says (`readHead_bytes`): reasons and
values may be any text without controls, names any tokens, and of the reason nothing is kept. Hence
a response of written heads and any body brings the code of its final head and its first `Location`
(`brings_written`).
-/

namespace ChatHook.Http

/-! ### Fields -/

/-- A header field as it is written: a token, and a text without blanks around it. -/
structure WrittenField where
  name : Bytes
  value : Bytes
  name_ne_nil : name ≠ [] := by decide
  all_isNameByte : name.all isNameByte = true := by decide
  all_isTextByte : value.all isTextByte = true := by decide
  head_not_space : value.head?.any isSpaceByte = false := by decide
  last_not_space : value.getLast?.any isSpaceByte = false := by decide

namespace WrittenField

/-- The line of a field. -/
def bytes (f : WrittenField) : Bytes :=
  f.name ++ 0x3A :: 0x20 :: (f.value ++ [cr, lf])

/-- The field that a line writes. -/
def field (f : WrittenField) : Field :=
  ⟨f.name.map lowerByte, f.value⟩

end WrittenField

theorem readName_append {name : Bytes} (h : ∀ b ∈ name, isNameByte b = true) {seen : Bytes}
    (hseen : seen ≠ [] ∨ name ≠ []) (rest : Bytes) :
    readName seen (name ++ 0x3A :: rest) = .done (seen.reverse ++ name.map lowerByte) rest := by
  induction name generalizing seen with
  | nil =>
    have hcolon : isNameByte 0x3A = false := by decide
    rw [List.nil_append, readName, hcolon, if_neg Bool.false_ne_true,
      if_pos ⟨rfl, by simpa using hseen⟩]
    simp
  | cons b name ih =>
    obtain ⟨hb, hname⟩ := List.forall_mem_cons.1 h
    rw [List.cons_append, readName, if_pos hb, ih hname (.inl (List.cons_ne_nil _ _))]
    simp

theorem readValue_append {value : Bytes} (h : ∀ b ∈ value, isTextByte b = true) {seen : Bytes}
    (hseen : seen ≠ [] ∨ value.head?.any isSpaceByte = false) (rest : Bytes) :
    readValue seen (value ++ rest) = readValue (value.reverse ++ seen) rest := by
  induction value generalizing seen with
  | nil => rfl
  | cons b value ih =>
    obtain ⟨hb, hvalue⟩ := List.forall_mem_cons.1 h
    have hkept : (seen.isEmpty && isSpaceByte b) = false := by
      rcases hseen with hseen | hstart
      · simp [hseen]
      · have hb : isSpaceByte b = false := hstart
        simp [hb]
    rw [List.cons_append, readValue, if_pos hb, hkept, if_neg Bool.false_ne_true,
      ih hvalue (.inl (List.cons_ne_nil b seen))]
    simp

/-- A written field is read. -/
theorem readField_bytes (f : WrittenField) (rest : Bytes) :
    readField (f.bytes ++ rest) = .done f.field rest := by
  have hlast : f.value.reverse.dropWhile isSpaceByte = f.value.reverse := by
    cases hreverse : f.value.reverse with
    | nil => rfl
    | cons b bytes =>
      have hb : isSpaceByte b = false := by
        have hlast := f.last_not_space
        rw [List.getLast?_eq_head?_reverse, hreverse] at hlast
        exact hlast
      rw [List.dropWhile_cons_of_neg (by simp [hb])]
  have hvalue : readValue [] (0x20 :: (f.value ++ cr :: lf :: rest)) = .done f.value rest := by
    have hspace : readValue [] (0x20 :: (f.value ++ cr :: lf :: rest)) =
        readValue [] (f.value ++ cr :: lf :: rest) := rfl
    have hend : ∀ seen, readValue seen (cr :: lf :: rest) =
        .done (seen.dropWhile isSpaceByte).reverse rest := fun _ ↦ rfl
    rw [hspace, readValue_append (List.all_eq_true.1 f.all_isTextByte) (.inr f.head_not_space),
      hend, List.append_nil, hlast, List.reverse_reverse]
  have hbytes : f.bytes ++ rest = f.name ++ 0x3A :: (0x20 :: (f.value ++ cr :: lf :: rest)) := by
    simp [WrittenField.bytes]
  rw [readField, hbytes,
    readName_append (List.all_eq_true.1 f.all_isNameByte) (.inr f.name_ne_nil)]
  simp only [Scan.andThen, hvalue]
  rfl

/-- The line of a field starts like a field. -/
theorem WrittenField.exists_bytes_eq (f : WrittenField) :
    ∃ b bytes, f.bytes = b :: bytes ∧ isNameByte b = true := by
  obtain ⟨b, name, hname⟩ := List.exists_cons_of_ne_nil f.name_ne_nil
  exact ⟨b, _, by rw [WrittenField.bytes, hname]; rfl,
    List.all_eq_true.1 f.all_isNameByte b (by rw [hname]; exact List.mem_cons_self)⟩

/-- Where a field starts, it is read, and the others behind it. -/
theorem readFields_of_isNameByte {b : UInt8} (hb : isNameByte b = true) (room : Nat)
    (bytes : Bytes) :
    readFields (room + 1) (b :: bytes) = (readField (b :: bytes)).andThen fun field rest ↦
      (readFields room rest).andThen fun fields rest ↦ .done (field :: fields) rest := by
  have hcr : b ≠ cr := by
    rintro rfl
    simp [show isNameByte cr = false by decide] at hb
  have hlf : b ≠ lf := by
    rintro rfl
    simp [show isNameByte lf = false by decide] at hb
  rw [readFields, if_neg hcr, if_neg hlf, if_neg (by simp [hb])]

/-- Written fields and the empty line behind them are read. -/
theorem readFields_bytes (fields : List WrittenField) {room : Nat} (h : fields.length ≤ room)
    (rest : Bytes) :
    readFields room (fields.flatMap WrittenField.bytes ++ cr :: lf :: rest) =
      .done (fields.map WrittenField.field) rest := by
  induction fields generalizing room with
  | nil => cases room <;> rfl
  | cons f fields ih =>
    cases room with
    | zero => simp at h
    | succ room =>
      obtain ⟨b, bytes, hbytes, hb⟩ := f.exists_bytes_eq
      have hfield := readField_bytes f (fields.flatMap WrittenField.bytes ++ cr :: lf :: rest)
      rw [hbytes, List.cons_append] at hfield
      rw [List.flatMap_cons, List.append_assoc, hbytes, List.cons_append,
        readFields_of_isNameByte hb, hfield]
      simp only [Scan.andThen, ih (Nat.le_of_succ_le_succ h)]
      rfl

/-! ### Heads -/

/-- The byte of a decimal digit. -/
def digitByte (d : Nat) : UInt8 :=
  (0x30 + d).toUInt8

theorem readDigit_digitByte {d : Nat} (h : d < 10) (rest : Bytes) :
    readDigit (digitByte d :: rest) = .done d rest := by
  have hdigit : ∀ d < 10, (0x30 ≤ digitByte d ∧ digitByte d ≤ 0x39) ∧
      (digitByte d).toNat - 0x30 = d := by
    decide
  obtain ⟨hrange, hvalue⟩ := hdigit d h
  rw [readDigit, if_pos hrange, hvalue]

/-- A head as it is written: a minor version, a code of three digits, a reason and fields. -/
structure WrittenHead where
  minor : Nat
  code : Nat
  reason : Bytes
  fields : List WrittenField
  minor_le : minor ≤ 1 := by decide
  le_code : 100 ≤ code := by decide
  code_lt : code < 1000 := by decide
  all_isTextByte : reason.all isTextByte = true := by decide
  length_fields_le : fields.length ≤ maxFields := by decide

namespace WrittenHead

/-- The lines of a head. -/
def bytes (h : WrittenHead) : Bytes :=
  Utf8.encode "HTTP/1." ++ digitByte h.minor :: 0x20 :: digitByte (h.code / 100) ::
    digitByte (h.code / 10 % 10) :: digitByte (h.code % 10) :: 0x20 ::
      (h.reason ++ cr :: lf :: (h.fields.flatMap WrittenField.bytes ++ [cr, lf]))

/-- The head that the lines write; the reason has no part in it. -/
def head (h : WrittenHead) : Head :=
  ⟨h.minor, ⟨h.code⟩, h.fields.map WrittenField.field⟩

end WrittenHead

theorem readCode_digitByte {code : Nat} (h : code < 1000) (rest : Bytes) :
    readCode (digitByte (code / 100) :: digitByte (code / 10 % 10) :: digitByte (code % 10) ::
      rest) = .done code rest := by
  rw [readCode, readDigit_digitByte (by omega)]
  simp only [Scan.andThen]
  rw [readDigit_digitByte (by omega)]
  simp only
  rw [readDigit_digitByte (by omega)]
  simp only [Scan.done.injEq, and_true]
  omega

/-- A reason may be any text. -/
theorem skipReason_append {reason : Bytes} (h : ∀ b ∈ reason, isTextByte b = true)
    (rest : Bytes) : skipReason (reason ++ cr :: lf :: rest) = .done () rest := by
  induction reason with
  | nil => rfl
  | cons b reason ih =>
    obtain ⟨hb, hreason⟩ := List.forall_mem_cons.1 h
    have hcr : b ≠ cr := by
      rintro rfl
      simp [show isTextByte cr = false by decide] at hb
    have hlf : b ≠ lf := by
      rintro rfl
      simp [show isTextByte lf = false by decide] at hb
    rw [List.cons_append, skipReason, if_neg hcr, if_neg hlf, if_pos hb, ih hreason]

theorem readVersion_digitByte {minor : Nat} (h : minor ≤ 1) (rest : Bytes) :
    readVersion (Utf8.encode "HTTP/1." ++ digitByte minor :: rest) = .done minor rest := by
  rw [readVersion_append]
  obtain rfl | rfl : minor = 0 ∨ minor = 1 := by omega
  · rfl
  · rfl

/-- Behind its version a head is read from what follows. -/
theorem readHead_version {minor : Nat} (h : minor ≤ 1) (bytes : Bytes) :
    readHead (Utf8.encode "HTTP/1." ++ digitByte minor :: bytes) =
      readBehindVersion minor bytes := by
  -- The first byte of a version ends the empty lines in front of a head.
  have hlines : skipEmptyLines (Utf8.encode "HTTP/1." ++ digitByte minor :: bytes) =
      .done () (Utf8.encode "HTTP/1." ++ digitByte minor :: bytes) :=
    skipEmptyLines_of_ne (b := 0x48) (by decide) (by decide) _
  rw [readHead_eq, hlines, Scan.andThen, readVersion_digitByte h, Scan.andThen]

/-- **A written head is read as what it says.** -/
theorem readHead_bytes (h : WrittenHead) (rest : Bytes) :
    readHead (h.bytes ++ rest) = .done h.head rest := by
  have hbehind : readBehindVersion h.minor (0x20 :: digitByte (h.code / 100) ::
      digitByte (h.code / 10 % 10) :: digitByte (h.code % 10) :: 0x20 :: (h.reason ++ cr :: lf ::
        (h.fields.flatMap WrittenField.bytes ++ cr :: lf :: rest))) = .done h.head rest := by
    have hreason : endStatusLine (0x20 :: (h.reason ++ cr :: lf ::
        (h.fields.flatMap WrittenField.bytes ++ cr :: lf :: rest))) =
      .done () (h.fields.flatMap WrittenField.bytes ++ cr :: lf :: rest) :=
      skipReason_append (List.all_eq_true.1 h.all_isTextByte) _
    have hcode : ¬h.code < 100 := Nat.not_lt.2 h.le_code
    rw [readBehindVersion, if_neg (not_not_intro rfl), readCode_digitByte h.code_lt]
    simp only [Scan.andThen, hreason, readFields_bytes h.fields h.length_fields_le rest,
      if_neg hcode]
    rfl
  have hbytes : h.bytes ++ rest = Utf8.encode "HTTP/1." ++ digitByte h.minor :: (0x20 ::
      digitByte (h.code / 100) :: digitByte (h.code / 10 % 10) :: digitByte (h.code % 10) :: 0x20 ::
        (h.reason ++ cr :: lf :: (h.fields.flatMap WrittenField.bytes ++ cr :: lf :: rest))) := by
    simp [WrittenHead.bytes]
  rw [hbytes, readHead_version h.minor_le, hbehind]

/-! ### Responses -/

/-- The value of the first written field that is a `Location`, in whatever case. -/
def WrittenHead.location? (h : WrittenHead) : Option Bytes :=
  (h.fields.find? fun f ↦ f.name.map lowerByte = Utf8.encode "location").map WrittenField.value

theorem WrittenHead.reply_head (h : WrittenHead) : h.head.reply = ⟨⟨h.code⟩, h.location?⟩ := by
  have hfirst : (h.head.values "location").head? = h.location? := by
    simp only [Head.values, WrittenHead.head, WrittenHead.location?]
    induction h.fields with
    | nil => rfl
    | cons f fields ih =>
      by_cases hname : f.name.map lowerByte = Utf8.encode "location"
      · simp [WrittenField.field, hname]
      · simpa [WrittenField.field, hname] using ih
  rw [Head.reply, hfirst]
  rfl

/-- **Written responses.** Behind any written informational heads, a written final head brings its
code and its first `Location`, unless it contradicts itself about the length of its body. Its
reason, its other fields and everything that follows it may be anything. -/
theorem brings_written {interims : List WrittenHead} {h : WrittenHead}
    (hinterims : ∀ i ∈ interims, i.head.status.isInterim = true)
    (hfinal : h.head.status.isInterim = false) (hlength : h.head.lengthFault? = none)
    (body : Bytes) :
    Brings (interims.flatMap WrittenHead.bytes ++ (h.bytes ++ body)) ⟨⟨h.code⟩, h.location?⟩ := by
  induction interims with
  | nil =>
    rw [← h.reply_head]
    exact .final body (by simpa using readHead_bytes h []) hfinal hlength
  | cons i interims ih =>
    obtain ⟨hi, hinterims⟩ := List.forall_mem_cons.1 hinterims
    rw [List.flatMap_cons, List.append_assoc]
    exact .interim (by simpa using readHead_bytes i []) hi (ih hinterims)

end ChatHook.Http
