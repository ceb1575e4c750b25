import ChatHook.Proofs.WrittenText
import ChatHook.Url.HostText

/-!
# Plain names

A name of small letters, digits and full stops stays as it is on its way to its ASCII form: no range
of the mapping holds one of its characters, none of them is a mark or is written from right to left,
and its labels are neither in need of Punycode nor carried by it. What the tables hold is read off
them item by item (`CodeTable.forall_of_spelled`), where the lines of a table are spelled out first
(`CodeTable.Spelled`).

## Main results

* `dispositionOf_plain`, `isMark_plain`, `direction_plain`: what the tables say about plain
  characters.
* `toAscii?_of_plain`: a plain name is its own ASCII form.
* `specialHost_of_plain`: what a web host with a plain name is.
-/

namespace ChatHook

/-! ### Tables -/

namespace CodeTable

variable {α : Type} {t : CodeTable α}

/-- What is found at a code point is the value of a range around it. -/
theorem exists_entry_of_findIn {c low high : Nat} {value : α}
    (h : t.findIn c low high = some value) :
    ∃ entry ∈ t.entries.toList, entry.1 ≤ c ∧ c ≤ entry.2.1 ∧ entry.2.2 = value := by
  fun_induction findIn t c low high with
  | case1 => cases h
  | case2 low high hlt middle first last found hentry hfirst ih => exact ih h
  | case3 low high hlt middle first last found hentry hfirst hlast ih => exact ih h
  | case4 low high hlt middle first last found hentry hfirst hlast =>
    obtain rfl := Option.some.inj h
    exact ⟨_, by simpa using Array.mem_of_getElem? hentry, by simpa using hfirst,
      by simpa using hlast, rfl⟩
  | case5 => cases h

/-- A condition on the ranges around a code point passes to what is found there. -/
theorem of_find?_eq_some {P : Nat × Nat × α → Bool}
    (hall : ∀ entry ∈ t.entries.toList, P entry = true) {c : Nat} {value : α}
    (h : t.find? c = some value) :
    ∃ first last, first ≤ c ∧ c ≤ last ∧ P (first, last, value) = true := by
  obtain ⟨⟨first, last, found⟩, hmem, hfirst, hlast, rfl⟩ := exists_entry_of_findIn h
  exact ⟨first, last, hfirst, hlast, hall _ hmem⟩

/-- Lines of a table and their characters. -/
inductive Spelled : List String → List (List Char) → Prop
  | nil : Spelled [] []
  | cons {line lines css} (h : Spelled lines css) :
      Spelled (String.ofList line :: lines) (line :: css)

/-- Whether all items in some lines meet a condition. -/
def allItems (value : List Char → α) (p : Nat × Nat × α → Bool) (css : List (List Char)) : Bool :=
  css.all fun line ↦ ((line.splitOn ' ').filterMap (item? value)).all p

/-- A condition that the items in the lines of a table meet holds of its entries. -/
theorem forall_of_spelled {value : List Char → α} {p : Nat × Nat × α → Bool} {lines : List String}
    {css : List (List Char)} (hspelled : Spelled lines css) (h : allItems value p css = true) :
    ∀ entry ∈ (ofLines value lines).entries.toList, p entry = true := by
  have hlines : lines.map String.toList = css := by
    clear h
    induction hspelled with
    | nil => rfl
    | cons _ ih => rw [List.map_cons, String.toList_ofList, ih]
  intro entry hentry
  simp only [ofLines, List.mem_flatMap] at hentry
  obtain ⟨line, hline, hentry⟩ := hentry
  have hmem : line.toList ∈ css := hlines ▸ List.mem_map_of_mem hline
  exact List.all_eq_true.1 (List.all_eq_true.1 h _ hmem) entry hentry

end CodeTable

/-! ### What the tables hold -/

namespace Domain

/-- No range of the mapping holds a small letter, a digit or a full stop. -/
theorem mappingTable_skips : ∀ entry ∈ mappingTable.entries.toList,
    (Nat.blt 0x7A entry.1 || (Nat.blt 0x39 entry.1 && Nat.blt entry.2.1 0x61)) = true := by
  apply CodeTable.forall_of_spelled
  · dsimp only
    repeat apply CodeTable.Spelled.cons
    apply CodeTable.Spelled.nil
  · decide +kernel

/-- The marks are all behind the small letters. -/
theorem markTable_skips : ∀ entry ∈ markTable.entries.toList, Nat.blt 0x7A entry.1 = true := by
  apply CodeTable.forall_of_spelled
  · repeat apply CodeTable.Spelled.cons
    apply CodeTable.Spelled.nil
  · decide +kernel

/-- What is written from right to left is all behind the small letters. -/
theorem directionTable_skips : ∀ entry ∈ directionTable.entries.toList,
    (Nat.blt 0x7A entry.1 || (entry.2.2 ≠ .right && entry.2.2 ≠ .arabicLetter &&
      entry.2.2 ≠ .arabicNumber)) = true := by
  apply CodeTable.forall_of_spelled
  · dsimp only
    repeat apply CodeTable.Spelled.cons
    apply CodeTable.Spelled.nil
  · decide +kernel

end Domain

/-! ### Plain characters -/

/-- Whether a character is a small letter, a digit or a full stop. -/
def isPlainChar (c : Char) : Bool :=
  c.isLower || c.isDigit || c = '.'

theorem toNat_of_isPlainChar {c : Char} (h : isPlainChar c = true) :
    (0x61 ≤ c.toNat ∧ c.toNat ≤ 0x7A) ∨ (0x2E ≤ c.toNat ∧ c.toNat ≤ 0x39 ∧ c.toNat ≠ 0x2F) := by
  have hlower : c.isLower = (decide (c.val ≥ 'a'.val) && decide (c.val ≤ 'z'.val)) := rfl
  simp only [isPlainChar, Bool.or_eq_true, hlower, Char.isDigit, decide_eq_true_eq,
    Bool.and_eq_true, UInt32.le_iff_toNat_le, ge_iff_le] at h
  have hc : c.val.toNat = c.toNat := rfl
  rcases h with (h | h) | rfl
  · change 97 ≤ c.val.toNat ∧ c.val.toNat ≤ 122 at h
    omega
  · change 48 ≤ c.val.toNat ∧ c.val.toNat ≤ 57 at h
    omega
  · decide

theorem ne_of_isPlainChar {c d : Char} (hc : isPlainChar c = true) (hd : isPlainChar d = false) :
    c ≠ d := by
  rintro rfl
  simp [hc] at hd

namespace Domain

variable {c : Char}

theorem dispositionOf_plain (h : isPlainChar c = true) : dispositionOf c = .stays := by
  rw [dispositionOf]
  cases hfound : mappingTable.find? c.toNat with
  | none => rfl
  | some d =>
    obtain ⟨first, last, hfirst, hlast, hskips⟩ :=
      CodeTable.of_find?_eq_some mappingTable_skips hfound
    have hrange := toNat_of_isPlainChar h
    simp only [Bool.or_eq_true, Bool.and_eq_true, Nat.blt_eq] at hskips
    omega

theorem isMark_plain (h : isPlainChar c = true) : isMark c = false := by
  rw [isMark, CodeTable.contains]
  cases hfound : markTable.find? c.toNat with
  | none => rfl
  | some u =>
    obtain ⟨first, last, hfirst, hlast, hskips⟩ :=
      CodeTable.of_find?_eq_some markTable_skips hfound
    have hrange := toNat_of_isPlainChar h
    simp only [Nat.blt_eq] at hskips
    omega

theorem direction_plain (h : isPlainChar c = true) :
    direction c ≠ .right ∧ direction c ≠ .arabicLetter ∧ direction c ≠ .arabicNumber := by
  rw [direction]
  cases hfound : directionTable.find? c.toNat with
  | none => simp
  | some d =>
    obtain ⟨first, last, hfirst, hlast, hskips⟩ :=
      CodeTable.of_find?_eq_some directionTable_skips hfound
    have hrange := toNat_of_isPlainChar h
    have hfirst' : ¬0x7A < first := by omega
    simpa [hfirst', and_assoc] using hskips

/-! ### Plain names -/

theorem mapM_eq_some_self {α : Type} {f : α → Option α} {xs : List α}
    (h : ∀ x ∈ xs, f x = some x) : xs.mapM f = some xs := by
  induction xs with
  | nil => rfl
  | cons x xs ih =>
    obtain ⟨hx, hxs⟩ := List.forall_mem_cons.1 h
    rw [List.mapM_cons, hx, ih hxs]
    rfl

variable {name : List Char}

theorem map?_of_plain (h : ∀ c ∈ name, isPlainChar c = true) : map? name = some name := by
  have hmap : name.mapM (fun c ↦ (dispositionOf c).image? c) = some (name.map fun c ↦ [c]) := by
    induction name with
    | nil => rfl
    | cons c name ih =>
      obtain ⟨hc, hname⟩ := List.forall_mem_cons.1 h
      rw [List.mapM_cons, dispositionOf_plain hc, ih hname]
      rfl
  rw [map?, hmap, Option.map_some, ← List.flatMap_def, List.flatMap_singleton']

theorem normalize_of_plain (h : ∀ c ∈ name, isPlainChar c = true) : normalize name = name := by
  have hlow : name.all (·.toNat < 0x300) = true := by
    rw [List.all_eq_true]
    intro c hc
    have hrange := toNat_of_isPlainChar (h c hc)
    exact decide_eq_true (by omega)
  rw [normalize, if_pos hlow]

theorem joinersInPlace_of_plain (before : List Char) (h : ∀ c ∈ name, isPlainChar c = true) :
    joinersInPlace before name = true := by
  induction name generalizing before with
  | nil => rfl
  | cons c name ih =>
    obtain ⟨hc, hname⟩ := List.forall_mem_cons.1 h
    have hrange := toNat_of_isPlainChar hc
    have hapart : c ≠ '\u200C' := fun heq ↦ by simp [heq] at hrange
    have hjoin : c ≠ '\u200D' := fun heq ↦ by simp [heq] at hrange
    simp only [joinersInPlace, if_neg hapart, if_neg hjoin, Bool.true_and]
    exact ih _ hname

theorem isForbidden_plain (h : isPlainChar c = true) : isForbidden c = false := by
  have hrange := toNat_of_isPlainChar h
  have hdelimiter : ∀ d ∈ "#%/:<>?@[\\]^|".toList, isPlainChar d = false :=
    List.all_iff_forall_prop.1 (by decide)
  have hblank : ¬c.toNat ≤ 0x20 := by omega
  have hdel : c.toNat ≠ 0x7F := by omega
  have hmem : c ∉ "#%/:<>?@[\\]^|".toList := fun hmem ↦ by
    rw [hdelimiter c hmem] at h
    exact Bool.false_ne_true h
  simp only [isForbidden, hblank, hdel, decide_false, Bool.false_or, List.contains_eq_mem,
    decide_eq_false_iff_not]
  exact hmem

/-- A plain label stays as it is. -/
theorem label?_of_plain (h : ∀ c ∈ name, isPlainChar c = true) : label? name = some name := by
  have hcode : ['x', 'n', '-', '-'].isPrefixOf name = false := by
    rw [Bool.eq_false_iff]
    intro hcode
    obtain ⟨rest, rfl⟩ := List.isPrefixOf_iff_prefix.1 hcode
    exact absurd (h '-' (by simp)) (by decide)
  have hmark : (name.head?.map isMark).getD false = false := by
    cases name with
    | nil => rfl
    | cons c name =>
      rw [List.head?_cons, Option.map_some, Option.getD_some, isMark_plain (h c List.mem_cons_self)]
  have hallowed : name.any isForbidden = false :=
    List.any_eq_false.2 fun c hc ↦ by simp [isForbidden_plain (h c hc)]
  have hsound : isSound name = true := by
    rw [isSound, hmark, hallowed, joinersInPlace_of_plain [] h]
    rfl
  rw [label?, hcode, if_neg Bool.false_ne_true, if_pos hsound]

theorem asciiLabel?_of_plain (h : ∀ c ∈ name, isPlainChar c = true) :
    asciiLabel? name = some name := by
  have hlow : name.all (·.toNat < 0x80) = true := by
    rw [List.all_eq_true]
    intro c hc
    have hrange := toNat_of_isPlainChar (h c hc)
    exact decide_eq_true (by omega)
  rw [asciiLabel?, if_pos hlow]

theorem isRightToLeft_of_plain (h : ∀ c ∈ name, isPlainChar c = true) :
    isRightToLeft name = false := by
  rw [isRightToLeft, List.any_eq_false]
  intro c hc
  obtain ⟨hright, hletter, hnumber⟩ := direction_plain (h c hc)
  simp [hright, hletter, hnumber]

/-- The labels of a plain name are plain. -/
theorem isPlainChar_of_mem_splitOn (h : ∀ c ∈ name, isPlainChar c = true) :
    ∀ label ∈ name.splitOn '.', ∀ c ∈ label, isPlainChar c = true := by
  induction name with
  | nil => simp
  | cons c name ih =>
    obtain ⟨hc, hname⟩ := List.forall_mem_cons.1 h
    obtain ⟨label, labels, hlabels⟩ := List.exists_cons_of_ne_nil (List.splitOn_ne_nil '.' name)
    have ih := ih hname
    rw [hlabels, List.forall_mem_cons] at ih
    rw [List.splitOn_cons_eq_if_modifyHead, hlabels]
    split_ifs
    · simpa using ih
    · simpa [hc] using ih

/-- **A plain name is its own ASCII form.** -/
theorem toAscii?_of_plain (h : ∀ c ∈ name, isPlainChar c = true) : toAscii? name = some name := by
  have hplain := isPlainChar_of_mem_splitOn h
  have hlabels : (name.splitOn '.').mapM label? = some (name.splitOn '.') :=
    mapM_eq_some_self fun label hlabel ↦ label?_of_plain (hplain label hlabel)
  have hascii : (name.splitOn '.').mapM asciiLabel? = some (name.splitOn '.') :=
    mapM_eq_some_self fun label hlabel ↦ asciiLabel?_of_plain (hplain label hlabel)
  have hdirection : (name.splitOn '.').any isRightToLeft = false :=
    List.any_eq_false.2 fun label hlabel ↦ by
      simp [isRightToLeft_of_plain (hplain label hlabel)]
  simp only [toAscii?, map?_of_plain h, normalize_of_plain h, hlabels, hdirection, hascii]
  simp [List.intercalate_splitOn]

end Domain

/-! ### Plain hosts -/

namespace Url

/-- Without percent signs nothing is decoded. -/
theorem percentDecode_of_notMem : ∀ {bytes : Bytes}, 0x25 ∉ bytes → percentDecode bytes = bytes
  | [], _ => rfl
  | [_], _ => rfl
  | [_, _], _ => rfl
  | b :: high :: low :: rest, h => by
    have hb : b ≠ 0x25 := fun hb ↦ h (hb ▸ List.mem_cons_self)
    rw [percentDecode, if_neg hb]
    simp only
    rw [percentDecode_of_notMem fun hmem ↦ h (List.mem_cons_of_mem b hmem)]

/-- What a web host with a plain name is: an address if it ends in a number, and a name
otherwise. -/
theorem specialHost_of_plain {name : List Char} (hne : name ≠ [])
    (h : ∀ c ∈ name, isPlainChar c = true) :
    specialHost name =
      if endsInNumber name then
        match ipv4? name with
        | some address => .ok (.ipv4 address)
        | none => .error .invalidIpv4
      else .ok (.named (String.ofList name)) := by
  have hbracket : name.head? ≠ some '[' := fun hhead ↦
    absurd (h '[' (List.mem_of_head? hhead)) (by decide)
  have hbytes : name.flatMap String.utf8EncodeChar = Utf8.encode (String.ofList name) := by
    rw [Utf8.encode_eq_flatMap, String.toList_ofList]
  have hpercent : 0x25 ∉ Utf8.encode (String.ofList name) := by
    intro hmem
    have hchar := Utf8.mem_of_mem_encode (c := '%') (by decide) rfl hmem
    rw [String.toList_ofList] at hchar
    exact absurd (h '%' hchar) (by decide)
  have hname :
      Domain.ofBytes? (percentDecode (name.flatMap String.utf8EncodeChar)) = some name := by
    rw [hbytes, percentDecode_of_notMem hpercent, Domain.ofBytes?, Utf8.decode?_encode]
    simp [Domain.toAscii?_of_plain h]
  have hempty : name.isEmpty = false := by simpa using hne
  cases haddress : ipv4? name with
  | none => simp [specialHost, hbracket, hname, hempty, haddress]
  | some address => simp [specialHost, hbracket, hname, hempty, haddress]

end Url

end ChatHook
