import ChatHook.Domain.Classes
import ChatHook.Domain.Mapping
import ChatHook.Domain.Normalization
import ChatHook.Domain.Punycode
import ChatHook.Text.Utf8

/-!
# Domain names in ASCII

A domain name is mapped, normalized and cut into labels; each label is checked, and one outside
ASCII is carried by Punycode behind `xn--`. Empty labels and labels of any length are let through,
and hyphens may stand anywhere.
-/

namespace ChatHook.Domain

/-- Whether a character may not stand in a domain name of a web address: controls, DEL, the space
and the delimiters of addresses. -/
def isForbidden (c : Char) : Bool :=
  c.toNat ≤ 0x20 || c.toNat = 0x7F || "#%/:<>?@[\\]^|".toList.contains c

/-- What becomes of the characters of a name; nothing if one bars it. -/
def map? (cs : List Char) : Option (List Char) :=
  (cs.mapM fun c ↦ (dispositionOf c).image? c).map List.flatten

/-! ## Labels -/

/-- Whether a label keeps the characters that join letters to places where they have a meaning:
behind a virama, or, for the one that keeps letters apart, between letters that would join.
`before` holds the characters already passed, last first. -/
def joinersInPlace (before : List Char) : List Char → Bool
  | [] => true
  | c :: rest =>
    let afterVirama := match before with
      | [] => false
      | p :: _ => combiningClass p.toNat = 9
    let between :=
      let left := (before.map joining).dropWhile (· = .transparent)
      let right := (rest.map joining).dropWhile (· = .transparent)
      (left.head? = some .left || left.head? = some .dual) &&
        (right.head? = some .right || right.head? = some .dual)
    let fits :=
      if c = '\u200C' then afterVirama || between
      else if c = '\u200D' then afterVirama
      else true
    fits && joinersInPlace (c :: before) rest

/-- Whether a label may stand as it is in a name outside ASCII. -/
def isSound (label : List Char) : Bool :=
  !(label.head?.map isMark).getD false &&
    !label.any isForbidden &&
    joinersInPlace [] label

/-- A label that Punycode carries: it decodes, to something outside ASCII, and to characters that
are their own image and in normal form. -/
def carried? (tail : List Char) : Option (List Char) :=
  if 2000 < tail.length then none
  else match Punycode.decode? tail with
    | none => none
    | some label =>
      if label.all (·.toNat < 0x80) then none
      else if label.any (fun c ↦ (dispositionOf c).image? c ≠ some [c]) then none
      else if normalize label ≠ label then none
      else some label

/-- A label in its Unicode form, checked. -/
def label? (cs : List Char) : Option (List Char) :=
  if ['x', 'n', '-', '-'].isPrefixOf cs then
    (carried? (cs.drop 4)).filter isSound
  else if isSound cs then some cs
  else none

/-- A label in its ASCII form. -/
def asciiLabel? (label : List Char) : Option (List Char) :=
  if label.all (·.toNat < 0x80) then some label
  else if 1000 < label.length then none
  else some (['x', 'n', '-', '-'] ++ Punycode.encode label)

/-! ## Right-to-left names -/

/-- Whether a name holds a character written from right to left. -/
def isRightToLeft (cs : List Char) : Bool :=
  cs.any fun c ↦
    let d := direction c
    d = .right || d = .arabicLetter || d = .arabicNumber

/-- Whether a label of a right-to-left name reads unambiguously: its first character settles the
direction, it holds only characters that suit the direction, it ends in a letter or number, and it
does not mix European and Arabic numbers. -/
def isUnambiguous (label : List Char) : Bool :=
  let ds := label.map direction
  let ending := (ds.reverse.dropWhile (· = .mark)).head?
  match ds.head? with
  | none => true
  | some .left =>
    ds.all (fun d ↦ d = .left || d = .europeanNumber || d = .separator || d = .neutral ||
      d = .mark) &&
      (ending = some .left || ending = some .europeanNumber)
  | some d =>
    (d = .right || d = .arabicLetter) &&
      ds.all (fun d ↦ d ≠ .left && d ≠ .other) &&
      (ending = some .right || ending = some .arabicLetter || ending = some .europeanNumber ||
        ending = some .arabicNumber) &&
      !(ds.contains .europeanNumber && ds.contains .arabicNumber)

/-! ## Names -/

/-- The ASCII form of a domain name, if it is one. -/
def toAscii? (cs : List Char) : Option (List Char) :=
  match map? cs with
  | none => none
  | some mapped =>
    match ((normalize mapped).splitOn '.').mapM label? with
    | none => none
    | some labels =>
      if labels.any isRightToLeft && !labels.all isUnambiguous then none
      else (labels.mapM asciiLabel?).map (List.intercalate ['.'])

/-- The ASCII form of a domain name given by bytes, if they are the encoding of one. -/
def ofBytes? (bytes : Bytes) : Option (List Char) :=
  (Utf8.decode? bytes).bind fun text ↦ toAscii? text.toList

end ChatHook.Domain
