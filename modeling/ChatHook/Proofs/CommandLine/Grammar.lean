import ChatHook.CommandLine.Arguments
import Mathlib.Tactic.SplitIfs

/-!
# Arguments that give a destination

Behind the name of the program a destination stands alone, in front of a closing `--`, or behind an
opening one (`Gives`). Without an opening `--` it must not look like an option; behind one it may be
anything, another `--` included. Nothing else gives a destination (`destination?_eq_ok_some_iff`),
and only no arguments at all, or a lone `--`, leave it open (`destination?_eq_ok_none_iff`). Of what
is refused, a text was asked for only where an option of its name or letter stands in front of the
first `--` (`refusal_of_destination?`).

## Main results

* `writes_ofBytes`: the four things that an argument can be.
* `parse_eq_ok_iff`, `isRefusal_of_parse`: which arguments are parsed, and why others are not.
* `parse_follows_grammar`: both together.
-/

namespace ChatHook.CommandLine

/-! ### One argument -/

/-- The mark behind which nothing is an option, as it is written. -/
def escapeMark : Bytes := [dash, dash]

/-- Bytes that are not taken for an option or a mark: a lone dash, and everything that does not
start with one. -/
def LooksPlain (bytes : Bytes) : Prop :=
  bytes = [dash] ∨ bytes.head? ≠ some dash

instance (bytes : Bytes) : Decidable (LooksPlain bytes) :=
  inferInstanceAs (Decidable (_ ∨ _))

/-- Everything that an argument can be, with the bytes that write it. -/
inductive Argument.Writes : Argument → Bytes → Prop
  | escape : Writes .escape escapeMark
  | long {rest : Bytes} (hrest : rest ≠ []) : Writes (.ofLong rest) (dash :: dash :: rest)
  | short {letter : UInt8} (hletter : letter ≠ dash) (letters : Bytes) :
      Writes (.short (letter :: letters)) (dash :: letter :: letters)
  | plain {bytes : Bytes} (hplain : LooksPlain bytes) : Writes (.plain bytes) bytes

theorem writes_ofBytes (bytes : Bytes) : (Argument.ofBytes bytes).Writes bytes := by
  match bytes with
  | [] => exact .plain (.inr nofun)
  | [a] =>
    refine .plain ?_
    by_cases ha : a = dash
    · exact .inl (ha ▸ rfl)
    · exact .inr (by simpa using ha)
  | a :: b :: rest =>
    rw [Argument.ofBytes]
    split_ifs with ha hb hrest
    · obtain rfl := List.isEmpty_iff.1 hrest
      rw [ha, hb]
      exact .escape
    · rw [ha, hb]
      exact .long (by simpa using hrest)
    · rw [ha]
      exact .short hb rest
    · exact .plain (.inr (by simpa using ha))

theorem ofBytes_of_looksPlain {bytes : Bytes} (h : LooksPlain bytes) :
    Argument.ofBytes bytes = .plain bytes := by
  rcases h with rfl | h
  · rfl
  · match bytes with
    | [] => rfl
    | [a] => rfl
    | a :: b :: rest => rw [Argument.ofBytes, if_neg (by simpa using h)]

theorem not_looksPlain_escapeMark : ¬LooksPlain escapeMark := by
  simp [LooksPlain, escapeMark]

/-! ### One argument after the other -/

section Destination

variable {argument destination : Bytes} {arguments : List Bytes} {held : Option Bytes}

/-- Behind the mark the first argument is the destination. -/
theorem destination?_none_true_cons :
    destination? none true (argument :: arguments) = destination? (some argument) true arguments :=
  rfl

/-- Behind a destination and the mark nothing may follow. -/
theorem destination?_some_true_cons :
    destination? (some destination) true (argument :: arguments) =
      .error (.surplus (Utf8.display argument)) := rfl

theorem destination?_escapeMark :
    destination? held false (escapeMark :: arguments) = destination? held true arguments := rfl

/-- In front of the mark the first argument that looks plain is the destination. -/
theorem destination?_none_false_cons (h : LooksPlain argument) :
    destination? none false (argument :: arguments) =
      destination? (some argument) false arguments := by
  rw [destination?, if_neg Bool.false_ne_true, ofBytes_of_looksPlain h]

/-- Behind a destination no other argument may look plain. -/
theorem destination?_some_false_cons (h : LooksPlain argument) :
    destination? (some destination) false (argument :: arguments) =
      .error (.surplus (Utf8.display argument)) := by
  rw [destination?, if_neg Bool.false_ne_true, ofBytes_of_looksPlain h]

end Destination

/-! ### Refused arguments -/

/-- A text is asked for by an option: by its long name, or by its letter, whatever follows it. -/
inductive Asks : Flag → Bytes → Prop
  | name (flag : Flag) : Asks flag (Utf8.encode ("--" ++ flag.name))
  | help (letters : Bytes) : Asks .help (Utf8.encode "-h" ++ letters)
  | version (letters : Bytes) : Asks .version (Utf8.encode "-V" ++ letters)

/-- A cause for which an argument may be refused: it does not say that an argument is missing, and
says that a text is asked for only where the argument does that. -/
structure Refuses (argument : Bytes) (cause : Cause) : Prop where
  present : cause ≠ .missingDestination
  asks : ∀ flag, cause = .asked flag → Asks flag argument

section Refused

variable {argument : Bytes} {arguments : List Bytes} {held : Option Bytes} {flag : Flag}

theorem refuses_ofFlag (h : Asks flag argument) (held : Option Bytes) :
    Refuses argument (.ofFlag held flag) := by
  have hasked : Refuses argument (.asked flag) := by
    refine ⟨nofun, fun flag' hflag ↦ ?_⟩
    obtain rfl := Cause.asked.inj hflag
    exact h
  unfold Cause.ofFlag
  split
  · exact hasked
  · split_ifs
    · exact hasked
    · exact ⟨nofun, nofun⟩

theorem eq_encode_of_ofName? {name : Bytes} (h : Flag.ofName? name = some flag) :
    name = Utf8.encode flag.name := by
  rw [Flag.ofName?] at h
  split_ifs at h with hhelp hversion
  · exact Option.some.inj h ▸ hhelp
  · exact Option.some.inj h ▸ hversion

theorem encode_dashed (flag : Flag) :
    Utf8.encode ("--" ++ flag.name) = dash :: dash :: Utf8.encode flag.name := by
  cases flag <;> rfl

/-- A long option is refused; it asks for a text only by the name alone. -/
theorem refuses_ofLong (rest : Bytes) (held : Option Bytes) :
    ∃ name value, Argument.ofLong rest = .long name value ∧
      Refuses (dash :: dash :: rest) (.ofLong held name value) := by
  refine ⟨_, _, rfl, ?_⟩
  cases hname : Flag.ofName? (rest.takeWhile (· ≠ equals)) with
  | none =>
    simp only [Cause.ofLong, hname]
    exact ⟨nofun, nofun⟩
  | some flag =>
    cases hvalue : rest.dropWhile (· ≠ equals) with
    | nil =>
      simp only [Cause.ofLong, hname]
      have hrest := List.takeWhile_append_dropWhile (p := (· ≠ equals)) (l := rest)
      rw [hvalue, List.append_nil, eq_encode_of_ofName? hname] at hrest
      refine refuses_ofFlag ?_ held
      rw [← hrest, ← encode_dashed]
      exact .name flag
    | cons b value =>
      simp only [Cause.ofLong, hname]
      exact ⟨nofun, nofun⟩

theorem refuses_ofShort (letter : UInt8) (letters : Bytes) (held : Option Bytes) :
    Refuses (dash :: letter :: letters) (.ofShort held (letter :: letters)) := by
  rw [Cause.ofShort]
  simp only [List.head?_cons, Option.bind_some, Flag.ofLetter?]
  split_ifs with hhelp hversion
  · rw [hhelp]
    exact refuses_ofFlag (.help letters) held
  · rw [hversion]
    exact refuses_ofFlag (.version letters) held
  · exact ⟨nofun, nofun⟩

/-- An argument that is no mark and does not look plain is refused. -/
theorem exists_refuses (hmark : argument ≠ escapeMark) (hplain : ¬LooksPlain argument)
    (held : Option Bytes) (arguments : List Bytes) :
    ∃ cause, destination? held false (argument :: arguments) = .error cause ∧
      Refuses argument cause := by
  have hwrites := writes_ofBytes argument
  rw [destination?, if_neg Bool.false_ne_true]
  generalize Argument.ofBytes argument = read at hwrites
  cases hwrites with
  | escape => exact absurd rfl hmark
  | @long rest _ =>
    obtain ⟨name, value, hlong, hrefuses⟩ := refuses_ofLong rest held
    rw [hlong]
    exact ⟨_, rfl, hrefuses⟩
  | @short letter hletter letters => exact ⟨_, rfl, refuses_ofShort letter letters held⟩
  | plain h => exact absurd h hplain

end Refused

/-! ### The destination among arguments -/

/-- Some arguments give a destination. -/
inductive Gives (destination : Bytes) : List Bytes → Prop
  | alone (h : LooksPlain destination) : Gives destination [destination]
  | closed (h : LooksPlain destination) : Gives destination [destination, escapeMark]
  | escaped : Gives destination [escapeMark, destination]

theorem gives_escapeMark_iff {destination : Bytes} {arguments : List Bytes} :
    Gives destination (escapeMark :: arguments) ↔ arguments = [destination] := by
  constructor
  · intro h
    cases h with
    | alone h => exact absurd h not_looksPlain_escapeMark
    | closed h => exact absurd h not_looksPlain_escapeMark
    | escaped => rfl
  · rintro rfl
    exact .escaped

theorem gives_cons_iff {argument destination : Bytes} {arguments : List Bytes}
    (hmark : argument ≠ escapeMark) :
    Gives destination (argument :: arguments) ↔
      LooksPlain argument ∧ (arguments = [] ∨ arguments = [escapeMark]) ∧
        destination = argument := by
  constructor
  · intro h
    cases h with
    | alone h => exact ⟨h, .inl rfl, rfl⟩
    | closed h => exact ⟨h, .inr rfl, rfl⟩
    | escaped => exact absurd rfl hmark
  · rintro ⟨h, rfl | rfl, rfl⟩
    · exact .alone h
    · exact .closed h

section Destination

variable {destination : Bytes} {arguments : List Bytes} {held : Option Bytes}

theorem destination?_some_true_eq_ok_iff :
    destination? (some destination) true arguments = .ok held ↔
      arguments = [] ∧ held = some destination := by
  cases arguments with
  | nil => simp [destination?, eq_comm]
  | cons argument arguments => simp [destination?_some_true_cons]

theorem destination?_none_true_eq_ok_iff :
    destination? none true arguments = .ok held ↔ arguments = held.toList := by
  cases arguments with
  | nil => cases held <;> simp [destination?]
  | cons argument arguments =>
    rw [destination?_none_true_cons, destination?_some_true_eq_ok_iff]
    cases held <;> simp [eq_comm, and_comm]

theorem destination?_some_false_eq_ok_iff :
    destination? (some destination) false arguments = .ok held ↔
      (arguments = [] ∨ arguments = [escapeMark]) ∧ held = some destination := by
  cases arguments with
  | nil => simp [destination?, eq_comm]
  | cons argument arguments =>
    by_cases hmark : argument = escapeMark
    · rw [hmark, destination?_escapeMark, destination?_some_true_eq_ok_iff]
      simp
    · by_cases hplain : LooksPlain argument
      · simp [destination?_some_false_cons hplain, hmark]
      · obtain ⟨cause, hcause, -⟩ := exists_refuses hmark hplain (some destination) arguments
        simp [hcause, hmark]

/-- Arguments leave the destination open where there are none, or nothing but the mark. -/
theorem destination?_eq_ok_none_iff :
    destination? none false arguments = .ok none ↔ arguments = [] ∨ arguments = [escapeMark] := by
  cases arguments with
  | nil => simp [destination?]
  | cons argument arguments =>
    by_cases hmark : argument = escapeMark
    · rw [hmark, destination?_escapeMark, destination?_none_true_eq_ok_iff]
      simp
    · by_cases hplain : LooksPlain argument
      · rw [destination?_none_false_cons hplain, destination?_some_false_eq_ok_iff]
        simp [hmark]
      · obtain ⟨cause, hcause, -⟩ := exists_refuses hmark hplain none arguments
        simp [hcause, hmark]

/-- Arguments come to a destination exactly where they give it. -/
theorem destination?_eq_ok_some_iff :
    destination? none false arguments = .ok (some destination) ↔ Gives destination arguments := by
  cases arguments with
  | nil =>
    simp only [destination?, Except.ok.injEq, reduceCtorEq, false_iff]
    exact nofun
  | cons argument arguments =>
    by_cases hmark : argument = escapeMark
    · rw [hmark, destination?_escapeMark, destination?_none_true_eq_ok_iff, gives_escapeMark_iff,
        Option.toList_some]
    · rw [gives_cons_iff hmark]
      by_cases hplain : LooksPlain argument
      · rw [destination?_none_false_cons hplain, destination?_some_false_eq_ok_iff]
        simp [hplain]
      · obtain ⟨cause, hcause, -⟩ := exists_refuses hmark hplain none arguments
        simp [hcause, hplain]

/-- Arguments are never refused because one is missing, and a text is asked for only by an option
in front of the mark. -/
theorem refusal_of_destination? {escaped : Bool} {cause : Cause}
    (h : destination? held escaped arguments = .error cause) :
    cause ≠ .missingDestination ∧ ∀ flag, cause = .asked flag →
      escaped = false ∧ ∃ argument ∈ arguments.takeWhile (· ≠ escapeMark), Asks flag argument := by
  induction arguments generalizing held escaped with
  | nil => simp [destination?] at h
  | cons argument arguments ih =>
    cases escaped with
    | true =>
      cases held with
      | none =>
        obtain ⟨hpresent, hasked⟩ := ih h
        exact ⟨hpresent, fun flag hflag ↦ by simpa using (hasked flag hflag).1⟩
      | some destination =>
        rw [destination?_some_true_cons] at h
        cases h
        exact ⟨nofun, nofun⟩
    | false =>
      by_cases hmark : argument = escapeMark
      · rw [hmark, destination?_escapeMark] at h
        obtain ⟨hpresent, hasked⟩ := ih h
        exact ⟨hpresent, fun flag hflag ↦ by simpa using (hasked flag hflag).1⟩
      · rw [List.takeWhile_cons_of_pos (by simpa using hmark)]
        by_cases hplain : LooksPlain argument
        · cases held with
          | none =>
            rw [destination?_none_false_cons hplain] at h
            obtain ⟨hpresent, hasked⟩ := ih h
            refine ⟨hpresent, fun flag hflag ↦ ⟨rfl, ?_⟩⟩
            obtain ⟨-, asking, hmem, hasks⟩ := hasked flag hflag
            exact ⟨asking, List.mem_cons_of_mem _ hmem, hasks⟩
          | some destination =>
            rw [destination?_some_false_cons hplain] at h
            cases h
            exact ⟨nofun, nofun⟩
        · obtain ⟨cause', hcause', hrefuses⟩ := exists_refuses hmark hplain held arguments
          obtain rfl := Except.error.inj (hcause'.symm.trans h)
          exact ⟨hrefuses.present, fun flag hflag ↦
            ⟨rfl, argument, List.mem_cons_self, hrefuses.asks flag hflag⟩⟩

end Destination

/-! ### Texts -/

section Parse

variable {arguments : List Bytes}

theorem given?_eq_ok_none_iff :
    given? arguments = .ok none ↔ arguments = [] ∨ arguments = [escapeMark] := by
  rw [← destination?_eq_ok_none_iff, given?]
  rcases destination? none false arguments with cause | ⟨_ | bytes⟩
  · simp
  · simp
  · cases hdecode : Utf8.decode? bytes <;> simp [hdecode]

theorem given?_eq_ok_some_iff {text : String} :
    given? arguments = .ok (some text) ↔ Gives (Utf8.encode text) arguments := by
  rw [← destination?_eq_ok_some_iff, given?]
  rcases destination? none false arguments with cause | ⟨_ | bytes⟩
  · simp
  · simp
  · cases hdecode : Utf8.decode? bytes <;> simp [hdecode, ← Utf8.decode?_eq_some_iff]

theorem refusal_of_given? {cause : Cause} (h : given? arguments = .error cause) :
    cause ≠ .missingDestination ∧ ∀ flag, cause = .asked flag →
      ∃ argument ∈ arguments.takeWhile (· ≠ escapeMark), Asks flag argument := by
  rw [given?] at h
  rcases hdestination : destination? none false arguments with cause' | ⟨_ | bytes⟩
  · rw [hdestination] at h
    obtain rfl := Except.error.inj h
    obtain ⟨hpresent, hasked⟩ := refusal_of_destination? hdestination
    exact ⟨hpresent, fun flag hflag ↦ (hasked flag hflag).2⟩
  · simp [hdestination] at h
  · -- A destination that is no text is refused for that.
    cases hdecode : Utf8.decode? bytes with
    | some text => simp [hdestination, hdecode] at h
    | none =>
      obtain rfl : Cause.notText = cause := by simpa [hdestination, hdecode] using h
      exact ⟨nofun, nofun⟩

/-- Arguments are parsed exactly where they give the encoding of a text, and come to this text. -/
theorem parse_eq_ok_iff {text : String} :
    parse arguments = .ok text ↔ Gives (Utf8.encode text) arguments.tail := by
  rw [← given?_eq_ok_some_iff, parse]
  rcases given? arguments.tail with cause | ⟨_ | given⟩ <;> simp

/-- Why arguments that are not parsed are refused, as far as it can be told from outside. -/
structure IsRefusal (arguments : List Bytes) (notice : Notice) : Prop where
  /-- The exit code is 0 only for a text that was asked for in front of the mark. It is shown as
  output. -/
  asked : notice.exitCode = 0 → notice.isMistake = false ∧ ∃ flag, notice.cause = .asked flag ∧
    ∃ argument ∈ arguments.takeWhile (· ≠ escapeMark), Asks flag argument
  /-- Every other exit code is 2, and the text is shown as an error. -/
  mistaken : notice.exitCode ≠ 0 → notice.exitCode = 2 ∧ notice.isMistake = true
  missing_iff : notice.kindName = "MissingRequiredArgument" ↔
    arguments = [] ∨ arguments = [escapeMark]

theorem isRefusal_of_parse {notice : Notice} (h : parse arguments = .error notice) :
    IsRefusal arguments.tail notice := by
  have hmistaken : notice.exitCode ≠ 0 → notice.exitCode = 2 ∧ notice.isMistake = true := by
    rw [Ne, Notice.exitCode_eq_zero_iff, Notice.exitCode_eq_two_iff, Bool.not_eq_false, and_self]
    exact id
  rw [parse] at h
  rcases hgiven : given? arguments.tail with cause | ⟨_ | given⟩
  · obtain rfl : _ = notice := by simpa [hgiven] using h
    obtain ⟨hpresent, hasked⟩ := refusal_of_given? hgiven
    refine ⟨fun hcode ↦ ?_, hmistaken, ?_⟩
    · have hmistake := Notice.exitCode_eq_zero_iff.1 hcode
      obtain ⟨flag, hflag⟩ := Notice.isMistake_eq_false_iff.1 hmistake
      exact ⟨hmistake, flag, hflag, hasked flag hflag⟩
    · rw [Notice.kindName_eq_missing_iff, ← given?_eq_ok_none_iff, hgiven]
      simpa using hpresent
  · obtain rfl : _ = notice := by simpa [hgiven] using h
    refine ⟨nofun, hmistaken, ?_⟩
    rw [Notice.kindName_eq_missing_iff, ← given?_eq_ok_none_iff, hgiven]
    simp
  · simp [hgiven] at h

end Parse

/-- The name of the program is missed only in the usage. -/
theorem parse_singleton (name : Bytes) :
    parse [name] = .error ⟨⟨programName [name], true⟩, .missingDestination⟩ := rfl

theorem programName_default : programName [Utf8.encode defaultName] = defaultName := by
  decide +kernel

theorem parse_nil : parse [] = parse [Utf8.encode defaultName] := by
  rw [parse_singleton, programName_default]
  rfl

/-- **The grammar of arguments.** Arguments behind the name of the program are parsed exactly where
they are a destination that looks plain, perhaps in front of `--`, or any destination behind `--`;
then it is the destination that comes out. All others are refused: with the exit code 0 only for a
text that is asked for in front of the first `--`, and otherwise with 2; and a destination is
missing exactly where there are no arguments or nothing but `--`. Without even a name the program
takes its arguments as behind its own. -/
theorem parse_follows_grammar (arguments : List Bytes) :
    (∀ destination, parse arguments = .ok destination ↔
      Gives (Utf8.encode destination) arguments.tail) ∧
    (∀ notice, parse arguments = .error notice → IsRefusal arguments.tail notice) ∧
    parse [] = parse [Utf8.encode defaultName] ∧
    ∀ name, parse [name] = .error ⟨⟨programName [name], true⟩, .missingDestination⟩ :=
  ⟨fun _ ↦ parse_eq_ok_iff, fun _ h ↦ isRefusal_of_parse h, parse_nil, parse_singleton⟩

/-- The name of a program in front of some arguments. -/
private def post (arguments : List String) : List Bytes :=
  ("/bin/post" :: arguments).map Utf8.encode

theorem arguments_around_marks :
    parse (post ["--", "--"]) = .ok "--" ∧ parse (post ["-", "--"]) = .ok "-" ∧
      parse (post [""]) = .ok "" ∧ parse (post ["-x"]) ≠ .ok "-x" ∧
      (∃ notice, parse (post ["a", "-hx", "--"]) = .error notice ∧
        notice.cause = .asked .help ∧ IsRefusal (post ["a", "-hx", "--"]).tail notice) ∧
      ∃ notice, parse (post ["--", "-h", "-V"]) = .error notice ∧ notice.exitCode = 2 ∧
        IsRefusal (post ["--", "-h", "-V"]).tail notice := by
  refine ⟨?_, ?_, ?_, ?_, ?_, ?_⟩
  · exact ((parse_follows_grammar _).1 _).2 .escaped
  · exact ((parse_follows_grammar _).1 _).2 (.closed (.inl rfl))
  · exact ((parse_follows_grammar _).1 _).2 (.alone (.inr nofun))
  · intro h
    cases ((parse_follows_grammar _).1 _).1 h with
    | alone hplain => exact absurd hplain (by decide)
  · exact ⟨_, rfl, rfl, (parse_follows_grammar _).2.1 _ rfl⟩
  · exact ⟨_, rfl, rfl, (parse_follows_grammar _).2.1 _ rfl⟩

end ChatHook.CommandLine
