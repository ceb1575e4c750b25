import ChatHook.CommandLine.Notice
import ChatHook.Text.Quoted

/-!
# Arguments

The arguments of the program are its own name and one destination, before or after a `--`, behind
which nothing is an option. The first argument that does not fit decides what is said about them;
arguments are bytes, and only the destination has to be text. Parsing takes a destination from
arguments, updating takes it from arguments or keeps the old one.
-/

namespace ChatHook.CommandLine

/-! ## One argument -/

/-- The byte of a dash. -/
def dash : UInt8 := 0x2D

/-- The byte of an equals sign. -/
def equals : UInt8 := 0x3D

/-- What one argument is, as long as arguments may be options. -/
inductive Argument where
  /-- The mark behind which nothing is an option. -/
  | escape
  /-- An option by its name, with a value if an equals sign follows it. -/
  | long (name : Bytes) (value : Option Bytes)
  /-- Options by their letters. -/
  | short (letters : Bytes)
  | plain (value : Bytes)
deriving DecidableEq

/-- The option that is named behind two dashes. -/
def Argument.ofLong (bytes : Bytes) : Argument :=
  .long (bytes.takeWhile (· ≠ equals))
    (match bytes.dropWhile (· ≠ equals) with
    | [] => none
    | _ :: value => some value)

/-- What an argument is. -/
def Argument.ofBytes : Bytes → Argument
  | a :: b :: rest =>
    if a = dash then
      if b = dash then if rest.isEmpty then .escape else .ofLong rest
      else .short (b :: rest)
    else .plain (a :: b :: rest)
  | bytes => .plain bytes

/-! ## Why arguments are not taken -/

/-- What asking for a text comes to behind a destination, which has to be text itself. -/
def Cause.ofFlag (held : Option Bytes) (f : Flag) : Cause :=
  match held with
  | none => .asked f
  | some bytes => if (Utf8.decode? bytes).isSome then .asked f else .notText

/-- What a long option comes to behind a destination, if there is one. -/
def Cause.ofLong (held : Option Bytes) (name : Bytes) (value : Option Bytes) : Cause :=
  match Flag.ofName? name, value with
  | some f, none => .ofFlag held f
  | some f, some value => .flagValue f (Utf8.display value)
  | none, _ =>
    let word := Utf8.display name
    .unknownName ("--" ++ word) (Flag.similar? word) held.isSome

/-- The first character of some bytes, or all of them if they do not start with a character. -/
def firstShown (bytes : Bytes) : String :=
  match (List.range 5).findSome? fun n ↦
    (Utf8.decode? (bytes.take n)).filter (!·.isEmpty) with
  | some text => text
  | none => Utf8.display bytes

/-- What options by letters come to: the first letter decides. -/
def Cause.ofShort (held : Option Bytes) (letters : Bytes) : Cause :=
  match letters.head?.bind Flag.ofLetter? with
  | some f => .ofFlag held f
  | none => .unknownLetter ("-" ++ firstShown letters)

/-! ## All arguments -/

/-- The destination among some arguments, if there is one. `held` is a destination before them, and
`escaped` tells whether options have ended. -/
def destination? (held : Option Bytes) (escaped : Bool) : List Bytes → Except Cause (Option Bytes)
  | [] => .ok held
  | argument :: arguments =>
    match if escaped then .plain argument else Argument.ofBytes argument with
    | .escape => destination? held true arguments
    | .long name value => .error (.ofLong held name value)
    | .short letters => .error (.ofShort held letters)
    | .plain value =>
      match held with
      | none => destination? (some value) escaped arguments
      | some _ => .error (.surplus (Utf8.display value))

/-- The destination among some arguments as text, if there is one. -/
def given? (arguments : List Bytes) : Except Cause (Option String) :=
  match destination? none false arguments with
  | .error cause => .error cause
  | .ok none => .ok none
  | .ok (some bytes) =>
    match Utf8.decode? bytes with
    | some text => .ok (some text)
    | none => .error .notText

/-- The name that a path ends in; none for a path to the parent, the root or nothing. -/
def fileName? (path : Bytes) : Option Bytes :=
  let parts := (path.splitOn 0x2F).filter fun part ↦ !(part.isEmpty || part = Utf8.encode ".")
  parts.getLast?.filter (· ≠ Utf8.encode "..")

/-- The name of the program: what the path in front of its arguments ends in. -/
def programName (arguments : List Bytes) : String :=
  ((arguments.head?.bind fileName?).bind Utf8.decode?).getD defaultName

/-- The destination that the arguments of the program give. -/
def parse (arguments : List Bytes) : Except Notice String :=
  let usage : Usage := ⟨programName arguments, true⟩
  match given? arguments.tail with
  | .error cause => .error ⟨usage, cause⟩
  | .ok none => .error ⟨usage, .missingDestination⟩
  | .ok (some text) => .ok text

/-- The destination after arguments that may give another one. -/
def update (current : String) (arguments : List Bytes) : Except Notice String :=
  match given? arguments.tail with
  | .error cause => .error ⟨⟨programName arguments, false⟩, cause⟩
  | .ok given => .ok (given.getD current)

/-- What came of one update: the destination after it, and the notice if it failed. -/
structure Update where
  destination : String
  notice : Option Notice

/-- Updates a destination by one list of arguments after the other; one that fails changes
nothing. -/
def updates (current : String) : List (List Bytes) → List Update
  | [] => []
  | arguments :: more =>
    match update current arguments with
    | .ok next => ⟨next, none⟩ :: updates next more
    | .error notice => ⟨current, some notice⟩ :: updates current more

/-- A destination taken from a command line, shown for inspection. -/
def inspect (destination : String) : String :=
  "Cli \x7b destination: " ++ Text.quoted destination ++ " \x7d"

end ChatHook.CommandLine
