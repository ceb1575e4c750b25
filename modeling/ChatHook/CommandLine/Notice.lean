import ChatHook.Text.Likeness
import ChatHook.Text.Plain

/-!
# Notices

What the command line says instead of going on: the help and the version when they are asked for,
and a mistake in the arguments, with a tip where there is one and a usage line. `Notice.text` is
the only place with the wording.
-/

namespace ChatHook.CommandLine

/-- The name of the program where its arguments do not show another. -/
def defaultName : String := "send-discord-message"

/-- The two options, each of which asks for a text. -/
inductive Flag where
  | help
  | version
deriving DecidableEq

namespace Flag

/-- The long name of an option. -/
def name : Flag → String
  | .help => "help"
  | .version => "version"

/-- The option of a letter. -/
def ofLetter? (c : UInt8) : Option Flag :=
  if c = 0x68 then some .help else if c = 0x56 then some .version else none

/-- The option of a long name. -/
def ofName? (name : Bytes) : Option Flag :=
  if name = Utf8.encode Flag.help.name then some .help
  else if name = Utf8.encode Flag.version.name then some .version
  else none

/-- A long name with its dashes. -/
def dashed (f : Flag) : String :=
  "--" ++ f.name

/-- How much a word has to look like an option to be taken for a misspelling of it. -/
def closeEnough : Text.Score := ⟨7, 10⟩

/-- The option that a word looks like most, if it looks enough like one. -/
def similar? (word : String) : Option Flag :=
  let score (f : Flag) := Text.likeness word.toList f.name.toList
  let best := if (score .version).atLeast (score .help) then Flag.version else Flag.help
  if (score best).atLeast closeEnough then some best else none

end Flag

/-- What is at stake in a usage line: the name of the program, and whether it needs a
destination. -/
structure Usage where
  program : String
  needsDestination : Bool
deriving DecidableEq

/-- How the destination is written where it is needed, and where it is not. -/
def placeholder (needed : Bool) : String :=
  if needed then "<DESTINATION>" else "[DESTINATION]"

/-- Why the arguments are not taken. -/
inductive Cause where
  /-- A text is asked for. -/
  | asked (flag : Flag)
  | missingDestination
  /-- The destination is no text. -/
  | notText
  /-- One argument more than there are places for. -/
  | surplus (argument : String)
  | unknownLetter (option : String)
  /-- A long option that does not exist, perhaps one that looks like it, and whether a destination
  stands before it. -/
  | unknownName (option : String) (similar : Option Flag) (afterDestination : Bool)
  /-- A value for an option that takes none. -/
  | flagValue (flag : Flag) (value : String)
deriving DecidableEq

/-- What the command line says instead of going on. -/
structure Notice where
  usage : Usage
  cause : Cause
deriving DecidableEq

namespace Notice

/-- The name of the kind of a notice. -/
def kindName (n : Notice) : String :=
  match n.cause with
  | .asked .help => "DisplayHelp"
  | .asked .version => "DisplayVersion"
  | .missingDestination => "MissingRequiredArgument"
  | .notText => "InvalidUtf8"
  | .surplus _ => "UnknownArgument"
  | .unknownLetter _ => "UnknownArgument"
  | .unknownName _ _ _ => "UnknownArgument"
  | .flagValue _ _ => "TooManyValues"

/-- Whether a notice tells of a mistake. -/
def isMistake (n : Notice) : Bool :=
  match n.cause with
  | .asked _ => false
  | _ => true

/-- The exit code of a program that ends with a notice. -/
def exitCode (n : Notice) : Nat :=
  if n.isMistake then 2 else 0

theorem kindName_eq_missing_iff {n : Notice} :
    n.kindName = "MissingRequiredArgument" ↔ n.cause = .missingDestination := by
  obtain ⟨usage, cause⟩ := n
  rcases cause with (_ | _) | _ | _ | _ | _ | _ | _ <;> simp [kindName]

/-- A text that is asked for is no mistake. -/
theorem isMistake_eq_false_iff {n : Notice} :
    n.isMistake = false ↔ ∃ flag, n.cause = .asked flag := by
  obtain ⟨usage, cause⟩ := n
  cases cause <;> simp [isMistake]

/-- The exit code is 0 or 2, and tells which of them the notice is. -/
theorem exitCode_eq_zero_iff {n : Notice} : n.exitCode = 0 ↔ n.isMistake = false := by
  cases h : n.isMistake <;> simp [exitCode, h]

theorem exitCode_eq_two_iff {n : Notice} : n.exitCode = 2 ↔ n.isMistake = true := by
  cases h : n.isMistake <;> simp [exitCode, h]

/-- The usage line with some options in front of the destination. -/
def usageLine (n : Notice) (options : String) (needed : Bool) : String :=
  "Usage: " ++ n.usage.program ++ options ++ " " ++ placeholder needed

/-- The usage line where nothing is said about options. -/
def plainUsage (n : Notice) : String :=
  n.usageLine "" n.usage.needsDestination

/-- The usage line with one option. -/
def flagUsage (n : Notice) (f : Flag) (needed : Bool) : String :=
  n.usageLine (" " ++ f.dashed) needed

/-- What the program does and takes. -/
def helpText (n : Notice) : String :=
  "Post standard input to a chat webhook as a JSON message\n\n" ++ n.plainUsage ++
    "\n\nArguments:\n  " ++ placeholder n.usage.needsDestination ++
    "  Webhook URL the message is posted to\n\nOptions:\n" ++
    "  -h, --help     Print help\n  -V, --version  Print version\n"

/-- The name of the program and its version. -/
def versionText : String :=
  defaultName ++ " 0.1.0\n"

/-- A mistake: what it is, a tip, if there is one, and a usage line. -/
def mistake (what : String) (tip : Option String) (usage : String) : String :=
  "error: " ++ what ++ "\n\n" ++ ((tip.map fun t ↦ "  tip: " ++ t ++ "\n\n").getD "") ++ usage ++
    "\n\nFor more information, try '--help'.\n"

/-- The complaint about an argument that nobody expects. -/
def unexpected (argument : String) : String :=
  "unexpected argument '" ++ argument ++ "' found"

/-- The tip for an argument that only looks like an option. -/
def escapeTip (argument : String) : String :=
  "to pass '" ++ argument ++ "' as a value, use '-- " ++ argument ++ "'"

/-- The tip for a misspelt option. -/
def similarTip (f : Flag) : String :=
  "a similar argument exists: '" ++ f.dashed ++ "'"

/-- A notice in full, with whatever controls its arguments hold. -/
def rawText (n : Notice) : String :=
  match n.cause with
  | .asked .help => n.helpText
  | .asked .version => versionText
  | .missingDestination =>
    mistake ("the following required arguments were not provided:\n  " ++ placeholder true) none
      n.plainUsage
  | .notText => mistake "invalid UTF-8 was detected in one or more arguments" none n.plainUsage
  | .surplus argument => mistake (unexpected argument) none n.plainUsage
  | .unknownLetter option => mistake (unexpected option) (some (escapeTip option)) n.plainUsage
  | .unknownName option none afterDestination =>
    mistake (unexpected option) (some (escapeTip option))
      (n.usageLine "" (n.usage.needsDestination || afterDestination))
  | .unknownName option (some f) afterDestination =>
    mistake (unexpected option) (some (similarTip f))
      (n.flagUsage f (n.usage.needsDestination || afterDestination))
  | .flagValue f value =>
    mistake ("unexpected value '" ++ value ++ "' for '" ++ f.dashed ++
      "' found; no more were expected") none (n.flagUsage f n.usage.needsDestination)

/-- A notice in full, as a place without colours shows it. -/
def text (n : Notice) : String :=
  Text.plain n.rawText

end Notice

end ChatHook.CommandLine
