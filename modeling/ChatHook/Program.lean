import ChatHook.CommandLine.Arguments
import ChatHook.Log
import ChatHook.Webhook

/-!
# The program

The program takes a destination from its arguments, reads its standard input as the message and
posts it. What it shows is a function of its arguments, its input, its log setting and the network:
warnings about the setting, the lines of the log, and at the end the notice or the error if there
is one.
-/

namespace ChatHook

open Http

/-- What the program is started with: its arguments, its own name first, its input and the setting
of its log. -/
structure Invocation where
  arguments : List Bytes
  input : Bytes
  logSetting : Option String

/-- What the program leaves behind. -/
structure Execution where
  exitCode : Nat
  output : String
  errors : String
  requests : List Request

/-! ## Errors -/

/-- A cause behind its number, if it has one; further lines of it are indented as far. -/
def causeText (number : Option Nat) (cause : String) : String :=
  let margin := number.elim 4 fun _ ↦ 7
  let start := number.elim "    " fun n ↦
    String.ofList (List.replicate (5 - (toString n).length) ' ') ++ toString n ++ ": "
  start ++ ("\n" ++ String.ofList (List.replicate margin ' ')).intercalate
    ((cause.toList.splitOn '\n').map String.ofList)

/-- The causes one under the other, numbered if there are several. -/
def causesText (causes : List String) : String :=
  match causes with
  | [] => ""
  | [cause] => "\n\nCaused by:\n" ++ causeText none cause
  | causes =>
    "\n\nCaused by:\n" ++
      "\n".intercalate (causes.zipIdx.map fun (cause, n) ↦ causeText (some n) cause)

/-- An error as the program shows it. -/
def SendError.report (e : SendError) : String :=
  "Error: " ++ e.message ++ causesText e.causes ++ "\n"

/-! ## Running -/

/-- What is shown of the log and its setting: the filter, and the warnings as lines. -/
def logStart (setting : Option String) : LogFilter × List String :=
  match setting with
  | none => (.standard, [])
  | some setting =>
    let (filter, warnings) := LogFilter.read setting
    (filter, warnings.map fun w ↦ w.text ++ "\n")

/-- One run of the program. -/
def execute (network : Network) (invocation : Invocation) (answers : List Answer) : Execution :=
  let (filter, warnings) := logStart invocation.logSetting
  let shown (lines : List String) := String.join (warnings ++ lines)
  match CommandLine.parse invocation.arguments with
  | .error notice =>
    if notice.isMistake then ⟨notice.exitCode, "", shown [notice.text], []⟩
    else ⟨notice.exitCode, notice.text, shown [], []⟩
  | .ok destination =>
    let outcome := (run network destination [.bytes invocation.input] answers).outcome
    let lines := logLines 0 (outcome.log.filter filter.shows)
    match outcome.result with
    | .ok () => ⟨0, "", shown lines, outcome.requests⟩
    | .error e => ⟨1, "", shown (lines ++ [e.report]), outcome.requests⟩

end ChatHook
