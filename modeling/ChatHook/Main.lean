import ChatHook.Program

/-!
# The command line program

Collects what the program is started with, and shows what it leaves behind. There is no network
behind it.
-/

namespace ChatHook

/-- What this process is started with. -/
def currentInvocation (arguments : List String) : IO Invocation := do
  let name := (← IO.appPath).toString
  let input ← (← IO.getStdin).readBinToEnd
  let logSetting ← IO.getEnv "RUST_LOG"
  return ⟨(name :: arguments).map Utf8.encode, input.data.toList, logSetting⟩

end ChatHook

/-- Runs the program and ends with its exit code. -/
def main (arguments : List String) : IO UInt32 := do
  let execution := ChatHook.execute .down (← ChatHook.currentInvocation arguments) []
  IO.print execution.output
  IO.eprint execution.errors
  return execution.exitCode.toUInt32
