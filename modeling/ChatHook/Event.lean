import ChatHook.Http.Status

/-!
# Log records

The four things that are worth a line in the log, each with its level, the part of the program it
comes from and its text. A record tells how long a message is, never what it says or where it
goes.
-/

namespace ChatHook

/-- How much a record matters; the later, the less. -/
inductive LogLevel where
  | error
  | warn
  | info
  | debug
  | trace
deriving DecidableEq

namespace LogLevel

/-- The place of a level among the others. -/
def rank : LogLevel → Nat
  | .error => 1
  | .warn => 2
  | .info => 3
  | .debug => 4
  | .trace => 5

/-- The name of a level. -/
def name : LogLevel → String
  | .error => "ERROR"
  | .warn => "WARN"
  | .info => "INFO"
  | .debug => "DEBUG"
  | .trace => "TRACE"

end LogLevel

/-- What is recorded. -/
inductive LogEvent where
  /-- A message of so many bytes was read. -/
  | messageRead (size : Nat)
  | sending
  /-- The message that is sent has so many bytes. -/
  | messageSize (size : Nat)
  | responded (status : Http.Status)
deriving DecidableEq

namespace LogEvent

/-- The level of a record. -/
def level : LogEvent → LogLevel
  | .sending => .info
  | _ => .debug

/-- The part of the program a record comes from. -/
def target : LogEvent → String
  | .messageRead _ => "send_discord_message::cli"
  | _ => "send_discord_message::webhook"

/-- The text of a record. -/
def text : LogEvent → String
  | .messageRead size => "Read " ++ toString size ++ " bytes from input"
  | .sending => "Sending message to webhook"
  | .messageSize size => "Message is " ++ toString size ++ " bytes"
  | .responded status => "Webhook responded with " ++ status.text

/-- A record on one line. -/
def summary (e : LogEvent) : String :=
  e.level.name ++ " " ++ e.target ++ ": " ++ e.text

end LogEvent

end ChatHook
