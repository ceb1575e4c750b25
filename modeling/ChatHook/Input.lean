import ChatHook.Text.Utf8

/-!
# Reading a message

A message is everything that a source delivers up to its end, taken as one text. What a source
will do is a list of deliveries: bytes in pieces of any size, and failures. An interrupted read is
tried again; any other failure ends the reading, whatever was delivered before it, and an empty
piece is the end.
-/

namespace ChatHook

/-- The kinds of failure of a source. -/
inductive ReadFault where
  | notFound
  | permissionDenied
  | connectionRefused
  | connectionReset
  | hostUnreachable
  | networkUnreachable
  | connectionAborted
  | notConnected
  | addrInUse
  | addrNotAvailable
  | networkDown
  | brokenPipe
  | alreadyExists
  | wouldBlock
  | notADirectory
  | isADirectory
  | directoryNotEmpty
  | readOnlyFilesystem
  | staleNetworkFileHandle
  | invalidInput
  | invalidData
  | timedOut
  | writeZero
  | storageFull
  | notSeekable
  | quotaExceeded
  | fileTooLarge
  | resourceBusy
  | executableFileBusy
  | deadlock
  | crossesDevices
  | tooManyLinks
  | invalidFilename
  | argumentListTooLong
  | interrupted
  | unsupported
  | unexpectedEof
  | outOfMemory
  | other
deriving DecidableEq

namespace ReadFault

/-- Every kind with its name and its description. -/
def catalogue : List (ReadFault × String × String) :=
  [(.notFound, "NotFound", "entity not found"),
    (.permissionDenied, "PermissionDenied", "permission denied"),
    (.connectionRefused, "ConnectionRefused", "connection refused"),
    (.connectionReset, "ConnectionReset", "connection reset"),
    (.hostUnreachable, "HostUnreachable", "host unreachable"),
    (.networkUnreachable, "NetworkUnreachable", "network unreachable"),
    (.connectionAborted, "ConnectionAborted", "connection aborted"),
    (.notConnected, "NotConnected", "not connected"),
    (.addrInUse, "AddrInUse", "address in use"),
    (.addrNotAvailable, "AddrNotAvailable", "address not available"),
    (.networkDown, "NetworkDown", "network down"),
    (.brokenPipe, "BrokenPipe", "broken pipe"),
    (.alreadyExists, "AlreadyExists", "entity already exists"),
    (.wouldBlock, "WouldBlock", "operation would block"),
    (.notADirectory, "NotADirectory", "not a directory"),
    (.isADirectory, "IsADirectory", "is a directory"),
    (.directoryNotEmpty, "DirectoryNotEmpty", "directory not empty"),
    (.readOnlyFilesystem, "ReadOnlyFilesystem", "read-only filesystem or storage medium"),
    (.staleNetworkFileHandle, "StaleNetworkFileHandle", "stale network file handle"),
    (.invalidInput, "InvalidInput", "invalid input parameter"),
    (.invalidData, "InvalidData", "invalid data"),
    (.timedOut, "TimedOut", "timed out"),
    (.writeZero, "WriteZero", "write zero"),
    (.storageFull, "StorageFull", "no storage space"),
    (.notSeekable, "NotSeekable", "seek on unseekable file"),
    (.quotaExceeded, "QuotaExceeded", "quota exceeded"),
    (.fileTooLarge, "FileTooLarge", "file too large"),
    (.resourceBusy, "ResourceBusy", "resource busy"),
    (.executableFileBusy, "ExecutableFileBusy", "executable file busy"),
    (.deadlock, "Deadlock", "deadlock"),
    (.crossesDevices, "CrossesDevices", "cross-device link or rename"),
    (.tooManyLinks, "TooManyLinks", "too many links"),
    (.invalidFilename, "InvalidFilename", "invalid filename"),
    (.argumentListTooLong, "ArgumentListTooLong", "argument list too long"),
    (.interrupted, "Interrupted", "operation interrupted"),
    (.unsupported, "Unsupported", "unsupported"),
    (.unexpectedEof, "UnexpectedEof", "unexpected end of file"),
    (.outOfMemory, "OutOfMemory", "out of memory"),
    (.other, "Other", "other error")]

/-- The name of a kind. -/
def name (f : ReadFault) : String :=
  ((catalogue.find? (·.1 = f)).map (·.2.1)).getD "Other"

/-- What a kind says when a failure says nothing of its own. -/
def description (f : ReadFault) : String :=
  ((catalogue.find? (·.1 = f)).map (·.2.2)).getD "other error"

/-- The kind of a name; a name that is not known is of no particular kind. -/
def ofName (name : String) : ReadFault :=
  ((catalogue.find? (·.2.1 = name)).map (·.1)).getD .other

end ReadFault

/-- A failure of a source: its kind and its text. -/
structure ReadFailure where
  fault : ReadFault
  text : String
deriving DecidableEq

/-- A failure that says what its kind says. -/
def ReadFailure.ofFault (fault : ReadFault) : ReadFailure :=
  ⟨fault, fault.description⟩

/-- The failure of bytes that are no text. -/
def ReadFailure.notText : ReadFailure :=
  ⟨.invalidData, "stream did not contain valid UTF-8"⟩

/-- What a source does when it is read. -/
inductive Chunk where
  | bytes (piece : Bytes)
  | failure (failure : ReadFailure)
deriving DecidableEq

/-- Where reading stopped: the bytes before, the failure if one stopped it, and what the source
would have done next. -/
structure ReadStop where
  bytes : Bytes
  failure : Option ReadFailure
  rest : List Chunk

/-- Reads a source up to its end or a failure that ends the reading. -/
def drain : List Chunk → ReadStop
  | [] => ⟨[], none, []⟩
  | .bytes piece :: rest =>
    if piece.isEmpty then ⟨[], none, rest⟩
    else
      let stop := drain rest
      { stop with bytes := piece ++ stop.bytes }
  | .failure failure :: rest =>
    if failure.fault = .interrupted then drain rest else ⟨[], some failure, rest⟩

/-- What came of reading a message: the message or the failure, and how much of the source was not
asked for. -/
structure MessageRead where
  result : Except ReadFailure String
  left : Nat

/-- The text of the bytes before a stop, unless a failure was the stop. -/
def ReadStop.result (stop : ReadStop) : Except ReadFailure String :=
  match stop.failure with
  | some failure => .error failure
  | none =>
    match Utf8.decode? stop.bytes with
    | some text => .ok text
    | none => .error .notText

/-- Reads a message from a source. -/
def readMessage (source : List Chunk) : MessageRead :=
  let stop := drain source
  ⟨stop.result, stop.rest.length⟩

end ChatHook
