/-
# NodeSettings.Source -- a stream of bytes that may fail

A source hands out pieces of data, fails now and then, and may report its end
before it has handed out everything.  Where the data is cut into pieces means
nothing to a reader, and neither does a failure that only says a read was
interrupted; every other failure is met by exactly one read.

An end is not final.  It is told to one read, and the next one gets what the source
does next; so whether an end stops a reader is for the reader, which may well ask
once more (`Reader.ended`).
-/

namespace NodeSettings

set_option autoImplicit false

abbrev Bytes := List UInt8

inductive FailureKind where
  | interrupted
  | wouldBlock
  | unexpectedEof
  | invalidData
  | brokenPipe
  | permissionDenied
  | timedOut
  | notFound
  | notADirectory
  | isADirectory
  | alreadyExists
  | invalidFilename
  | invalidInput
  | other
deriving DecidableEq, Repr

namespace FailureKind

def name : FailureKind → String
  | interrupted => "Interrupted"
  | wouldBlock => "WouldBlock"
  | unexpectedEof => "UnexpectedEof"
  | invalidData => "InvalidData"
  | brokenPipe => "BrokenPipe"
  | permissionDenied => "PermissionDenied"
  | timedOut => "TimedOut"
  | notFound => "NotFound"
  | notADirectory => "NotADirectory"
  | isADirectory => "IsADirectory"
  | alreadyExists => "AlreadyExists"
  | invalidFilename => "InvalidFilename"
  | invalidInput => "InvalidInput"
  | other => "Other"

end FailureKind

structure ReadFailure where
  kind : FailureKind
  message : String
deriving DecidableEq, Repr

/-- What a source does next. -/
inductive Delivery where
  | data (bytes : Bytes)
  | failure (failure : ReadFailure)
  | ended
deriving DecidableEq, Repr

/-- A source that has nothing left to do reports its end to every read. -/
abbrev Source := List Delivery

namespace Source

def ofBytes (bytes : Bytes) : Source :=
  [.data bytes]

/-- How many bytes are still to be handed out. -/
def size : Source → Nat
  | [] => 0
  | .data bytes :: rest => bytes.length + size rest
  | _ :: rest => size rest

end Source

end NodeSettings
