/-
# NodeSettings.Load -- loading a configuration

Loading ends in a configuration or in an error, and every error still carries a
configuration: the default one where nothing could be read, and everything that
was well given where a value was of the wrong kind.

What happens on the way is told by events: the file that is opened, and how a
document that was read to its end was understood.
-/
import NodeSettings.Disk
import NodeSettings.Interpretation
import NodeSettings.Reader.Run

namespace NodeSettings

open Text

set_option autoImplicit false

/-! ## Outcomes -/

/-- Why a document gives no configuration without reservation. -/
inductive Problem where
  | unreadable (fault : Fault)
  | mistyped (mismatch : Mismatch)
deriving DecidableEq, Repr

namespace Problem

/-- The text without the place. -/
def bareText : Problem → String
  | unreadable fault => fault.cause.text
  | mistyped mismatch => mismatch.notice.message

def text : Problem → String
  | unreadable fault => fault.text
  | mistyped mismatch => mismatch.text

/-- A mismatch is found in the document and not in its text: it has no place but
one its message ends in. -/
def position : Problem → Option Position
  | unreadable fault => fault.position
  | mistyped mismatch => mismatch.notice.place

def category : Problem → Category
  | unreadable fault => fault.cause.category
  | mistyped _ => .content

def failure? : Problem → Option ReadFailure
  | unreadable ⟨.unreadable failure, _⟩ => some failure
  | _ => none

def shown (problem : Problem) : Shown :=
  let (line, column) := match problem.position with
    | none => (0, 0)
    | some p => (p.line, p.column)
  .atom s!"Error({quoted problem.bareText}, line: {line}, column: {column})"

end Problem

inductive LoadError where
  | opening (path : Bytes) (failure : OpenFailure)
  | decoding (problem : Problem) (config : Config)
deriving DecidableEq, Repr

namespace LoadError

def text : LoadError → String
  | opening path failure => s!"failed to open config file {Utf8.lossy path}: {failure.text}"
  | decoding problem _ => s!"failed to decode config: {problem.text}"

/-- The configuration as far as a document gave one. -/
def carried? : LoadError → Option Config
  | opening _ _ => none
  | decoding _ config => some config

def config (error : LoadError) : Config :=
  error.carried?.getD {}

def shown : LoadError → Shown
  | opening path failure =>
      .record "Open" [("path", .atom (quotedBytes path)), ("source", failure.shown)]
  | decoding problem config =>
      .record "Decode" [("source", problem.shown), ("partial", config.shown)]

end LoadError

abbrev Outcome := Except LoadError Config

namespace Outcome

/-- The configuration an outcome carries, whether it is an error or not. -/
def config : Outcome → Config
  | .ok config => config
  | .error error => error.config

def shown : Outcome → Shown
  | .ok config => .tuple "Ok" [config.shown]
  | .error error => .tuple "Err" [error.shown]

end Outcome

/-! ## Events -/

inductive Event where
  | opening (path : Bytes)
  | decoded (scope : String) (topics : Nat)
  | mistyped (text : String)
deriving DecidableEq, Repr

/-- The events of understanding a document.  One that could not be read has
none. -/
def Outcome.events : Outcome → List Event
  | .ok config => [.decoded config.network.scope config.network.topics.length]
  | .error (.decoding (.mistyped mismatch) _) => [.mistyped mismatch.text]
  | .error _ => []

/-! ## Loading -/

/-- What a verdict on a document means for the configuration. -/
def outcomeOf : Verdict → Outcome
  | .error fault => .error (.decoding (.unreadable fault) {})
  | .ok document =>
      match interpret document with
      | (config, none) => .ok config
      | (config, some mismatch) => .error (.decoding (.mistyped mismatch) config)

/-- The configuration in the first document of a source, and the source as it is
left behind. -/
def decode (source : Source) : Outcome × Source :=
  let (verdict, rest) := readDocument source
  (outcomeOf verdict, rest)

/-- The configuration in the file at `path`. -/
def load (disk : Disk) (path : Bytes) : Outcome :=
  match disk path with
  | .error failure => .error (.opening path failure)
  | .ok source => (decode source).1

def loadEvents (disk : Disk) (path : Bytes) : List Event :=
  .opening path :: (load disk path).events

end NodeSettings
