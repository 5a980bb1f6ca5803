/-
# NodeSettings.Disk -- what opening a file can give

A file that can be opened is a source of bytes.  One that cannot is refused by
the system, with a code and a message of its own, or before the system is asked:
a path that holds a zero byte names no file.  A directory can be opened like a
file, but holds no document.
-/
import NodeSettings.Source
import NodeSettings.Text.Quoted
import NodeSettings.Text.Shown

namespace NodeSettings

open Text

set_option autoImplicit false

/-- An error of the operating system. -/
structure SystemError where
  code : Nat
  kind : FailureKind
  message : String
deriving DecidableEq, Repr

namespace SystemError

def notFound : SystemError := ⟨2, .notFound, "No such file or directory"⟩
def notADirectory : SystemError := ⟨20, .notADirectory, "Not a directory"⟩
def isADirectory : SystemError := ⟨21, .isADirectory, "Is a directory"⟩
def nameTooLong : SystemError := ⟨36, .invalidFilename, "File name too long"⟩

end SystemError

inductive OpenFailure where
  | system (error : SystemError)
  | zeroByte
  | directory
deriving DecidableEq, Repr

namespace OpenFailure

def kind : OpenFailure → FailureKind
  | system e => e.kind
  | zeroByte => .invalidInput
  | directory => .isADirectory

def text : OpenFailure → String
  | system e => s!"{e.message} (os error {e.code})"
  | zeroByte => "file name contained an unexpected NUL byte"
  | directory => "is a directory"

def shown (failure : OpenFailure) : Shown :=
  let kind := Shown.record failure.kind.name []
  match failure with
  | system e =>
      .record "Os" [("code", .atom (toString e.code)), ("kind", kind),
        ("message", .atom (quoted e.message))]
  | zeroByte => .record "Error" [("kind", kind), ("message", .atom (quoted failure.text))]
  | directory => .tuple "Kind" [kind]

end OpenFailure

/-- What opening each path gives. -/
abbrev Disk := Bytes → Except OpenFailure Source

end NodeSettings
