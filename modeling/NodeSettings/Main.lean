/-
# NodeSettings.Main -- the program

Hands the arguments, the environment and the one file that is asked for to
`Program.run`, and its results to the operating system.
-/
import NodeSettings.Program

namespace NodeSettings

set_option autoImplicit false

/-- The code of a system error, which comes with either sign. -/
def systemCode (raw : UInt32) : Nat :=
  raw.toInt32.toInt.natAbs

/-- How the system refused to open or read a file. -/
def refusal : IO.Error → OpenFailure
  | .noFileOrDirectory _ _ _ => .system .notFound
  | .inappropriateType _ code _ =>
      if systemCode code = SystemError.isADirectory.code then .directory
      else .system .notADirectory
  | .invalidArgument _ code _ =>
      if systemCode code = SystemError.nameTooLong.code then .system .nameTooLong else .zeroByte
  | .permissionDenied _ code _ =>
      .system ⟨systemCode code, .permissionDenied, "Permission denied"⟩
  | e => .system ⟨5, .other, toString e⟩

/-- What a path opens to. -/
def openFile (path : Bytes) : IO (Except OpenFailure Source) := do
  match Text.Utf8.decode? path with
  | none => pure (.error (.system .notFound))
  | some name =>
      try
        let contents ← IO.FS.readBinFile name
        pure (.ok (Source.ofBytes contents.toList))
      catch e => pure (.error (refusal e))

/-- What the files hold as far as the arguments ask for it. -/
def diskFor (argv : List CommandLine.Argument) : IO Disk := do
  match CommandLine.resolve argv with
  | .error _ => pure fun _ => .error (.system .notFound)
  | .ok path => do
      let opened ← openFile path
      pure fun _ => opened

end NodeSettings

open NodeSettings in
/-- The arguments come without the program's own name. -/
def main (args : List String) : IO UInt32 := do
  let argv := ("node-config" :: args).map Text.Utf8.encode
  let logFilter := (← IO.getEnv "RUST_LOG").map Text.Utf8.encode
  let finish := Program.run (← diskFor argv) argv logFilter
  (← IO.getStdout).putStr finish.output
  (← IO.getStderr).putStr finish.errors
  pure finish.status.toUInt32
