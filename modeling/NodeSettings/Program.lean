/-
# NodeSettings.Program -- from arguments to an exit status

The program loads the configuration its arguments ask for and says how that went,
by a log line and by its exit status: 0 for a configuration, 1 for any error in
loading one, even where the error still carries a configuration.  Arguments that
cannot be understood are told on the error output, with status 2, and nothing is
loaded.
-/
import NodeSettings.CommandLine
import NodeSettings.Load
import NodeSettings.Log

namespace NodeSettings.Program

open NodeSettings.Text
open NodeSettings.Log

set_option autoImplicit false

/-! ## What is logged -/

/-- The target of the program's own records. -/
def programTarget : String := "node_config"

/-- The target of the records of loading. -/
def loadTarget : String := "node_config::config"

def eventRecord : Event → LogRecord
  | .opening path =>
      ⟨.debug, loadTarget, "opening config file", [("path", Utf8.lossy path)]⟩
  | .decoded scope topics =>
      ⟨.debug, loadTarget, "config decoded", [("namespace", scope), ("topics", toString topics)]⟩
  | .mistyped text =>
      ⟨.debug, loadTarget, "config decoded with type errors", [("error", text)]⟩

def outcomeRecord (path : Bytes) : Outcome → LogRecord
  | .ok config =>
      ⟨.info, programTarget, "Config loaded",
        [("config", Utf8.lossy path), ("namespace", config.network.scope),
          ("topics", (topicsShown config.network.topics).inline),
          ("max_peers", integerText config.network.maxPeers),
          ("port", integerText config.network.port)]⟩
  | .error error =>
      ⟨.error, programTarget, "Failed to load config",
        [("config", Utf8.lossy path), ("error", error.text)]⟩

def records (disk : Disk) (path : Bytes) : List LogRecord :=
  (loadEvents disk path).map eventRecord ++ [outcomeRecord path (load disk path)]

/-! ## Running -/

/-- How a run ends. -/
structure Finish where
  status : Nat
  output : String := ""
  errors : String := ""
deriving DecidableEq, Repr

def outcomeStatus : Outcome → Nat
  | .ok _ => 0
  | .error _ => 1

def stopped : CommandLine.Stop → Finish
  | .help => { status := 0, output := CommandLine.helpText }
  | .version => { status := 0, output := CommandLine.versionText }
  | .rejected r => { status := 2, errors := r.text ++ "\n" }

/-- A run that loads the file at `path`. -/
def loaded (disk : Disk) (filter : Filter) (path : Bytes) : Finish where
  status := outcomeStatus (load disk path)
  output := String.join (((records disk path).filter filter.admits).map LogRecord.line)

/-- A run with the given files, arguments (the program's name first) and log
filter from the environment. -/
def run (disk : Disk) (argv : List CommandLine.Argument) (logFilter : Option Bytes) : Finish :=
  match CommandLine.resolve argv with
  | .error stop => stopped stop
  | .ok path => loaded disk (Filter.ofEnvironment logFilter) path

end NodeSettings.Program
