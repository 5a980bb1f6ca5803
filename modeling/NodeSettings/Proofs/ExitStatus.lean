/-
# NodeSettings.Proofs.ExitStatus -- what a run tells of the load

A run whose arguments resolve to a path ends with status 0 or 1, and the outcome of
the load alone says which (`Program.Tells`).  It is the load that counts and not the
configuration: an item of the wrong kind still leaves a configuration, and is a
failure all the same (`Disk.Defeats`, `load_error_iff`).  Arguments that are rejected
end the run before any file is opened, so it is the same on every disk.

The log filter only chooses among the records.  The standard one leaves out every
event of loading and keeps the record of the outcome, so the output is that record's
line (`loaded_standard`).
-/
import NodeSettings.Proofs.Arguments
import NodeSettings.Proofs.Outcomes

namespace NodeSettings

open Text

set_option autoImplicit false

namespace Log

/-- A line of a record: its head, and a name before each value. -/
theorem LogRecord.line_eq (r : LogRecord) :
    r.line = r.level.column ++ " " ++ r.target ++ ": " ++ r.message ++
      String.join (r.values.map fun value => " " ++ value.1 ++ "=" ++ value.2) ++ "\n" :=
  rfl

/-! ## The standard filter -/

namespace Filter

/-- The standard filter looks at the level alone: its one target is empty. -/
theorem standard_admits (r : LogRecord) :
    standard.admits r = decide (r.level.rank ≤ Level.info.rank) := by
  have covered : covers ⟨"", Level.info.rank⟩ r = true := rfl
  have decides : standard.deciding? r = some ⟨"", Level.info.rank⟩ := by
    simp only [deciding?, standard, List.filter_cons, covered, if_true, List.filter_nil,
      List.foldl_cons, List.foldl_nil]
  rw [admits, decides]

end Filter

end Log

namespace Program

open Log

variable {disk : Disk} {path : Bytes}

theorem eventRecord_level (event : Event) : (eventRecord event).level = .debug := by
  cases event <;> rfl

/-- Records of events are below what the standard filter keeps. -/
theorem events_unlogged (events : List Event) :
    (events.map eventRecord).filter Filter.standard.admits = [] := by
  rw [List.filter_eq_nil_iff]
  intro r member
  obtain ⟨event, -, rfl⟩ := List.mem_map.mp member
  rw [Filter.standard_admits, eventRecord_level]
  decide

theorem outcome_logged (path : Bytes) (outcome : Outcome) :
    Filter.standard.admits (outcomeRecord path outcome) = true := by
  rw [Filter.standard_admits]
  cases outcome <;> rfl

theorem records_standard (disk : Disk) (path : Bytes) :
    (records disk path).filter Filter.standard.admits = [outcomeRecord path (load disk path)] := by
  rw [records, List.filter_append, events_unlogged, List.filter_singleton, outcome_logged,
    List.nil_append, cond_true]

/-- With the standard filter the record of the outcome is all there is to read. -/
theorem loaded_standard (disk : Disk) (path : Bytes) :
    (loaded disk Filter.standard path).output = (outcomeRecord path (load disk path)).line := by
  rw [loaded, records_standard, List.map_singleton, String.join_cons, String.join_nil,
    String.append_empty]

end Program

/-! ## Why a load fails -/

theorem Outcome.clean_iff (outcome : Outcome) :
    outcome.upshot = .clean ↔ ∃ config, outcome = .ok config := by
  constructor
  · intro clean
    rcases outcome with (⟨path, failure⟩ | ⟨problem, carried⟩) | given
    · cases clean
    · rw [upshot] at clean
      split at clean <;> cases clean
    · exact ⟨given, rfl⟩
  · rintro ⟨config, rfl⟩
    rfl

/-- What keeps the file at `path` from giving a configuration without reservation. -/
inductive Disk.Defeats (disk : Disk) (path : Bytes) : Prop where
  | closed {failure : OpenFailure} (refused : disk path = .error failure)
  | unread {source : Source} (opens : disk path = .ok source) {fault : Fault}
      (failed : (readDocument source).1 = .error fault)
  | mistyped {source : Source} (opens : disk path = .ok source) {root : Json}
      (read : (readDocument source).1 = .ok root) {item : Item} (wrong : root.Mistyped item)

section Loading

variable {disk : Disk} {path : Bytes}

theorem load_of_opens {source : Source} (opens : disk path = .ok source) :
    load disk path = (decode source).1 := by
  rw [load, opens]

theorem Disk.Defeats.not_clean (defeats : disk.Defeats path) :
    (load disk path).upshot ≠ .clean := by
  cases defeats with
  | closed refused =>
      rw [load, refused]
      exact nofun
  | unread opens failed =>
      rw [load_of_opens opens, upshot_of_fault failed]
      exact nofun
  | mistyped opens read wrong =>
      rw [load_of_opens opens, (upshot_mistyped_iff read).mpr ⟨_, wrong⟩]
      exact nofun

theorem Disk.Defeats.of_error {error : LoadError} (failed : load disk path = .error error) :
    disk.Defeats path := by
  cases opened : disk path with
  | error failure => exact .closed opened
  | ok source =>
      cases read : (readDocument source).1 with
      | error fault => exact .unread opened read
      | ok root =>
          have wrong : ∃ item, root.Mistyped item := by
            apply Classical.byContradiction
            intro none
            have ended := (upshot_clean_iff read).mpr (not_exists.mp none)
            rw [← load_of_opens opened, Outcome.clean_iff, failed] at ended
            obtain ⟨config, same⟩ := ended
            cases same
          obtain ⟨item, wrong⟩ := wrong
          exact .mistyped opened read wrong

/-- **The text of a file defeats it** if no document begins it that can be read, or one does
in which something is mistyped. -/
theorem defeats_iff_of_text {source : Source} (opens : disk path = .ok source)
    (unresumed : source.Unresumed) : disk.Defeats path ↔
      (∀ doc, ¬ source.Gives doc) ∨ ∃ doc, source.Gives doc ∧ ∃ item, doc.Mistyped item := by
  constructor
  · intro defeats
    cases defeats with
    | closed refused => cases opens.symm.trans refused
    | unread opened failed =>
        cases opens.symm.trans opened
        refine .inl fun doc gives => ?_
        obtain ⟨⟨root, read⟩, -⟩ := gives
        cases read.symm.trans failed
    | @mistyped _ opened root read item wrong =>
        cases opens.symm.trans opened
        exact .inr ((exists_read_iff_exists_gives unresumed fun mistyped =>
          ∃ item, mistyped item).mp ⟨root, read, item, wrong⟩)
  · rintro (nothing | ⟨doc, gives, item, wrong⟩)
    · cases read : (readDocument source).1 with
      | error fault => exact .unread opens read
      | ok root =>
          obtain ⟨doc, gives⟩ := exists_gives unresumed read
          exact absurd gives (nothing doc)
    · obtain ⟨root, read⟩ := gives.1
      exact .mistyped opens read ((Document.mistyped_iff (read_of_holds read gives.2) item).mpr wrong)

/-- **A load fails exactly if something defeats it**, be it after the document has
been read to its end. -/
theorem load_error_iff :
    (∃ error, load disk path = .error error) ↔ disk.Defeats path := by
  constructor
  · rintro ⟨error, failed⟩
    exact .of_error failed
  · intro defeats
    cases loaded : load disk path with
    | error error => exact ⟨error, rfl⟩
    | ok config => exact absurd ((Outcome.clean_iff _).mpr ⟨config, loaded⟩) defeats.not_clean

end Loading

/-! ## What a run tells -/

namespace Program

open CommandLine

/-- A run tells how the load of the file at `path` went by its status, and says
nothing on the error output. -/
structure Tells (disk : Disk) (path : Bytes) (finish : Finish) : Prop where
  success : finish.status = 0 ↔ ∃ config, load disk path = .ok config
  failure : finish.status = 1 ↔ ∃ error, load disk path = .error error
  defeat : finish.status = 1 ↔ disk.Defeats path
  /-- What the text of the file has to do with it. -/
  text : ∀ source, disk path = .ok source → source.Unresumed →
    (finish.status = 1 ↔
      (∀ doc, ¬ source.Gives doc) ∨ ∃ doc, source.Gives doc ∧ ∃ item, doc.Mistyped item)
  quiet : finish.errors = ""

/-- What is read of the outcome of a load: its level first, then the path, and the
whole text of the error or what the configuration holds. -/
structure Logs (path : Bytes) (outcome : Outcome) (output : String) : Prop where
  failed : ∀ error, outcome = .error error →
    output = "ERROR node_config: Failed to load config config=" ++ Utf8.lossy path ++
      " error=" ++ error.text ++ "\n"
  given : ∀ config, outcome = .ok config →
    output = " INFO node_config: Config loaded config=" ++ Utf8.lossy path ++
      " namespace=" ++ config.network.scope ++
      " topics=" ++ (topicsShown config.network.topics).inline ++
      " max_peers=" ++ integerText config.network.maxPeers ++
      " port=" ++ integerText config.network.port ++ "\n"

theorem outcomeRecord_logs (path : Bytes) (outcome : Outcome) :
    Logs path outcome (outcomeRecord path outcome).line := by
  constructor <;> rintro _ rfl <;>
    simp only [Log.LogRecord.line_eq, outcomeRecord, List.map_cons, List.map_nil,
      String.join_cons, String.join_nil, Log.Level.column, programTarget, String.reduceAppend,
      String.append_empty, ← String.append_assoc]

theorem outcomeStatus_eq_zero {outcome : Outcome} :
    outcomeStatus outcome = 0 ↔ ∃ config, outcome = .ok config := by
  cases outcome <;> simp [outcomeStatus]

theorem outcomeStatus_eq_one {outcome : Outcome} :
    outcomeStatus outcome = 1 ↔ ∃ error, outcome = .error error := by
  cases outcome <;> simp [outcomeStatus]

theorem loaded_tells (disk : Disk) (filter : Log.Filter) (path : Bytes) :
    Tells disk path (loaded disk filter path) where
  success := outcomeStatus_eq_zero
  failure := outcomeStatus_eq_one
  defeat := outcomeStatus_eq_one.trans load_error_iff
  text := fun _ opens unresumed =>
    (outcomeStatus_eq_one.trans load_error_iff).trans (defeats_iff_of_text opens unresumed)
  quiet := rfl

/-- **The exit status tells the outcome of the load**, whatever the log is set to; and
what keeps the run from a load is told by another status, with no file opened. -/
theorem run_tells (disk : Disk) (argv : List Argument) :
    (∀ path, resolve argv = .ok path →
        (∀ logFilter, Tells disk path (run disk argv logFilter)) ∧
          Logs path (load disk path) (run disk argv none).output) ∧
      (∀ r, resolve argv = .error (.rejected r) → ∀ other logFilter,
        run other argv logFilter = { status := 2, errors := r.text ++ "\n" }) ∧
      ∀ one other, (run disk argv one).status = (run disk argv other).status := by
  refine ⟨?_, ?_, ?_⟩
  · intro path resolves
    have runs (logFilter : Option Bytes) :
        run disk argv logFilter = loaded disk (.ofEnvironment logFilter) path := by
      rw [run, resolves]
    refine ⟨fun logFilter => ?_, ?_⟩
    · rw [runs]
      exact loaded_tells disk _ path
    · have line : (run disk argv none).output = (outcomeRecord path (load disk path)).line := by
        rw [runs]
        exact loaded_standard disk path
      rw [line]
      exact outcomeRecord_logs path (load disk path)
  · intro r rejects other logFilter
    rw [run, rejects]
    rfl
  · intro one other
    rw [run, run]
    cases resolve argv <;> rfl

/-- A disk on which every file has a namespace and a port that is no number. -/
def mistypedDisk : Disk :=
  fun _ => .ok (.ofBytes (Utf8.encode
    "\x7b\"networkConfig\":\x7b\"namespace\":\"a\",\"port\":\"x\"\x7d\x7d"))

/-- A disk on which every file has a namespace, two topics and a port. -/
def plainDisk : Disk :=
  fun _ => .ok (.ofBytes (Utf8.encode ("\x7b\"networkConfig\":\x7b\"namespace\":\"a\"," ++
    "\"topics\":[\"t\",\"u\"],\"port\":7\x7d\x7d")))

def namedPath : List Argument :=
  [programName, shortFlag, Utf8.encode "n"]

/-- The namespace is read, and the run fails nonetheless, even with nothing logged.  With a
number for the port it succeeds, and all settings are logged. -/
theorem run_tells_mistypedPort :
    load mistypedDisk (Utf8.encode "n") =
        .error (.decoding (.mistyped ⟨.setting .port, .string "x"⟩)
          { network := { scope := "a" } }) ∧
      (run mistypedDisk namedPath (some (Utf8.encode "off"))).status = 1 ∧
      (run mistypedDisk namedPath none).output =
        "ERROR node_config: Failed to load config config=n error=failed to decode config: " ++
          "networkConfig.port: invalid type: string \"x\", expected i64\n" ∧
      run mistypedDisk [programName, flag] none =
        { status := 2, errors := CommandLine.Rejection.text .missingValue ++ "\n" } ∧
      (run plainDisk namedPath (some (Utf8.encode "off"))).status = 0 ∧
      (run plainDisk namedPath none).output =
        " INFO node_config: Config loaded config=n namespace=a topics=[\"t\", \"u\"] " ++
          "max_peers=0 port=7\n" := by
  have outcome : load mistypedDisk (Utf8.encode "n") =
      .error (.decoding (.mistyped ⟨.setting .port, .string "x"⟩)
        { network := { scope := "a" } }) := by decide +kernel
  have plain : load plainDisk (Utf8.encode "n") =
      .ok { network := { scope := "a", topics := ["t", "u"], port := 7 } } := by decide +kernel
  have resolves : resolve namedPath = .ok (Utf8.encode "n") := by decide +kernel
  obtain ⟨loads, -, -⟩ := run_tells mistypedDisk namedPath
  obtain ⟨tells, logs⟩ := loads (Utf8.encode "n") resolves
  obtain ⟨-, rejects, -⟩ := run_tells mistypedDisk [programName, flag]
  obtain ⟨loads', -, -⟩ := run_tells plainDisk namedPath
  obtain ⟨tells', logs'⟩ := loads' (Utf8.encode "n") resolves
  refine ⟨outcome, ?_, ?_, ?_, ?_, ?_⟩
  · exact (tells _).failure.mpr ⟨_, outcome⟩
  · rw [logs.failed _ outcome]
    decide +kernel
  · exact rejects .missingValue (by decide +kernel) _ _
  · exact (tells' _).success.mpr ⟨_, plain⟩
  · rw [logs'.given _ plain]
    decide +kernel

end Program

end NodeSettings
