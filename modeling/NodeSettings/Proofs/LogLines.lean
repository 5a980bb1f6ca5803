/-
# NodeSettings.Proofs.LogLines -- the lines that a run writes

A run that loads a file writes one record with the standard filter, and a record ends
in a line feed.  Values stand in it as they are, so a line feed in a value begins a line
that looks like a record of its own.

Three values can bring one: the path, which stands in the record once, and once more
where the file cannot be opened; the namespace of a configuration that was loaded; and
the message of a system that failed to open or to read (`Outcome.lineFeeds`).  Topics are
quoted, and the text of an error about a document has none, since what it repeats of the
document is a quoted text, a number or a known key (`Mismatch.lineFeeds_text`,
`Cause.Of.lineFeeds_text`).  So a run writes a single line exactly if none of the three has a
line feed (`Program.run_lines`).
-/
import NodeSettings.Files
import NodeSettings.Proofs.Causes
import NodeSettings.Proofs.ExitStatus
import NodeSettings.Proofs.LineFeeds
import NodeSettings.Proofs.Written.Building

namespace NodeSettings

open Text

set_option autoImplicit false

/-! ## Errors about items -/

theorem Found.lineFeeds_text (layout : Layout) (found : Found) :
    lineFeeds (found.text layout) = 0 := by
  cases found with
  | unit =>
      have shape : Found.text layout .unit = "unit value" := rfl
      rw [shape]
      rfl
  | bool value =>
      have shape : Found.text layout (.bool value) = "boolean `" ++ toString value ++ "`" := rfl
      rw [shape]
      cases value <;> rfl
  | number value =>
      cases value with
      | integer n =>
          have shape : Found.text layout (.number (.integer n)) =
              "integer `" ++ toString n ++ "`" := rfl
          simp only [shape, lineFeeds_append, lineFeeds_int]
          rfl
      | float negative magnitude =>
          have shape : Found.text layout (.number (.float negative magnitude)) =
              "floating point `" ++ layout.text negative magnitude ++ "`" := rfl
          simp only [shape, lineFeeds_append, Layout.lineFeeds_text]
          rfl
  | string value =>
      have shape : Found.text layout (.string value) = "string " ++ quoted value := rfl
      simp only [shape, lineFeeds_append, lineFeeds_quoted]
      rfl
  | array =>
      have shape : Found.text layout .array = "sequence" := rfl
      rw [shape]
      rfl
  | object =>
      have shape : Found.text layout .object = "map" := rfl
      rw [shape]
      rfl

theorem Item.lineFeeds_path {item : Item} {path : String} (named : item.path? = some path) :
    lineFeeds path = 0 := by
  cases item with
  | root => cases named
  | part p =>
      cases named
      cases p <;> rfl
  | setting s =>
      cases named
      cases s <;> rfl
  | topic i =>
      have shape : path = "networkConfig.topics[" ++ toString i ++ "]" :=
        (Option.some.inj named).symm
      simp only [shape, lineFeeds_append, lineFeeds_nat]
      rfl

/-- An error about an item stands on one line, whatever is found there. -/
theorem Mismatch.lineFeeds_text (m : Mismatch) : lineFeeds m.text = 0 := by
  have complaint : lineFeeds m.complaint = 0 := by
    unfold Mismatch.complaint
    split <;> rfl
  have wanted : lineFeeds m.item.wanted.text = 0 := by
    cases m.item.wanted <;> rfl
  have what : lineFeeds m.what = 0 := by
    simp only [what_eq, lineFeeds_append, complaint, wanted, Found.lineFeeds_text]
    rfl
  rw [text_eq, message]
  cases named : m.item.path? with
  | none => exact what
  | some path =>
      simp only [lineFeeds_append, Item.lineFeeds_path named, what]
      rfl

/-! ## Errors about documents -/

/-- A known key has no line feed. -/
theorem Slot.lineFeeds_unique {slot : Slot} {key : String} (known : slot.unique key = true) :
    lineFeeds key = 0 := by
  cases slot with
  | root =>
      obtain ⟨p, same⟩ := Option.isSome_iff_exists.mp known
      rw [Section.key_of_ofKey? same]
      cases p <;> rfl
  | body part =>
      cases part with
      | network =>
          obtain ⟨s, same⟩ := Option.isSome_iff_exists.mp known
          rw [Setting.key_of_ofKey? same]
          cases s <;> rfl
      | execution | storage => cases known
  | setting | skipped => cases known

theorem Malformation.lineFeeds_text (m : Malformation) : lineFeeds m.text = 0 := by
  cases m <;> rw [text] <;> rfl

theorem Truncation.lineFeeds_text (t : Truncation) : lineFeeds t.text = 0 := by
  cases t <;> rfl

/-- The line feeds that a cause brings into a message. -/
def Cause.lineFeeds : Cause → Nat
  | .unreadable failure => Text.lineFeeds failure.message
  | .malformed _ | .truncated _ | .repeated _ => 0

/-- A source that does not fail is refused on one line: all of it is fixed but for the key
that stands twice. -/
theorem Cause.Of.lineFeeds_text {source : Source} {cause : Cause} (of : cause.Of source) :
    Text.lineFeeds cause.text = cause.lineFeeds := by
  cases of with
  | malformed m => exact m.lineFeeds_text
  | truncated t => exact t.lineFeeds_text
  | @repeated slot key known =>
      have shape : text (.repeated key) = "duplicate field `" ++ key ++ "`" := rfl
      simp only [shape, lineFeeds_append, Slot.lineFeeds_unique known]
      rfl
  | unreadable among hard => rfl

theorem Cause.Of.lineFeeds_unbroken {source : Source} {cause : Cause} (of : cause.Of source)
    (unbroken : ∀ failure, .failure failure ∉ source) : cause.lineFeeds = 0 := by
  cases of with
  | malformed _ | truncated _ | repeated _ => rfl
  | unreadable among hard => exact absurd among (unbroken _)

theorem Fault.lineFeeds_text (fault : Fault) :
    lineFeeds fault.text = lineFeeds fault.cause.text := by
  cases placed : fault.position with
  | none => rw [text, placed]
  | some p =>
      have shape : fault.text = fault.cause.text ++ " at line " ++ toString p.line ++ " column " ++
          toString p.column := by
        rw [text, placed]
        rfl
      have line : lineFeeds " at line " = 0 := rfl
      have column : lineFeeds " column " = 0 := rfl
      simp only [shape, lineFeeds_append, line, column, lineFeeds_nat, Nat.add_zero]

/-! ## Outcomes -/

/-- The line feeds that an outcome brings into its record, besides the path that the
record begins with.  An error in opening repeats that path. -/
def Outcome.lineFeeds : Outcome → Nat
  | .ok config => Text.lineFeeds config.network.scope
  | .error (.opening path failure) => path.count 0x0A + Text.lineFeeds failure.text
  | .error (.decoding (.unreadable fault) _) => fault.cause.lineFeeds
  | .error (.decoding (.mistyped _) _) => 0

/-- The three errors a load ends in. -/
theorem load_error_cases {disk : Disk} {path : Bytes} {error : LoadError}
    (failed : load disk path = .error error) :
    (∃ failure, disk path = .error failure ∧ error = .opening path failure) ∨
      (∃ source fault, disk path = .ok source ∧ (readDocument source).1 = .error fault ∧
        error = .decoding (.unreadable fault) {}) ∨
      ∃ m config, error = .decoding (.mistyped m) config := by
  cases opened : disk path with
  | error failure =>
      rw [load, opened] at failed
      cases failed
      exact .inl ⟨failure, rfl, rfl⟩
  | ok source =>
      rw [load_of_opens opened, decode_outcome] at failed
      cases verdict : (readDocument source).1 with
      | error fault =>
          rw [verdict] at failed
          cases failed
          exact .inr (.inl ⟨source, fault, rfl, verdict, rfl⟩)
      | ok root =>
          rw [verdict, outcomeOf_document] at failed
          split at failed
          · cases failed
          · rename_i m _
            cases failed
            exact .inr (.inr ⟨m, root.config, rfl⟩)

/-- What is told of an error has the line feeds of the error. -/
theorem load_error_lineFeeds {disk : Disk} {path : Bytes} {error : LoadError}
    (failed : load disk path = .error error) :
    lineFeeds error.text = Outcome.lineFeeds (.error error) := by
  have decoding (problem : Problem) (config : Config) :
      lineFeeds (LoadError.text (.decoding problem config)) = lineFeeds problem.text := by
    have shape : LoadError.text (.decoding problem config) =
        "failed to decode config: " ++ problem.text := rfl
    have front : lineFeeds "failed to decode config: " = 0 := rfl
    rw [shape, lineFeeds_append, front, Nat.zero_add]
  rcases load_error_cases failed with
    ⟨failure, -, rfl⟩ | ⟨source, fault, -, read, rfl⟩ | ⟨m, config, rfl⟩
  · have shape : LoadError.text (.opening path failure) =
        "failed to open config file " ++ Utf8.lossy path ++ ": " ++ failure.text := rfl
    have front : lineFeeds "failed to open config file " = 0 := rfl
    have colon : lineFeeds ": " = 0 := rfl
    simp only [shape, lineFeeds_append, lineFeeds_lossy, front, colon, Outcome.lineFeeds,
      Nat.zero_add, Nat.add_zero]
  · rw [decoding]
    exact fault.lineFeeds_text.trans (readDocument_cause read).lineFeeds_text
  · rw [decoding]
    exact m.lineFeeds_text

/-! ## Files -/

namespace Files

/-- A system speaks of paths on one line. -/
theorem lineFeeds_walk {files : Files} {location : Location} {names : List Name} {e : SystemError}
    (failed : files.walk location names = .error e) : lineFeeds e.message = 0 := by
  induction names generalizing location with
  | nil => cases failed
  | cons name rest ih =>
      rw [walk] at failed
      cases stepped : files.walkStep location name with
      | ok next =>
          rw [stepped] at failed
          exact ih failed
      | error e' =>
          rw [stepped] at failed
          cases failed
          unfold walkStep at stepped
          repeat' split at stepped
          all_goals cases stepped
          all_goals rfl

theorem lineFeeds_system {e : SystemError} (plain : lineFeeds e.message = 0) :
    lineFeeds (OpenFailure.system e).text = 0 := by
  have shape : (OpenFailure.system e).text = e.message ++ " (os error " ++ toString e.code ++ ")" :=
    rfl
  simp only [shape, lineFeeds_append, plain, lineFeeds_nat]
  rfl

theorem lineFeeds_refused {path : Bytes} {failure : OpenFailure}
    (refused : refused? path = some failure) : lineFeeds failure.text = 0 := by
  unfold refused? at refused
  repeat' split at refused
  all_goals cases refused
  · rfl
  · exact lineFeeds_system rfl
  · exact lineFeeds_system rfl

theorem disk_error {files : Files} {path : Bytes} {failure : OpenFailure}
    (failed : files.disk path = .error failure) : lineFeeds failure.text = 0 := by
  unfold disk at failed
  split at failed
  · rename_i other refused
    cases failed
    exact lineFeeds_refused refused
  · split at failed
    · rename_i e walked
      cases failed
      exact lineFeeds_system (lineFeeds_walk walked)
    · split at failed
      all_goals cases failed
      · exact lineFeeds_system rfl
      · rfl

/-- A file that is opened does not fail. -/
theorem disk_unbroken {files : Files} {path : Bytes} {source : Source}
    (opened : files.disk path = .ok source) (failure : ReadFailure) :
    .failure failure ∉ source := by
  unfold disk at opened
  repeat' split at opened
  all_goals cases opened
  · exact List.not_mem_nil
  · simp [Source.ofBytes]

/-- In a tree of files an error brings no line feeds but those of the path. -/
theorem load_error_le {files : Files} {path : Bytes} {error : LoadError}
    (failed : load files.disk path = .error error) :
    Outcome.lineFeeds (.error error) ≤ path.count 0x0A := by
  rcases load_error_cases failed with
    ⟨failure, refused, rfl⟩ | ⟨source, fault, opened, read, rfl⟩ | ⟨m, config, rfl⟩
  · have same : Outcome.lineFeeds (.error (.opening path failure)) = path.count 0x0A := by
      rw [Outcome.lineFeeds, disk_error refused, Nat.add_zero]
    exact Nat.le_of_eq same
  · have plain := (readDocument_cause read).lineFeeds_unbroken (disk_unbroken opened)
    rw [Outcome.lineFeeds, plain]
    exact Nat.zero_le _
  · exact Nat.zero_le _

end Files

namespace Program

open Log CommandLine

/-- A text that is a single line, its end included. -/
def OneLine (output : String) : Prop :=
  ∃ line, lineFeeds line = 0 ∧ output = line ++ "\n"

theorem oneLine_iff {body : String} : OneLine (body ++ "\n") ↔ lineFeeds body = 0 := by
  constructor
  · rintro ⟨line, plain, same⟩
    rw [(String.append_left_inj "\n").mp same]
    exact plain
  · intro plain
    exact ⟨body, plain, rfl⟩

theorem outcomeRecord_lineFeeds (disk : Disk) (path : Bytes) :
    ∃ body, (outcomeRecord path (load disk path)).line = body ++ "\n" ∧
      lineFeeds body = path.count 0x0A + (load disk path).lineFeeds := by
  have logs := outcomeRecord_logs path (load disk path)
  cases outcome : load disk path with
  | error error =>
      have front : lineFeeds "ERROR node_config: Failed to load config config=" = 0 := rfl
      have name : lineFeeds " error=" = 0 := rfl
      rw [outcome] at logs
      refine ⟨_, logs.failed error rfl, ?_⟩
      simp only [lineFeeds_append, lineFeeds_lossy, front, name, load_error_lineFeeds outcome,
        Nat.zero_add, Nat.add_zero]
  | ok config =>
      have front : lineFeeds " INFO node_config: Config loaded config=" = 0 := rfl
      have scope : lineFeeds " namespace=" = 0 := rfl
      have topics : lineFeeds " topics=" = 0 := rfl
      have maxPeers : lineFeeds " max_peers=" = 0 := rfl
      have port : lineFeeds " port=" = 0 := rfl
      rw [outcome] at logs
      refine ⟨_, logs.given config rfl, ?_⟩
      simp only [lineFeeds_append, lineFeeds_lossy, front, scope, topics, maxPeers, port,
        lineFeeds_topics, integerText, lineFeeds_int, Outcome.lineFeeds, Nat.zero_add,
        Nat.add_zero]

/-- **A run that loads a file writes one record, which ends in a line feed and has no
others but those of the path, of a loaded namespace and of a failing system.**  So it
writes a single line exactly if these have none; with a tree of files, exactly if the path
and a loaded namespace have none. -/
theorem run_lines (disk : Disk) (argv : List Argument) {path : Bytes}
    (resolves : resolve argv = .ok path) :
    (∃ body, (run disk argv none).output = body ++ "\n" ∧
        lineFeeds body = path.count 0x0A + (load disk path).lineFeeds) ∧
      (OneLine (run disk argv none).output ↔ 0x0A ∉ path ∧ (load disk path).lineFeeds = 0) ∧
      ∀ files : Files, disk = files.disk →
        (OneLine (run disk argv none).output ↔
          0x0A ∉ path ∧ ∀ config, load disk path = .ok config →
            lineFeeds config.network.scope = 0) := by
  have output : (run disk argv none).output = (outcomeRecord path (load disk path)).line := by
    rw [run, resolves]
    exact loaded_standard disk path
  obtain ⟨body, line, feeds⟩ := outcomeRecord_lineFeeds disk path
  have single : OneLine (run disk argv none).output ↔
      0x0A ∉ path ∧ (load disk path).lineFeeds = 0 := by
    rw [output, line, oneLine_iff, feeds, Nat.add_eq_zero_iff, List.count_eq_zero]
  refine ⟨⟨body, output.trans line, feeds⟩, single, ?_⟩
  rintro files rfl
  rw [single]
  apply and_congr_right
  intro plain
  cases outcome : load files.disk path with
  | ok config => simp [Outcome.lineFeeds]
  | error error =>
      have least := Files.load_error_le outcome
      rw [List.count_eq_zero.mpr plain] at least
      simp [Nat.le_zero.mp least]

/-- Files of which one is named `n` and has these contents. -/
def filesWith (contents : String) : Files where
  entries := [([Utf8.encode "n"], .file (Utf8.encode contents))]
  here := []

def brokenTopic : String :=
  "\x7b\"networkConfig\":\x7b\"namespace\":\"a\",\"topics\":[\"x\\ny\"]\x7d\x7d"

def brokenScope : String :=
  "\x7b\"networkConfig\":\x7b\"namespace\":\"a\\nb\"\x7d\x7d"

def namesPath : List Argument :=
  [programName, flag, Utf8.encode "n"]

/-- A line feed in a topic is written in two characters. -/
theorem run_lines_brokenTopic :
    (resolve namesPath = .ok (Utf8.encode "n") ∧
        load (filesWith brokenTopic).disk (Utf8.encode "n") =
          .ok { network := { scope := "a", topics := ["x\ny"] } }) ∧
      OneLine (run (filesWith brokenTopic).disk namesPath none).output := by
  have resolves : resolve namesPath = .ok (Utf8.encode "n") := rfl
  have outcome : load (filesWith brokenTopic).disk (Utf8.encode "n") =
      .ok { network := { scope := "a", topics := ["x\ny"] } } := by decide +kernel
  obtain ⟨-, -, lines⟩ := run_lines (filesWith brokenTopic).disk namesPath resolves
  refine ⟨⟨resolves, outcome⟩, (lines (filesWith brokenTopic) rfl).mpr ⟨by decide, ?_⟩⟩
  intro config loads
  rw [outcome] at loads
  cases loads
  rfl

/-- One in the namespace breaks the line. -/
theorem scope_breaks_line :
    (run (filesWith brokenScope).disk namesPath none).output =
        " INFO node_config: Config loaded config=n namespace=a\nb topics=[] max_peers=0 port=0\n" ∧
      ¬ OneLine (run (filesWith brokenScope).disk namesPath none).output := by
  have output : (run (filesWith brokenScope).disk namesPath none).output =
      " INFO node_config: Config loaded config=n namespace=a\nb topics=[] max_peers=0 port=0" ++
        "\n" := by decide +kernel
  refine ⟨output, ?_⟩
  rw [output, oneLine_iff]
  decide

end Program

end NodeSettings
