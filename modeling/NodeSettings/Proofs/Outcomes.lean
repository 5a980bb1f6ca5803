/-
# NodeSettings.Proofs.Outcomes -- the three ways decoding ends

Decoding a source ends in a configuration, in an error about a mistyped item with
what the document gives well, or in an error about reading with the default
configuration.  The category and the place of the error alone tell which
(`Outcome.upshot`): only an error about a mistyped item is one of content without
a place, because nothing is ever taken off its message (`Mismatch.notice_eq`) and
a repeated key always has a place (`readDocument_fault`).
-/
import NodeSettings.Proofs.Faults
import NodeSettings.Proofs.Isolation
import NodeSettings.Proofs.Ranking

namespace NodeSettings

open Text

set_option autoImplicit false

/-- The line and column an error is reported at; without a place both are zero. -/
def Problem.lineColumn (problem : Problem) : Nat × Nat :=
  match problem.position with
  | none => (0, 0)
  | some p => (p.line, p.column)

inductive Upshot where
  | clean
  | mistyped
  | unread
deriving DecidableEq, Repr

/-- How decoding ended, by what a caller is told of an error. -/
def Outcome.upshot : Outcome → Upshot
  | .ok _ => .clean
  | .error (.decoding problem _) =>
      if problem.category = .content ∧ problem.lineColumn = (0, 0) then .mistyped else .unread
  | .error (.opening _ _) => .unread

/-- What there is to say about an outcome by the way it ended. -/
def Outcome.Accounts (source : Source) (outcome : Outcome) : Upshot → Prop
  | .clean => ∃ config, outcome = .ok config ∧
      outcome.events = [.decoded config.network.scope config.network.topics.length]
  | .mistyped => ∃ m config, outcome = .error (.decoding (.mistyped m) config) ∧
      outcome.events = [.mistyped (Problem.mistyped m).text] ∧
      (∀ root, (readDocument source).1 = .ok root →
        config = root.config ∧ root.mismatches.head? = some m) ∧
      (∀ doc, source.Gives doc → config.network.Follows doc ∧ doc.Reports m) ∧
      (Problem.mistyped m).text =
        m.item.lead ++
          (m.complaint ++ ": " ++ m.found.text m.item.layout ++ ", expected " ++
            m.item.wanted.text)
  | .unread => ∃ fault, outcome = .error (.decoding (.unreadable fault) {}) ∧
      outcome.events = [] ∧
      (fault.cause.category ≠ .content ∨ 1 ≤ (Problem.unreadable fault).lineColumn.1)

/-! ## Each way -/

theorem upshot_mistyped (m : Mismatch) (config : Config) :
    Outcome.upshot (.error (.decoding (.mistyped m) config)) = .mistyped := by
  have placeless : (Problem.mistyped m).lineColumn = (0, 0) := by
    simp only [Problem.lineColumn, Problem.position, Mismatch.notice_eq]
  simp only [Outcome.upshot, placeless, Problem.category, and_self, if_true]

/-- A fault of content is a repeated key, and has a place. -/
theorem fault_distinct {source : Source} {fault : Fault}
    (failed : (readDocument source).1 = .error fault) :
    fault.cause.category ≠ .content ∨ 1 ≤ (Problem.unreadable fault).lineColumn.1 := by
  rcases shape : fault.cause with m | t | key | failure
  · exact .inl (by simp [Cause.category])
  · exact .inl (by simp [Cause.category])
  · obtain ⟨p, placed, line⟩ := readDocument_fault failed key shape
    refine .inr ?_
    simp only [Problem.lineColumn, Problem.position, placed]
    exact line
  · exact .inl (by simp [Cause.category])

theorem upshot_unread {source : Source} {fault : Fault}
    (failed : (readDocument source).1 = .error fault) :
    Outcome.upshot (.error (.decoding (.unreadable fault) {})) = .unread := by
  rw [Outcome.upshot, if_neg]
  rintro ⟨content, placeless⟩
  rcases fault_distinct failed with other | line
  · exact other content
  · rw [placeless] at line
    cases line

theorem decode_of_fault {source : Source} {fault : Fault}
    (failed : (readDocument source).1 = .error fault) :
    (decode source).1 = .error (.decoding (.unreadable fault) {}) := by
  rw [decode_outcome, failed]
  rfl

theorem decode_of_cause {source : Source} {cause : Cause}
    (failed : (readDocument source).1.mapError Fault.cause = .error cause) :
    ∃ place, (decode source).1 = .error (.decoding (.unreadable ⟨cause, place⟩) {}) := by
  cases verdict : (readDocument source).1 with
  | ok root =>
      rw [verdict] at failed
      cases failed
  | error fault =>
      rw [verdict] at failed
      cases failed
      exact ⟨fault.position, decode_of_fault verdict⟩

theorem upshot_of_fault {source : Source} {fault : Fault}
    (failed : (readDocument source).1 = .error fault) : (decode source).1.upshot = .unread := by
  rw [decode_of_fault failed]
  exact upshot_unread failed

theorem upshot_of_clean {source : Source} {root : Json}
    (read : (readDocument source).1 = .ok root) (clean : root.mismatches = []) :
    (decode source).1.upshot = .clean := by
  rw [decode_outcome, read, outcomeOf_document, clean]
  rfl

theorem upshot_of_mistyped {source : Source} {root : Json}
    (read : (readDocument source).1 = .ok root) (wrong : root.mismatches ≠ []) :
    (decode source).1.upshot = .mistyped := by
  rw [decode_outcome, read, outcomeOf_document]
  cases first : root.mismatches.head? with
  | none => exact absurd (List.head?_eq_none_iff.mp first) wrong
  | some m => exact upshot_mistyped m root.config

/-- An outcome is as the way it ended says. -/
theorem decode_accounts (source : Source) :
    (decode source).1.Accounts source (decode source).1.upshot := by
  cases read : (readDocument source).1 with
  | error fault =>
      rw [upshot_of_fault read, decode_of_fault read]
      exact ⟨fault, rfl, rfl, fault_distinct read⟩
  | ok root =>
      rw [decode_outcome, read, outcomeOf_document]
      cases first : root.mismatches.head? with
      | none => exact ⟨root.config, rfl, rfl⟩
      | some m =>
          rw [upshot_mistyped]
          refine ⟨m, root.config, rfl, rfl, ?_, ?_, ?_⟩
          · intro tree same
            cases read.symm.trans same
            exact ⟨rfl, first⟩
          · intro doc gives
            have readAs := read_of_holds read gives.2
            exact ⟨Document.network_follows readAs, Document.reports_head readAs first⟩
          · rw [← m.what_eq]
            exact m.text_of_lead

/-! ## Which way -/

section Read

variable {source : Source} {root : Json} (read : (readDocument source).1 = .ok root)

include read

theorem upshot_clean_iff :
    (decode source).1.upshot = .clean ↔ ∀ item, ¬ root.Mistyped item := by
  rw [← Json.mismatches_eq_nil]
  by_cases clean : root.mismatches = []
  · simp [clean, upshot_of_clean read clean]
  · simp [clean, upshot_of_mistyped read clean]

theorem upshot_mistyped_iff :
    (decode source).1.upshot = .mistyped ↔ ∃ item, root.Mistyped item := by
  rw [← not_forall_not, ← Json.mismatches_eq_nil]
  by_cases clean : root.mismatches = []
  · simp [clean, upshot_of_clean read clean]
  · simp [clean, upshot_of_mistyped read clean]

theorem upshot_ne_unread : (decode source).1.upshot ≠ .unread := by
  by_cases clean : root.mismatches = []
  · simp [upshot_of_clean read clean]
  · simp [upshot_of_mistyped read clean]

end Read

section Source

variable (source : Source)

/-- A way that says something of the tree that was read says that there is one. -/
theorem upshot_iff_exists_read {way : Upshot} (other : way ≠ .unread) {Tells : Json → Prop}
    (iff : ∀ root, (readDocument source).1 = .ok root →
      ((decode source).1.upshot = way ↔ Tells root)) :
    (decode source).1.upshot = way ↔
      ∃ root, (readDocument source).1 = .ok root ∧ Tells root := by
  cases read : (readDocument source).1 with
  | ok root => simp [iff root read]
  | error fault => simp [upshot_of_fault read, other.symm]

theorem upshot_unread_iff :
    (decode source).1.upshot = .unread ↔ ∃ fault, (readDocument source).1 = .error fault := by
  cases read : (readDocument source).1 with
  | ok root => simp [upshot_ne_unread read]
  | error fault => simp [upshot_of_fault read]

/-- What a tree says of its mistyped items is what its documents say of theirs. -/
theorem exists_read_iff_exists_gives {source : Source} (unresumed : source.Unresumed)
    (Tells : (Item → Prop) → Prop) :
    (∃ root, (readDocument source).1 = .ok root ∧ Tells root.Mistyped) ↔
      ∃ doc, source.Gives doc ∧ Tells doc.Mistyped := by
  have same {root : Json} {doc : Document} (read : (readDocument source).1 = .ok root)
      (gives : source.Gives doc) : root.Mistyped = doc.Mistyped :=
    funext fun item => propext (Document.mistyped_iff (read_of_holds read gives.2) item)
  constructor
  · rintro ⟨root, read, tells⟩
    obtain ⟨doc, gives⟩ := exists_gives unresumed read
    exact ⟨doc, gives, same read gives ▸ tells⟩
  · rintro ⟨doc, gives, tells⟩
    obtain ⟨root, read⟩ := gives.1
    exact ⟨root, read, same read gives ▸ tells⟩

/-- **Decoding ends in exactly one of three ways**, each exactly when the tree that was
read says so, and the error alone tells which.  Unless the source goes on after an end,
that is what the documents say that begin its text. -/
theorem decode_upshot :
    ((decode source).1.upshot = .clean ↔
        ∃ root, (readDocument source).1 = .ok root ∧ ∀ item, ¬ root.Mistyped item) ∧
      ((decode source).1.upshot = .mistyped ↔
        ∃ root, (readDocument source).1 = .ok root ∧ ∃ item, root.Mistyped item) ∧
      ((decode source).1.upshot = .unread ↔
        ∃ fault, (readDocument source).1 = .error fault) ∧
      (source.Unresumed →
        ((decode source).1.upshot = .clean ↔
            ∃ doc, source.Gives doc ∧ ∀ item, ¬ doc.Mistyped item) ∧
          ((decode source).1.upshot = .mistyped ↔
            ∃ doc, source.Gives doc ∧ ∃ item, doc.Mistyped item)) ∧
      (decode source).1.Accounts source (decode source).1.upshot := by
  have clean := @upshot_iff_exists_read source .clean (by decide) _ fun _ => upshot_clean_iff
  have mistyped :=
    @upshot_iff_exists_read source .mistyped (by decide) _ fun _ => upshot_mistyped_iff
  refine ⟨clean, mistyped, upshot_unread_iff source, fun unresumed => ⟨?_, ?_⟩,
    decode_accounts source⟩
  · rw [clean]
    exact exists_read_iff_exists_gives unresumed fun wrong => ∀ item, ¬ wrong item
  · rw [mistyped]
    exact exists_read_iff_exists_gives unresumed fun wrong => ∃ item, wrong item

end Source

/-- A port that is a string, which ends as if it spoke of a place. -/
def Source.placedPort : Source :=
  .ofBytes (Utf8.encode "\x7b\"networkConfig\":\x7b\"port\":\"x at line 7 column 3\"\x7d\x7d")

/-- The string is told in full, and the error has no place. -/
theorem decode_upshot_placedPort :
    (decode Source.placedPort).1.upshot = .mistyped ∧
      ∃ m config, (decode Source.placedPort).1 = .error (.decoding (.mistyped m) config) ∧
        (Problem.mistyped m).lineColumn = (0, 0) ∧
        (Problem.mistyped m).text = "networkConfig.port: invalid type: " ++
          "string \"x at line 7 column 3\", expected i64" := by
  have outcome : (decode Source.placedPort).1 = .error (.decoding
      (.mistyped ⟨.setting .port, .string "x at line 7 column 3"⟩) {}) := by
    decide +kernel
  have ended : (decode Source.placedPort).1.upshot = .mistyped := by
    rw [outcome, upshot_mistyped]
  obtain ⟨-, -, -, -, accounts⟩ := decode_upshot Source.placedPort
  rw [ended] at accounts
  obtain ⟨m, config, same, -, -, -, text⟩ := accounts
  obtain ⟨rfl, rfl⟩ : m = ⟨.setting .port, .string "x at line 7 column 3"⟩ ∧ config = {} := by
    rw [outcome] at same
    cases same
    exact ⟨rfl, rfl⟩
  refine ⟨ended, _, _, outcome, ?_, ?_⟩
  · simp only [Problem.lineColumn, Problem.position, Mismatch.notice_eq]
  · rw [text]
    decide +kernel

end NodeSettings
