/-
# NodeSettings.Proofs.Causes -- what a source can be refused for

A source is refused for the form of its text, for an end that cuts it short, for a known
key that stands twice, or for a failure of its own (`Cause.Of`).  A byte and an end bring
causes of the first three kinds only, and a failing read the failure itself; what has
failed keeps its cause.  So a run over a source is refused for one of the four
(`readDocument_cause`), and the text of a document enters into the cause by nothing but
the key.
-/
import NodeSettings.Proofs.Faults

namespace NodeSettings

set_option autoImplicit false

/-- What a source can be refused for. -/
inductive Cause.Of (source : Source) : Cause → Prop where
  | malformed (m : Malformation) : Of source (.malformed m)
  | truncated (t : Truncation) : Of source (.truncated t)
  | repeated {slot : Slot} {key : String} (known : slot.unique key = true) :
      Of source (.repeated key)
  | unreadable {failure : ReadFailure} (among : .failure failure ∈ source)
      (hard : failure.kind ≠ .interrupted) : Of source (.unreadable failure)

namespace Cause.Of

variable {source : Source} {cause : Cause}

/-- A byte fails for one of these. -/
theorem byte {phase : Phase} (fails : (∃ m, cause = .malformed m) ∨
    phase.ownBrackets ≠ [] ∧
      ∃ (slot : Slot) (key : String), cause = .repeated key ∧ slot.unique key = true) :
    cause.Of source := by
  rcases fails with ⟨m, rfl⟩ | ⟨-, slot, key, rfl, known⟩
  · exact .malformed m
  · exact .repeated known

/-- So does an end. -/
theorem ended (fails : (∃ m, cause = .malformed m) ∨ ∃ t, cause = .truncated t) :
    cause.Of source := by
  rcases fails with ⟨m, rfl⟩ | ⟨t, rfl⟩
  · exact .malformed m
  · exact .truncated t

end Cause.Of

/-! ## Readers that have failed for one of these -/

/-- A reader that has failed, if it has, for what the source can be refused for. -/
def Reader.Within (source : Source) (r : Reader) : Prop :=
  match r.state with
  | .reading _ _ | .asking _ _ => True
  | .leaving fault _ _ => fault.cause.Of source

def Verdict.Within (source : Source) (verdict : Verdict) : Prop :=
  ∀ fault, verdict = .error fault → fault.cause.Of source

theorem Cause.Of.verdict {source : Source} {fault : Fault} (of : fault.cause.Of source) :
    Verdict.Within source (.error fault) := by
  rintro _ ⟨rfl⟩
  exact of

theorem Verdict.within_ok (source : Source) (root : Json) : Verdict.Within source (.ok root) :=
  nofun

abbrev Progress.Within (source : Source) : Progress → Prop :=
  Progress.All (Reader.Within source) (Verdict.Within source)

namespace Reader

variable {source : Source} {p : Position} {phase : Phase} {stack : List Frame}

theorem leave_within {fault : Fault} (of : fault.cause.Of source) (around : List Bracket) :
    (leave p fault around).Within source := by
  cases around with
  | nil => exact of.verdict
  | cons bracket around => exact of

theorem leaveAt_within (b : UInt8) {fault : Fault} (of : fault.cause.Of source) (comma : Bool)
    (around : List Bracket) : (leaveAt p b fault comma around).Within source := by
  induction around generalizing fault comma with
  | nil => exact of.verdict
  | cons bracket around ih =>
      have settled : (fault.settle p).cause.Of source := of
      rw [leaveAt]
      split
      · exact of
      · split
        · exact leave_within settled around
        · split
          · exact of
          · exact ih settled false

theorem moved_within (b : UInt8) {move : Move}
    (fails : ∀ cause left, move = .fail cause left → cause.Of source) :
    (moved p b phase stack move).Within source := by
  cases move with
  | go phase stack => exact trivial
  | done root => exact Verdict.within_ok source root
  | fail cause left =>
      have of : cause.Of source := fails cause left rfl
      cases left with
      | true => exact leaveAt_within b of false _
      | false => exact leave_within of _

theorem take_within (r : Reader) (b : UInt8) (within : r.Within source) :
    (r.take b).Within source := by
  rcases r with ⟨p, state⟩
  cases state with
  | leaving fault comma around => exact leaveAt_within b within comma around
  | reading phase stack => exact moved_within b fun _ _ failed => .byte (step_fail failed)
  | asking phase stack =>
      simp only [take]
      split
      · exact trivial
      · exact moved_within b fun _ _ failed => .byte (stepAgain_fail failed)

theorem fail_within (r : Reader) (failure : ReadFailure) (among : .failure failure ∈ source)
    (hard : failure.kind ≠ .interrupted) (within : r.Within source) :
    (r.fail failure).Within source := by
  rcases r with ⟨p, state⟩
  cases state with
  | leaving fault comma around =>
      have settled : (fault.settle p).cause.Of source := within
      exact leave_within settled around.tail
  | reading phase stack | asking phase stack =>
      have of : (Cause.unreadable failure).Of source := .unreadable among hard
      exact leave_within of _

theorem concluded_within : (concluded p phase stack).Within source := by
  unfold concluded
  cases concludes : conclude phase stack with
  | go phase stack => exact trivial
  | done root => exact Verdict.within_ok source root
  | fail cause left =>
      have of : cause.Of source := .ended (conclude_fail concludes)
      exact leave_within of _

theorem ended_within (r : Reader) (within : r.Within source) : r.ended.Within source := by
  rcases r with ⟨p, state⟩
  cases state with
  | leaving fault comma around =>
      have settled : (fault.settle p).cause.Of source := within
      exact leave_within settled around.tail
  | asking phase stack => exact concluded_within
  | reading phase stack =>
      simp only [Reader.ended]
      split
      · exact trivial
      · exact concluded_within

theorem ending_within (r : Reader) (within : r.Within source) :
    Verdict.Within source r.ending := by
  rcases r with ⟨p, state⟩
  cases state with
  | leaving fault comma around =>
      have settled : (fault.settle p).cause.Of source := within
      exact settled.verdict
  | reading phase stack | asking phase stack =>
      simp only [ending]
      cases stopped : stop phase stack with
      | done root => exact Verdict.within_ok source root
      | fail cause =>
          have of : cause.Of source := .ended (stop_fail stopped)
          exact of.verdict

end Reader

/-- **A source is refused for the form of its text, for an end, for a key that stands twice
or for a failure of its own.** -/
theorem readDocument_cause {source : Source} {fault : Fault}
    (failed : (readDocument source).1 = .error fault) : fault.cause.Of source := by
  have start : Reader.Within source {} := trivial
  exact Reader.run_keeps Reader.take_within Reader.fail_within Reader.ended_within
    Reader.ending_within start fault failed

end NodeSettings
