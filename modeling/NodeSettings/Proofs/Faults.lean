/-
# NodeSettings.Proofs.Faults -- what a document is refused for, and where

A byte fails a document for its form or for a key that stands twice (`step_fail`,
`stepAgain_fail`), and the end of the source for its form or for being cut short
(`stop_fail`, `conclude_fail`).

What holds of a reader and is kept by every byte, failure and end holds of it through a
run (`run_keeps`).  A repeated key is met without a place, and gets one when the object
around it has been left.  So a fault that is being left either has a place already or
has a container around it (`Fault.Fit`); this is kept, and what a reader finishes with
has nothing around it any more (`readDocument_fault`).
-/
import NodeSettings.Reader.Run

namespace NodeSettings

open Text

set_option autoImplicit false

/-! ## What a byte or an end can fail for -/

/-- A move that fails, if it does, for the form of the document. -/
def Move.Formal : Move → Prop
  | .fail (.malformed _) _ => True
  | .fail _ _ => False
  | _ => True

theorem Move.Formal.malformed {move : Move} (formal : move.Formal) {cause : Cause} {left : Bool}
    (same : move = .fail cause left) : ∃ m, cause = .malformed m := by
  subst same
  cases cause with
  | malformed m => exact ⟨m, rfl⟩
  | truncated _ | repeated _ | unreadable _ => exact formal.elim

theorem malformed_of_fail {m : Malformation} {cause : Cause} {left left' : Bool}
    (same : Move.fail (.malformed m) left = .fail cause left') : ∃ m, cause = .malformed m := by
  cases same
  exact ⟨m, rfl⟩

theorem deliver_formal (value : Json) (stack : List Frame) : (deliver value stack).Formal := by
  match stack with
  | [] | .item _ _ :: _ | .member _ _ _ :: _ => exact trivial

theorem begin_formal (slot : Slot) (stack : List Frame) (b : UInt8) :
    (begin slot stack b).Formal := by
  unfold begin
  repeat' split
  all_goals exact trivial

theorem stepArray_formal (slot : Slot) (items : List Json) (place : Place)
    (stack : List Frame) (b : UInt8) : (stepArray slot items place stack b).Formal := by
  unfold stepArray
  repeat' split
  all_goals first
    | exact trivial
    | exact deliver_formal _ stack
    | exact begin_formal _ _ b

theorem stepObject_formal (slot : Slot) (members : List (String × Json)) (place : Place)
    (stack : List Frame) (b : UInt8) : (stepObject slot members place stack b).Formal := by
  unfold stepObject
  repeat' split
  all_goals first | exact trivial | exact deliver_formal _ stack

theorem deliverBefore_formal (value : Json) (b : UInt8) (stack : List Frame) :
    (deliverBefore value b stack).Formal := by
  match stack with
  | [] => exact trivial
  | .item slot items :: stack => exact stepArray_formal slot _ .next stack b
  | .member slot members key :: stack => exact stepObject_formal slot _ .next stack b

theorem stepNumeral_formal (slot : Slot) (draft : Draft) (stack : List Frame) (b : UInt8)
    (drafted : Drafted) : (stepNumeral slot draft stack b drafted).Formal := by
  unfold stepNumeral
  repeat' split
  all_goals first | exact trivial | exact deliverBefore_formal _ b stack

/-- **A byte fails a document for its form, or for a known key that stands twice** in a
kept object. -/
theorem step_fail {phase : Phase} {stack : List Frame} {b : UInt8} {cause : Cause} {left : Bool}
    (failed : step phase stack b = .fail cause left) :
    (∃ m, cause = .malformed m) ∨
      phase.ownBrackets ≠ [] ∧
        ∃ (slot : Slot) (key : String), cause = .repeated key ∧ slot.unique key = true := by
  cases phase with
  | value slot =>
      simp only [step] at failed
      split at failed
      · cases failed
      · exact .inl ((begin_formal slot stack b).malformed failed)
  | word next letters meaning =>
      simp only [step] at failed
      repeat' split at failed
      · exact .inl ((deliver_formal meaning stack).malformed failed)
      · cases failed
      · exact .inl (malformed_of_fail failed)
  | numeral slot draft => exact .inl ((stepNumeral_formal slot draft stack b _).malformed failed)
  | quote slot spelling =>
      simp only [step, closeText] at failed
      repeat' split at failed
      · cases failed
      · exact .inl ((deliver_formal _ stack).malformed failed)
      · exact .inl (malformed_of_fail failed)
      · exact .inl ((deliver_formal _ stack).malformed failed)
      · exact .inl (malformed_of_fail failed)
  | array slot items place =>
      exact .inl ((stepArray_formal slot items place stack b).malformed failed)
  | object slot members place =>
      exact .inl ((stepObject_formal slot members place stack b).malformed failed)
  | key slot members spelling =>
      simp only [step, closeKey] at failed
      split at failed
      · cases failed
      · cases kept : slot.kept with
        | false =>
            rw [kept] at failed
            cases failed
        | true =>
            rw [kept] at failed
            simp only [Bool.not_true, Bool.false_eq_true, if_false] at failed
            repeat' split at failed
            · exact .inl (malformed_of_fail failed)
            · rename_i known
              cases failed
              refine .inr ⟨by simp [Phase.ownBrackets, bracketOf, kept], slot, _, rfl, ?_⟩
              exact (Bool.and_eq_true_iff.mp known).1
            · cases failed
      · exact .inl (malformed_of_fail failed)
  | colon slot members key =>
      simp only [step] at failed
      repeat' split at failed
      · cases failed
      · cases failed
      · exact .inl (malformed_of_fail failed)

/-- So does a byte after an end that was asked about again. -/
theorem stepAgain_fail {phase : Phase} {stack : List Frame} {b : UInt8} {cause : Cause}
    {left : Bool} (failed : stepAgain phase stack b = .fail cause left) :
    (∃ m, cause = .malformed m) ∨
      phase.ownBrackets ≠ [] ∧
        ∃ (slot : Slot) (key : String), cause = .repeated key ∧ slot.unique key = true := by
  cases phase with
  | value slot =>
      simp only [stepAgain] at failed
      split at failed
      · cases failed
      · exact .inl ((begin_formal slot stack b).malformed failed)
  | numeral slot draft => exact .inl ((stepNumeral_formal slot draft stack b _).malformed failed)
  | word | quote | array | object | key | colon => exact step_fail failed

/-- The end of the source fails a document for its form, or for being cut short. -/
theorem stop_fail {phase : Phase} {stack : List Frame} {cause : Cause}
    (failed : stop phase stack = .fail cause) :
    (∃ m, cause = .malformed m) ∨ ∃ t, cause = .truncated t := by
  cases phase with
  | numeral slot draft =>
      simp only [stop] at failed
      repeat' split at failed
      all_goals cases failed
      all_goals first | exact .inl ⟨_, rfl⟩ | exact .inr ⟨_, rfl⟩
  | _ =>
      cases failed
      exact .inr ⟨_, rfl⟩

/-- So does an end that counts. -/
theorem conclude_fail {phase : Phase} {stack : List Frame} {cause : Cause} {left : Bool}
    (failed : conclude phase stack = .fail cause left) :
    (∃ m, cause = .malformed m) ∨ ∃ t, cause = .truncated t := by
  unfold conclude at failed
  split at failed
  · exact .inl ((deliver_formal _ stack).malformed failed)
  · cases stopped : stop phase stack with
    | done document =>
        rw [stopped] at failed
        cases failed
    | fail other =>
        rw [stopped] at failed
        cases failed
        exact stop_fail stopped

/-! ## What a run keeps -/

/-- What holds of a reader that goes on, or of the verdict of one that has finished. -/
def Progress.All (P : Reader → Prop) (Q : Verdict → Prop) : Progress → Prop
  | .more r => P r
  | .finished verdict => Q verdict

namespace Reader

variable {P : Reader → Prop} {Q : Verdict → Prop}

theorem takeAll_keeps (byte : ∀ r b, P r → (r.take b).All P Q) {r : Reader} (holds : P r)
    (bytes : Bytes) : (r.takeAll bytes).1.All P Q := by
  induction bytes generalizing r with
  | nil => exact holds
  | cons b rest ih =>
      have next := byte r b holds
      rw [takeAll]
      cases taken : r.take b with
      | more r =>
          rw [taken] at next
          exact ih next
      | finished verdict =>
          rw [taken] at next
          exact next

/-- **What every byte, failure and end keeps, a run keeps.** -/
theorem run_keeps {source : Source} (byte : ∀ r b, P r → (r.take b).All P Q)
    (failure : ∀ r failure, .failure failure ∈ source → failure.kind ≠ .interrupted → P r →
      (r.fail failure).All P Q)
    (ended : ∀ r, P r → r.ended.All P Q) (ending : ∀ r, P r → Q r.ending) {r : Reader}
    (holds : P r) : Q (r.run source).1 := by
  induction source generalizing r with
  | nil => exact ending r holds
  | cons delivery rest ih =>
      have ih {r : Reader} (holds : P r) : Q (r.run rest).1 :=
        ih (fun r f member => failure r f (List.mem_cons_of_mem _ member)) holds
      cases delivery with
      | data bytes =>
          have next := takeAll_keeps byte holds bytes
          rw [run]
          rcases taken : r.takeAll bytes with ⟨r | verdict, left⟩ <;> rw [taken] at next
          · exact ih next
          · exact next
      | failure f =>
          rw [run]
          split
          · exact ih holds
          · rename_i hard
            have next := failure r f List.mem_cons_self hard holds
            cases progress : r.fail f with
            | more r =>
                rw [progress] at next
                exact ih next
            | finished verdict =>
                rw [progress] at next
                exact next
      | ended =>
          have next := ended r holds
          rw [run]
          cases progress : r.ended with
          | more r =>
              rw [progress] at next
              exact ih next
          | finished verdict =>
              rw [progress] at next
              exact next

end Reader

/-! ## Faults that are being left -/

/-- A fault within containers that are still to be left: its place, if it has one,
lies on a line, and a repeated key without a place has a container around it. -/
structure Fault.Fit (fault : Fault) (around : List Bracket) : Prop where
  line : ∀ p, fault.position = some p → 1 ≤ p.line
  around : ∀ key, fault.cause = .repeated key → fault.position = none → around ≠ []

theorem Fault.Fit.settle {fault : Fault} {around : List Bracket} (fit : fault.Fit around)
    {p : Position} (line : 1 ≤ p.line) (outer : List Bracket) : (fault.settle p).Fit outer where
  line := by
    intro q placed
    cases known : fault.position with
    | none =>
        simp only [Fault.settle, known, Option.getD_none, Option.some.injEq] at placed
        exact placed ▸ line
    | some r =>
        simp only [Fault.settle, known, Option.getD_some, Option.some.injEq] at placed
        exact placed ▸ fit.line r known
  around := by
    intro key repeated placeless
    cases placeless

/-- A fault where it is met. -/
theorem Fault.fit_of_cause {cause : Cause} {p : Position} {around : List Bracket}
    (line : 1 ≤ p.line) (inside : ∀ key, cause = .repeated key → around ≠ []) :
    Fault.Fit ⟨cause, cause.position p⟩ around where
  line := by
    intro q placed
    cases cause with
    | malformed m =>
        cases placed
        exact line
    | truncated t =>
        cases placed
        exact line
    | repeated key => cases placed
    | unreadable failure => cases placed
  around := fun key repeated _ => inside key repeated

namespace Reader

def Fit (r : Reader) : Prop :=
  1 ≤ r.position.line ∧
    match r.state with
    | .reading _ _ | .asking _ _ => True
    | .leaving fault _ around => fault.Fit around

end Reader

def Verdict.Fit (verdict : Verdict) : Prop :=
  ∀ fault, verdict = .error fault → fault.Fit []

theorem Fault.Fit.verdict {fault : Fault} (fit : fault.Fit []) : Verdict.Fit (.error fault) := by
  rintro _ ⟨rfl⟩
  exact fit

theorem Verdict.fit_ok (root : Json) : Verdict.Fit (.ok root) :=
  nofun

/-- A reader that goes on, or a verdict, with a fit fault. -/
abbrev Progress.Fit : Progress → Prop :=
  Progress.All Reader.Fit Verdict.Fit

namespace Reader

theorem after_line {p : Position} (line : 1 ≤ p.line) (b : UInt8) : 1 ≤ (p.after b).line := by
  unfold Position.after
  split
  · exact Nat.le_add_left 1 p.line
  · exact line

theorem leave_fit {p : Position} (line : 1 ≤ p.line) {fault : Fault} {around : List Bracket}
    (fit : fault.Fit around) : (leave p fault around).Fit := by
  cases around with
  | nil => exact fit.verdict
  | cons bracket around => exact ⟨line, fit⟩

theorem leaveAt_fit {p : Position} (line : 1 ≤ p.line) (b : UInt8) {fault : Fault} (comma : Bool)
    {around : List Bracket} (fit : fault.Fit around) : (leaveAt p b fault comma around).Fit := by
  induction around generalizing fault comma with
  | nil => exact fit.verdict
  | cons bracket around ih =>
      rw [leaveAt]
      split
      · exact ⟨line, fit⟩
      · split
        · exact leave_fit line (fit.settle line around)
        · split
          · exact ⟨line, fit⟩
          · exact ih false (fit.settle line around)

/-- A move at a byte that fails with a repeated key fails within the object. -/
theorem moved_fit {p : Position} (line : 1 ≤ p.line) (b : UInt8) {phase : Phase}
    {stack : List Frame} {move : Move}
    (fails : ∀ cause left, move = .fail cause left → (∃ m, cause = .malformed m) ∨
      phase.ownBrackets ≠ [] ∧
        ∃ (slot : Slot) (key : String), cause = .repeated key ∧ slot.unique key = true) :
    (moved p b phase stack move).Fit := by
  cases move with
  | go phase stack => exact ⟨line, trivial⟩
  | done root => exact Verdict.fit_ok root
  | fail cause left =>
      have fit : Fault.Fit ⟨cause, cause.position p⟩ (bracketsAround phase stack) := by
        refine Fault.fit_of_cause line ?_
        rintro key rfl
        rcases fails _ left rfl with ⟨m, same⟩ | ⟨own, -⟩
        · cases same
        · unfold bracketsAround
          exact fun empty => own (List.append_eq_nil_iff.mp empty).1
      cases left with
      | true => exact leaveAt_fit line b false fit
      | false => exact leave_fit line fit

theorem take_fit (r : Reader) (b : UInt8) (fit : r.Fit) : (r.take b).Fit := by
  rcases r with ⟨p, state⟩
  obtain ⟨line, inside⟩ := fit
  have line := after_line line b
  cases state with
  | leaving fault comma around => exact leaveAt_fit line b comma inside
  | reading phase stack => exact moved_fit line b fun _ _ => step_fail
  | asking phase stack =>
      simp only [take]
      split
      · exact ⟨line, trivial⟩
      · exact moved_fit line b fun _ _ => stepAgain_fail

theorem fail_fit (r : Reader) (failure : ReadFailure) (fit : r.Fit) : (r.fail failure).Fit := by
  rcases r with ⟨p, state⟩
  obtain ⟨line, inside⟩ := fit
  cases state with
  | leaving fault comma around => exact leave_fit line (inside.settle line around.tail)
  | reading phase stack | asking phase stack =>
      refine leave_fit line ⟨?_, ?_⟩
      · intro q placed
        cases placed
      · intro key repeated
        cases repeated

/-- What an end is a fault for is no repeated key. -/
theorem fit_of_end {p : Position} (line : 1 ≤ p.line) {cause : Cause}
    (ends : (∃ m, cause = .malformed m) ∨ ∃ t, cause = .truncated t) (around : List Bracket) :
    Fault.Fit ⟨cause, cause.position p⟩ around := by
  refine Fault.fit_of_cause line ?_
  rintro key rfl
  rcases ends with ⟨m, same⟩ | ⟨t, same⟩ <;> cases same

theorem concluded_fit {p : Position} (line : 1 ≤ p.line) (phase : Phase) (stack : List Frame) :
    (concluded p phase stack).Fit := by
  unfold concluded
  cases concludes : conclude phase stack with
  | go phase stack => exact ⟨line, trivial⟩
  | done root => exact Verdict.fit_ok root
  | fail cause left => exact leave_fit line (fit_of_end line (conclude_fail concludes) _)

theorem ended_fit (r : Reader) (fit : r.Fit) : r.ended.Fit := by
  rcases r with ⟨p, state⟩
  obtain ⟨line, inside⟩ := fit
  cases state with
  | leaving fault comma around => exact leave_fit line (inside.settle line around.tail)
  | asking phase stack => exact concluded_fit line phase stack
  | reading phase stack =>
      simp only [ended]
      split
      · exact ⟨line, trivial⟩
      · exact concluded_fit line phase stack

theorem ending_fit (r : Reader) (fit : r.Fit) : Verdict.Fit r.ending := by
  rcases r with ⟨p, state⟩
  obtain ⟨line, inside⟩ := fit
  cases state with
  | leaving fault comma around => exact (inside.settle line []).verdict
  | reading phase stack | asking phase stack =>
      simp only [ending]
      cases stopped : stop phase stack with
      | done root => exact Verdict.fit_ok root
      | fail cause => exact (fit_of_end line (stop_fail stopped) []).verdict

/-- **A fault that a run finishes with is fit.** -/
theorem run_fit {r : Reader} (fit : r.Fit) (source : Source) : Verdict.Fit (r.run source).1 :=
  run_keeps take_fit (fun r failure _ _ => fail_fit r failure) ended_fit ending_fit fit

end Reader

/-- A repeated key is reported with its place, on a line of the text. -/
theorem readDocument_fault {source : Source} {fault : Fault}
    (failed : (readDocument source).1 = .error fault) (key : String)
    (repeated : fault.cause = .repeated key) : ∃ p, fault.position = some p ∧ 1 ≤ p.line := by
  have start : Reader.Fit {} := ⟨Nat.le_refl 1, trivial⟩
  have fit := Reader.run_fit start source fault failed
  cases known : fault.position with
  | none => exact absurd rfl (fit.around key repeated known)
  | some p => exact ⟨p, rfl, fit.line p known⟩

end NodeSettings
