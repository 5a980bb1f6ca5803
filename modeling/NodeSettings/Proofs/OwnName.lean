/-
# NodeSettings.Proofs.OwnName -- the name that a program is started under

The first argument is the name that the program was started under.  Reading the
arguments passes over it, but putting the single dash right does not: a name spelled
like the terminator ends the flags, and one spelled like a bare flag takes the first
argument for its value (`resolve_named`).

Under such a name the single dash of a first flag stays, and is refused
(`resolveAs_shortFlag_refused`); under one spelled like a bare flag the value of a flag
may even be rewritten (`resolveAs_value_rewritten`).  These two tell apart any two names
that let expect different things.  So two names resolve every list of arguments alike
exactly if both are the terminator or neither is, and both are bare flags or neither is
(`resolve_alike_iff`).
-/
import NodeSettings.Proofs.Dashes
import NodeSettings.Proofs.FlagPositions

namespace NodeSettings.CommandLine

open NodeSettings.Text

set_option autoImplicit false

/-- What arguments resolve to, by what is expected of the first. -/
def resolveAs (expected : Expected) (args : List Argument) : Except Stop Bytes :=
  (resolveFrom none .nothing (normalizeFrom expected args)).map
    fun path => path.getD (Utf8.encode defaultPath)

/-- The name has its part in what is expected first, and no other. -/
theorem resolve_named (name : Argument) (args : List Argument) :
    resolve (name :: args) = resolveAs (expectedAfter name) args :=
  rfl

/-! ## What tells the others apart -/

/-- Where no flag is expected first, a bare flag with a single dash is refused. -/
theorem resolveAs_shortFlag_refused {expected : Expected} (noFlag : expected ≠ .flag)
    (args : List Argument) : resolveAs expected (shortFlag :: args) = .error strayLetter := by
  cases expected with
  | flag => exact absurd rfl noFlag
  | value | operand => rfl

theorem resolveAs_shortFlag_accepted {expected : Expected} :
    resolveAs expected [shortFlag, shortFlag] = .ok shortFlag ↔ expected = .flag := by
  constructor
  · intro accepted
    by_cases isFlag : expected = .flag
    · exact isFlag
    · rw [resolveAs_shortFlag_refused isFlag] at accepted
      cases accepted
  · rintro rfl
    rfl

/-- Only where a value is expected first is the value of a flag rewritten. -/
theorem resolveAs_value_rewritten {expected : Expected} :
    resolveAs expected [flag, shortFlag] = .ok flag ↔ expected = .value := by
  have kept : (Except.ok shortFlag : Except Stop Bytes) ≠ .ok flag := by
    intro same
    exact absurd (Except.ok.inj same) (by decide)
  cases expected with
  | flag => exact iff_of_false kept (by simp)
  | value => exact iff_of_true rfl rfl
  | operand => exact iff_of_false kept (by simp)

/-- What is expected first shows in what some arguments resolve to. -/
theorem expected_of_alike {expected other : Expected}
    (alike : ∀ args, resolveAs expected args = resolveAs other args) : expected = other := by
  have flags : expected = .flag ↔ other = .flag := by
    rw [← resolveAs_shortFlag_accepted, ← resolveAs_shortFlag_accepted, alike]
  have values : expected = .value ↔ other = .value := by
    rw [← resolveAs_value_rewritten, ← resolveAs_value_rewritten, alike]
  cases expected <;> cases other <;> simp at flags values ⊢

/-- Arguments without a single dash are read as they are. -/
theorem normalizeFrom_of_noneSingle {args : List Argument}
    (noneSingle : ∀ arg ∈ args, ¬ SingleDash arg) (expected : Expected) :
    normalizeFrom expected args = args := by
  induction args generalizing expected with
  | nil => cases expected <;> rfl
  | cons arg rest ih =>
      have kept : expected.writes arg = arg := by
        cases expected with
        | flag => exact doubled_of_not_singleDash (noneSingle arg List.mem_cons_self)
        | value | operand => rfl
      have onward := ih (fun other among => noneSingle other (List.mem_cons_of_mem arg among))
      rw [normalizeFrom_cons, kept, onward]

/-- **Two names resolve all arguments alike exactly if they are alike as arguments**:
both the terminator or neither, both a bare flag or neither.  Arguments without a single
dash resolve alike under any two. -/
theorem resolve_alike_iff (name other : Argument) :
    ((∀ args, resolve (name :: args) = resolve (other :: args)) ↔
        (name = terminator ↔ other = terminator) ∧ (Bare name ↔ Bare other)) ∧
      ∀ args, (∀ arg ∈ args, ¬ SingleDash arg) →
        resolve (name :: args) = resolve (other :: args) := by
  refine ⟨?_, ?_⟩
  · rw [← expectedAfter_congr]
    constructor
    · exact expected_of_alike
    · intro same args
      rw [resolve_named, resolve_named, same]
  · intro args noneSingle
    rw [resolve_named, resolve_named, resolveAs, resolveAs,
      normalizeFrom_of_noneSingle noneSingle, normalizeFrom_of_noneSingle noneSingle]

/-- An empty name resolves everything as the usual one does, the terminator what has no
single dash. -/
theorem resolve_alike_iff_unnamed :
    (∀ args, resolve (programName :: args) = resolve ([] :: args)) ∧
      (∀ arg ∈ [flag, terminator], ¬ SingleDash arg) ∧
        resolve [programName, flag, terminator] = resolve [terminator, flag, terminator] := by
  have noneSingle : ∀ arg ∈ [flag, terminator], ¬ SingleDash arg := by
    intro arg among
    simp only [List.mem_cons, List.not_mem_nil, or_false] at among
    rcases among with rfl | rfl
    · rintro (same | ⟨-, value, same⟩)
      · exact absurd same (by decide)
      · cases same
    · rintro (same | ⟨-, value, same⟩)
      · exact absurd same (by decide)
      · cases same
  have alike : (programName = terminator ↔ [] = terminator) ∧ (Bare programName ↔ Bare []) := by
    unfold Bare
    decide
  exact ⟨(resolve_alike_iff programName []).1.mpr alike, noneSingle,
    (resolve_alike_iff programName terminator).2 [flag, terminator] noneSingle⟩

/-- A flag that loads a file under the usual name is refused under another. -/
theorem name_takes_part :
    resolve [programName, shortFlag, Utf8.encode "n"] = .ok (Utf8.encode "n") ∧
      resolve [terminator, shortFlag, Utf8.encode "n"] = .error strayLetter :=
  ⟨rfl, rfl⟩

end NodeSettings.CommandLine
