/-
# NodeSettings.Proofs.FlagPositions -- which arguments are rewritten

Putting the single dash right is a pass from left to right that writes one argument
for every argument it reads.  What it writes at a position depends on the argument
there and on what is expected after the arguments before it (`expectedAt`,
`getElem?_normalize`).

`FlagPosition` says where an argument may be a flag without speaking of a pass: by
what stands in flag position before it.  One argument more moves both on in the same
way, so the pass expects a flag exactly in flag position (`flagPosition_iff`).  Hence
the pass rewrites the single-dash spellings in flag position and nothing else
(`normalize_rewrites`).
-/
import NodeSettings.Proofs.Arguments

namespace NodeSettings.CommandLine

open NodeSettings.Text

set_option autoImplicit false

/-- An argument stands in flag position unless a terminator in flag position came
before it, or the argument right before it is a bare flag in flag position. -/
def FlagPosition (args : List Argument) (i : Nat) : Prop :=
  (∀ j, j < i → FlagPosition args j → args[j]? ≠ some terminator) ∧
    ∀ j, j + 1 = i → FlagPosition args j → ∀ arg, args[j]? = some arg → ¬ Bare arg
termination_by i

/-- The spellings with a single dash: the bare flag, and text that carries a path. -/
def SingleDash (arg : Argument) : Prop :=
  arg = shortFlag ∨ Utf8.Spells arg ∧ shortFlagEquals <+: arg

/-! ## One pass -/

/-- What is expected after one argument more. -/
def Expected.next : Expected → Argument → Expected
  | .flag, arg => expectedAfter arg
  | .value, _ => .flag
  | .operand, _ => .operand

/-- What is written for an argument. -/
def Expected.writes : Expected → Argument → Argument
  | .flag, arg => doubled arg
  | .value, arg => arg
  | .operand, arg => arg

/-- What is expected of the argument at a position, by those before it. -/
def expectedAt (args : List Argument) (i : Nat) : Expected :=
  (args.take i).foldl Expected.next .flag

theorem normalizeFrom_cons (expected : Expected) (arg : Argument) (rest : List Argument) :
    normalizeFrom expected (arg :: rest) =
      expected.writes arg :: normalizeFrom (expected.next arg) rest := by
  cases expected <;> rfl

theorem length_normalizeFrom (expected : Expected) (args : List Argument) :
    (normalizeFrom expected args).length = args.length := by
  induction args generalizing expected with
  | nil => cases expected <;> rfl
  | cons arg rest ih => rw [normalizeFrom_cons, List.length_cons, List.length_cons, ih]

theorem getElem?_normalizeFrom (expected : Expected) (args : List Argument) (i : Nat) :
    (normalizeFrom expected args)[i]? =
      args[i]?.map ((args.take i).foldl Expected.next expected).writes := by
  induction args generalizing expected i with
  | nil => cases expected <;> rfl
  | cons arg rest ih =>
      rw [normalizeFrom_cons]
      cases i with
      | zero => rfl
      | succ i => exact ih (expected.next arg) i

/-- A position is written by what is expected there. -/
theorem getElem?_normalize (args : List Argument) (i : Nat) :
    (normalize args)[i]? = args[i]?.map (expectedAt args i).writes :=
  getElem?_normalizeFrom .flag args i

theorem expectedAfter_eq_operand {arg : Argument} :
    expectedAfter arg = .operand ↔ arg = terminator := by
  unfold expectedAfter
  split
  · rename_i ends
    simp [ends]
  · rename_i noEnd
    split <;> simp [noEnd]

theorem expectedAfter_eq_value {arg : Argument} : expectedAfter arg = .value ↔ Bare arg := by
  unfold expectedAfter Bare
  split
  · rename_i ends
    rw [ends]
    decide
  · split <;> simp [*]

/-- Arguments let expect the same if they are told apart neither as terminators nor as
bare flags. -/
theorem expectedAfter_congr {arg other : Argument} :
    expectedAfter arg = expectedAfter other ↔
      (arg = terminator ↔ other = terminator) ∧ (Bare arg ↔ Bare other) := by
  simp only [← expectedAfter_eq_operand, ← expectedAfter_eq_value]
  cases expectedAfter arg <;> cases expectedAfter other <;> simp

theorem expectedAt_succ {args : List Argument} {i : Nat} {arg : Argument}
    (holds : args[i]? = some arg) : expectedAt args (i + 1) = (expectedAt args i).next arg := by
  rw [expectedAt, List.take_add_one, holds, List.foldl_append]
  rfl

/-! ## What is expected, in terms of flag positions -/

section Positions

variable {args : List Argument} {i : Nat}

/-- A terminator in flag position came before. -/
def Ended (args : List Argument) (i : Nat) : Prop :=
  ∃ j, j < i ∧ FlagPosition args j ∧ args[j]? = some terminator

/-- A bare flag in flag position comes right before. -/
def FollowsBare (args : List Argument) (i : Nat) : Prop :=
  ∃ j, j + 1 = i ∧ FlagPosition args j ∧ ∃ arg, args[j]? = some arg ∧ Bare arg

theorem flagPosition_iff_not : FlagPosition args i ↔ ¬ Ended args i ∧ ¬ FollowsBare args i := by
  rw [FlagPosition]
  constructor
  · rintro ⟨noEnd, noBare⟩
    refine ⟨?_, ?_⟩
    · rintro ⟨j, before, stands, ends⟩
      exact noEnd j before stands ends
    · rintro ⟨j, before, stands, arg, holds, bare⟩
      exact noBare j before stands arg holds bare
  · rintro ⟨noEnd, noBare⟩
    refine ⟨?_, ?_⟩
    · intro j before stands ends
      exact noEnd ⟨j, before, stands, ends⟩
    · intro j before stands arg holds bare
      exact noBare ⟨j, before, stands, arg, holds, bare⟩

/-- One argument more has ended the flags if they had ended, or if it does. -/
theorem ended_succ : Ended args (i + 1) ↔
    Ended args i ∨ FlagPosition args i ∧ args[i]? = some terminator := by
  constructor
  · rintro ⟨j, before, stands, ends⟩
    rcases Nat.lt_succ_iff_lt_or_eq.mp before with earlier | rfl
    · exact .inl ⟨j, earlier, stands, ends⟩
    · exact .inr ⟨stands, ends⟩
  · rintro (⟨j, before, stands, ends⟩ | ⟨stands, ends⟩)
    · exact ⟨j, Nat.lt_succ_of_lt before, stands, ends⟩
    · exact ⟨i, Nat.lt_succ_self i, stands, ends⟩

theorem followsBare_succ {arg : Argument} (holds : args[i]? = some arg) :
    FollowsBare args (i + 1) ↔ FlagPosition args i ∧ Bare arg := by
  constructor
  · rintro ⟨j, before, stands, arg', holds', bare⟩
    obtain rfl := Nat.succ.inj before
    obtain rfl := Option.some.inj (holds.symm.trans holds')
    exact ⟨stands, bare⟩
  · rintro ⟨stands, bare⟩
    exact ⟨i, rfl, stands, arg, holds, bare⟩

/-- What an expectation says of a position. -/
def Expected.Fits (args : List Argument) (i : Nat) : Expected → Prop
  | .flag => FlagPosition args i
  | .value => ¬ Ended args i ∧ FollowsBare args i
  | .operand => Ended args i

/-- **One argument more moves the expectation on as it moves the position.** -/
theorem Expected.Fits.next {expected : Expected} (fits : expected.Fits args i) {arg : Argument}
    (holds : args[i]? = some arg) : (expected.next arg).Fits args (i + 1) := by
  cases expected with
  | flag =>
      have stands : FlagPosition args i := fits
      have noEnd : ¬ Ended args i := (flagPosition_iff_not.mp stands).1
      have ended : Ended args (i + 1) ↔ arg = terminator := by
        rw [ended_succ, holds, Option.some.injEq]
        simp [noEnd, stands]
      have follows : FollowsBare args (i + 1) ↔ Bare arg := by
        simp [followsBare_succ holds, stands]
      by_cases ends : arg = terminator
      · rw [Expected.next, expectedAfter_eq_operand.mpr ends]
        exact ended.mpr ends
      · by_cases bare : Bare arg
        · rw [Expected.next, expectedAfter_eq_value.mpr bare]
          exact ⟨mt ended.mp ends, follows.mpr bare⟩
        · rw [Expected.next, expectedAfter_other ends bare]
          exact flagPosition_iff_not.mpr ⟨mt ended.mp ends, mt follows.mp bare⟩
  | value =>
      -- A value is in no flag position, so it neither ends the flags nor takes a value.
      have noFlag : ¬ FlagPosition args i := fun stands =>
        (flagPosition_iff_not.mp stands).2 fits.2
      apply flagPosition_iff_not.mpr
      simp [ended_succ, followsBare_succ holds, noFlag, fits.1]
  | operand => exact ended_succ.mpr (.inl fits)

/-- At every position up to the end, the expectation says what the position is. -/
theorem fits_expectedAt (within : i ≤ args.length) : (expectedAt args i).Fits args i := by
  induction i with
  | zero =>
      apply flagPosition_iff_not.mpr
      refine ⟨?_, ?_⟩
      · rintro ⟨j, before, -⟩
        exact absurd before (Nat.not_lt_zero j)
      · rintro ⟨j, before, -⟩
        exact absurd before (Nat.succ_ne_zero j)
  | succ i ih =>
      have holds : args[i]? = some args[i] := List.getElem?_eq_getElem within
      rw [expectedAt_succ holds]
      exact (ih (Nat.le_of_succ_le within)).next holds

/-- **A flag is expected exactly in flag position.** -/
theorem flagPosition_iff (within : i ≤ args.length) :
    FlagPosition args i ↔ expectedAt args i = .flag := by
  have fits := fits_expectedAt within
  constructor
  · intro stands
    obtain ⟨noEnd, noBare⟩ := flagPosition_iff_not.mp stands
    cases expected : expectedAt args i with
    | flag => rfl
    | value =>
        rw [expected] at fits
        exact absurd fits.2 noBare
    | operand =>
        rw [expected] at fits
        exact absurd fits noEnd
  · intro expected
    rw [expected] at fits
    exact fits

theorem flagPosition_iff_at {arg : Argument} (holds : args[i]? = some arg) :
    FlagPosition args i ↔ expectedAt args i = .flag :=
  flagPosition_iff (Nat.le_of_lt (List.getElem?_eq_some_iff.mp holds).1)

end Positions

/-! ## What is written -/

/-- Elsewhere an argument is written as it is. -/
theorem writes_of_ne {expected : Expected} (other : expected ≠ .flag) (arg : Argument) :
    expected.writes arg = arg := by
  cases expected with
  | flag => exact absurd rfl other
  | value | operand => rfl

theorem doubled_singleDash {arg : Argument} (single : SingleDash arg) :
    doubled arg = ascii '-' :: arg := by
  rcases doubled_cases arg with ⟨rfl, same⟩ | ⟨value, rfl, -, same⟩ | ⟨long, noText, same⟩
  · exact same
  · exact same
  · rcases single with short | ⟨text, value, shape⟩
    · exact absurd short long
    · exact absurd text (noText value shape.symm)

theorem doubled_of_not_singleDash {arg : Argument} (other : ¬ SingleDash arg) :
    doubled arg = arg := by
  rcases doubled_cases arg with ⟨short, -⟩ | ⟨value, shape, text, -⟩ | ⟨-, -, same⟩
  · exact absurd (.inl short) other
  · exact absurd (.inr ⟨text, value, shape.symm⟩) other
  · exact same

/-- What stands in no flag position is written as it is. -/
theorem getElem?_normalize_of_not {args : List Argument} {i : Nat}
    (other : ¬ FlagPosition args i) : (normalize args)[i]? = args[i]? := by
  rw [getElem?_normalize]
  cases holds : args[i]? with
  | none => rfl
  | some arg => rw [Option.map_some, writes_of_ne (mt (flagPosition_iff_at holds).mpr other)]

/-- **Exactly the single-dash spellings in flag position are rewritten**, by one more
dash in front.  So the argument after a bare flag and every argument after a
terminator come out as they are, whatever they are spelled like. -/
theorem normalize_rewrites (args : List Argument) :
    (normalize args).length = args.length ∧
      (∀ i arg, args[i]? = some arg →
        (FlagPosition args i ∧ SingleDash arg → (normalize args)[i]? = some (ascii '-' :: arg)) ∧
          (¬ (FlagPosition args i ∧ SingleDash arg) → (normalize args)[i]? = some arg)) ∧
      ∀ i arg, args[i]? = some arg → FlagPosition args i →
        (Bare arg → (normalize args)[i + 1]? = args[i + 1]?) ∧
          (arg = terminator → ∀ j, i < j → (normalize args)[j]? = args[j]?) := by
  refine ⟨length_normalizeFrom .flag args, ?_, ?_⟩
  · intro i arg holds
    have within : i ≤ args.length := Nat.le_of_lt (List.getElem?_eq_some_iff.mp holds).1
    constructor
    · rintro ⟨stands, single⟩
      rw [getElem?_normalize, holds, (flagPosition_iff within).mp stands]
      exact congrArg some (doubled_singleDash single)
    · intro other
      by_cases stands : FlagPosition args i
      · have plain : ¬ SingleDash arg := fun single => other ⟨stands, single⟩
        rw [getElem?_normalize, holds, (flagPosition_iff within).mp stands]
        exact congrArg some (doubled_of_not_singleDash plain)
      · rw [getElem?_normalize_of_not stands, holds]
  · intro i arg holds stands
    constructor
    · intro bare
      apply getElem?_normalize_of_not
      intro after
      exact (flagPosition_iff_not.mp after).2 ((followsBare_succ holds).mpr ⟨stands, bare⟩)
    · rintro rfl j later
      apply getElem?_normalize_of_not
      intro after
      exact (flagPosition_iff_not.mp after).1 ⟨i, later, stands, holds⟩

/-- A flag that is the value of a flag takes no value, and a terminator that is one
ends nothing. -/
theorem normalize_rewrites_chain :
    (([shortFlag, shortFlag, shortFlag, terminator, shortFlag])[4]? = some shortFlag ∧
        FlagPosition [shortFlag, shortFlag, shortFlag, terminator, shortFlag] 4) ∧
      (normalize [shortFlag, shortFlag, shortFlag, terminator, shortFlag])[4]? = some flag := by
  have stands : FlagPosition [shortFlag, shortFlag, shortFlag, terminator, shortFlag] 4 :=
    (flagPosition_iff (by decide)).mpr rfl
  have rewritten := (normalize_rewrites
    [shortFlag, shortFlag, shortFlag, terminator, shortFlag]).2.1 4 shortFlag rfl
  exact ⟨⟨rfl, stands⟩, rewritten.1 ⟨stands, .inl rfl⟩⟩

end NodeSettings.CommandLine
