/-
# NodeSettings.Proofs.SecondPass -- putting the dash right twice

An argument that was put right is what it was before: a terminator, a bare flag, or
neither (`expectedAfter_doubled`).  So a second pass expects at every position what the
first one did (`expectedAt_normalize`), and flag positions stay where they are.

A list of arguments is *normal* when no single-dash spelling stands in flag position.
One pass leaves such a list (`normalize_normal`), and it is what a pass leaves alone
(`normalize_eq_self_iff`).  Hence a second pass changes nothing (`normalize_idempotent`).
-/
import NodeSettings.Proofs.FlagPositions

namespace NodeSettings.CommandLine

open NodeSettings.Text

set_option autoImplicit false

/-- There is nothing to put right. -/
def Normal (args : List Argument) : Prop :=
  ∀ i arg, args[i]? = some arg → FlagPosition args i → ¬ SingleDash arg

/-! ## One argument -/

/-- Two dashes are no single dash. -/
theorem not_singleDash_double (rest : Bytes) : ¬ SingleDash (ascii '-' :: ascii '-' :: rest) := by
  rintro (⟨⟨⟩⟩ | ⟨-, value, shape⟩)
  cases shape

theorem not_singleDash_doubled (arg : Argument) : ¬ SingleDash (doubled arg) := by
  rcases doubled_cases arg with ⟨-, same⟩ | ⟨value, -, -, same⟩ | ⟨long, noText, same⟩
  · rw [same]
    exact not_singleDash_double _
  · rw [same]
    exact not_singleDash_double _
  · rw [same]
    rintro (short | ⟨text, value, shape⟩)
    · exact long short
    · exact noText value shape.symm text

theorem doubled_eq_terminator {arg : Argument} : doubled arg = terminator ↔ arg = terminator := by
  rw [← token_eq_terminator, token_doubled_terminator]

theorem bare_doubled {arg : Argument} : Bare (doubled arg) ↔ Bare arg := by
  have long : doubled arg ≠ shortFlag := fun short => not_singleDash_doubled arg (.inl short)
  rw [← @token_doubled_bare arg, token_eq_bare]
  exact ⟨fun bare => bare.resolve_right long, .inl⟩

/-- An argument that was put right lets expect what it did before. -/
theorem expectedAfter_doubled (arg : Argument) :
    expectedAfter (doubled arg) = expectedAfter arg :=
  expectedAfter_congr.mpr ⟨doubled_eq_terminator, bare_doubled⟩

theorem Expected.next_writes (expected : Expected) (arg : Argument) :
    expected.next (expected.writes arg) = expected.next arg := by
  cases expected with
  | flag => exact expectedAfter_doubled arg
  | value | operand => rfl

/-! ## All arguments -/

/-- **The second pass is at every argument where the first one was.** -/
theorem foldl_next_normalizeFrom (expected : Expected) (args : List Argument) (i : Nat) :
    ((normalizeFrom expected args).take i).foldl Expected.next expected =
      (args.take i).foldl Expected.next expected := by
  induction args generalizing expected i with
  | nil => cases expected <;> rfl
  | cons arg rest ih =>
      rw [normalizeFrom_cons]
      cases i with
      | zero => rfl
      | succ i =>
          -- What was written leads on to where the argument itself did.
          rw [List.take_succ_cons, List.take_succ_cons, List.foldl_cons, List.foldl_cons,
            Expected.next_writes, ih]

theorem expectedAt_normalize (args : List Argument) (i : Nat) :
    expectedAt (normalize args) i = expectedAt args i :=
  foldl_next_normalizeFrom .flag args i

theorem normalize_normal (args : List Argument) : Normal (normalize args) := by
  intro i arg holds stands
  have first : expectedAt args i = .flag := by
    rw [← expectedAt_normalize, ← flagPosition_iff_at holds]
    exact stands
  rw [getElem?_normalize, first] at holds
  obtain ⟨before, -, rfl⟩ := Option.map_eq_some_iff.mp holds
  exact not_singleDash_doubled before

/-- **A pass leaves alone exactly the normal lists.** -/
theorem normalize_eq_self_iff {args : List Argument} : normalize args = args ↔ Normal args := by
  constructor
  · intro same
    rw [← same]
    exact normalize_normal args
  · intro normal
    apply List.ext_getElem?
    intro i
    by_cases stands : FlagPosition args i
    · rw [getElem?_normalize]
      cases holds : args[i]? with
      | none => rfl
      | some arg =>
          have plain : ¬ SingleDash arg := normal i arg holds stands
          rw [Option.map_some, (flagPosition_iff_at holds).mp stands]
          exact congrArg some (doubled_of_not_singleDash plain)
    · exact getElem?_normalize_of_not stands

/-- **A second pass changes nothing.**  It expects at every position what the first one
did there, and finds everything put right; what one pass leaves alone already are the
normal lists and no other. -/
theorem normalize_idempotent (args : List Argument) :
    normalize (normalize args) = normalize args ∧
      (∀ i, expectedAt (normalize args) i = expectedAt args i) ∧
      (normalize args = args ↔ Normal args) :=
  ⟨normalize_eq_self_iff.mpr (normalize_normal args), expectedAt_normalize args,
    normalize_eq_self_iff⟩

end NodeSettings.CommandLine
