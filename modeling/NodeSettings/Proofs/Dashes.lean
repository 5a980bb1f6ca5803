/-
# NodeSettings.Proofs.Dashes -- one dash or two

An argument stands in flag position after arguments that hold no terminator and
give every bare flag its value (`Settled`, `settled_iff_flagPosition`).  There the flag
may be spelled with one dash or with two.  A bare flag is the same in either spelling; one that carries
its value is, as long as the value is text, because the single-dash spelling is
only looked for in text (`resolve_dashes_iff`).

With a value that is no text the single dash is not put right, and the letters
after it are read as flags of their own, of which `c` is none: what two dashes
resolve to a path, one dash rejects (`single_dash_refused`).  The two differ
exactly there, unless the arguments are refused in the same words anyway.
-/
import NodeSettings.Proofs.FlagPositions

namespace NodeSettings.CommandLine

open NodeSettings.Text

set_option autoImplicit false

/-- Arguments after which the next one stands in flag position. -/
inductive Settled : List Argument → Prop where
  | nil : Settled []
  | bare {arg value : Argument} {rest : List Argument} (bare : Bare arg)
      (onward : Settled rest) : Settled (arg :: value :: rest)
  | other {arg : Argument} {rest : List Argument} (noEnd : arg ≠ terminator)
      (noBare : ¬ Bare arg) (onward : Settled rest) : Settled (arg :: rest)

theorem foldl_next_operand (before : List Argument) :
    before.foldl Expected.next .operand = .operand := by
  induction before with
  | nil => rfl
  | cons arg rest ih => exact ih

theorem Settled.foldl {before : List Argument} (stands : Settled before) :
    before.foldl Expected.next .flag = .flag := by
  induction stands with
  | nil => rfl
  | bare bare onward ih =>
      rw [List.foldl_cons, Expected.next, expectedAfter_eq_value.mpr bare]
      exact ih
  | other noEnd noBare onward ih =>
      rwa [List.foldl_cons, Expected.next, expectedAfter_other noEnd noBare]

theorem settled_of_foldl (before : List Argument) :
    (before.foldl Expected.next .flag = .flag → Settled before) ∧
      (before.foldl Expected.next .value = .flag →
        ∀ arg, Bare arg → Settled (arg :: before)) := by
  induction before with
  | nil =>
      refine ⟨fun _ => .nil, ?_⟩
      intro calm
      cases calm
  | cons first rest ih =>
      refine ⟨?_, fun calm arg bare => .bare bare (ih.1 calm)⟩
      intro calm
      rw [List.foldl_cons, Expected.next] at calm
      by_cases ends : first = terminator
      · rw [expectedAfter_eq_operand.mpr ends, foldl_next_operand] at calm
        cases calm
      · by_cases bare : Bare first
        · rw [expectedAfter_eq_value.mpr bare] at calm
          exact ih.2 calm first bare
        · rw [expectedAfter_other ends bare] at calm
          exact .other ends bare (ih.1 calm)

/-- **What stands after such arguments stands in flag position**, and nothing else does. -/
theorem settled_iff_flagPosition {name : Argument} (noEnd : name ≠ terminator)
    (noBare : ¬ Bare name) (before after : List Argument) :
    Settled before ↔ FlagPosition (name :: (before ++ after)) (before.length + 1) := by
  have within : before.length + 1 ≤ (name :: (before ++ after)).length := by simp
  have expected : expectedAt (name :: (before ++ after)) (before.length + 1) =
      before.foldl Expected.next .flag := by
    rw [expectedAt, List.take_succ_cons, List.take_left, List.foldl_cons, Expected.next,
      expectedAfter_other noEnd noBare]
  rw [flagPosition_iff within, expected]
  exact ⟨Settled.foldl, (settled_of_foldl before).1⟩

/-! ## Reading up to a flag position -/

/-- What a flag makes of what is known so far is refused, or leads on. -/
theorem resolveFrom_flag_cases {path : Option Bytes} {pending : Pending} {arg : Argument}
    (settled : pending ≠ .bare) {value : Option Bytes} (flagged : token arg = .flag value) :
    (∃ stop, ∀ rest, resolveFrom path pending (arg :: rest) = .error stop) ∨
      ∃ path' pending', taken path pending value = .ok (path', pending') ∧
        ∀ rest, resolveFrom path pending (arg :: rest) = resolveFrom path' pending' rest := by
  cases known : taken path pending value with
  | error r =>
      refine .inl ⟨.rejected r, fun rest => ?_⟩
      rw [resolveFrom_flag settled flagged, known]
      rfl
  | ok after =>
      refine .inr ⟨after.1, after.2, rfl, fun rest => ?_⟩
      rw [resolveFrom_flag settled flagged, known]
      rfl

/-- **Arguments up to a flag position decide the outcome, or lead on to what is
known there**, whatever follows. -/
theorem resolveFrom_settled {before : List Argument} (stands : Settled before)
    {path : Option Bytes} {pending : Pending} (settled : pending ≠ .bare) :
    (∃ stop, ∀ rest,
        resolveFrom path pending (normalizeFrom .flag (before ++ rest)) = .error stop) ∨
      ∃ path' pending', pending' ≠ .bare ∧ ∀ rest,
        resolveFrom path pending (normalizeFrom .flag (before ++ rest)) =
          resolveFrom path' pending' (normalizeFrom .flag rest) := by
  induction stands generalizing path pending with
  | nil => exact .inr ⟨path, pending, settled, fun rest => rfl⟩
  | @bare arg value before isBare onward ih =>
      have spelt (rest : List Argument) : normalizeFrom .flag (arg :: value :: before ++ rest) =
          flag :: value :: normalizeFrom .flag (before ++ rest) :=
        normalizeFrom_bare isBare (value :: before ++ rest)
      rcases @resolveFrom_flag_cases path pending flag settled none rfl with
        ⟨stop, stops⟩ | ⟨path', pending', known, leads⟩
      · exact .inl ⟨stop, fun rest => by rw [spelt, stops]⟩
      · obtain rfl : pending' = .bare := by
          cases judged : judge path pending <;> simp [taken, judged, Except.map] at known
          exact known.2.symm
        have further (rest : List Argument) :
            resolveFrom path pending (normalizeFrom .flag (arg :: value :: before ++ rest)) =
              resolveFrom path' (.withValue value) (normalizeFrom .flag (before ++ rest)) := by
          rw [spelt, leads, resolveFrom_bare]
        simp only [further]
        exact ih (by simp)
  | @other arg before noEnd noBare onward ih =>
      have spelt (rest : List Argument) : normalizeFrom .flag (arg :: before ++ rest) =
          doubled arg :: normalizeFrom .flag (before ++ rest) :=
        normalizeFrom_other noEnd noBare (before ++ rest)
      rcases token_cases (doubled arg) with ends | ⟨value, flagged⟩ | ⟨noEnd', noFlag⟩
      · exact absurd (token_doubled_terminator.mp ends) noEnd
      · cases value with
        | none => exact absurd (token_doubled_bare.mp flagged) noBare
        | some value =>
            rcases @resolveFrom_flag_cases path pending _ settled _ flagged with
              ⟨stop, stops⟩ | ⟨path', pending', known, leads⟩
            · exact .inl ⟨stop, fun rest => by rw [spelt, stops]⟩
            · have calm : pending' ≠ .bare := by
                cases judged : (judge path pending).bind (giveValue · value) <;>
                  simp [taken, judged, Except.map] at known
                simp [← known.2]
              simp only [spelt, leads]
              exact ih calm
      · obtain ⟨stop, stops⟩ := @resolveFrom_other path pending _ settled noEnd' noFlag
        exact .inl ⟨stop, fun rest => by rw [spelt, stops]⟩

/-- Whether arguments up to a flag position decide the outcome by themselves. -/
def Decided (name : Argument) (before : List Argument) : Prop :=
  ∃ stop, ∀ rest, resolve (name :: (before ++ rest)) = .error stop

theorem resolve_settled {name : Argument} (noEnd : name ≠ terminator) (noBare : ¬ Bare name)
    {before : List Argument} (stands : Settled before) :
    Decided name before ∨
      ∃ path pending, pending ≠ Pending.bare ∧ ∀ rest, resolve (name :: (before ++ rest)) =
        (resolveFrom path pending (normalizeFrom .flag rest)).map
          fun path => path.getD (Utf8.encode defaultPath) := by
  have named (rest : List Argument) : (normalize (name :: (before ++ rest))).tail =
      normalizeFrom .flag (before ++ rest) := by
    rw [normalize, normalizeFrom_other noEnd noBare]
    rfl
  rcases @resolveFrom_settled before stands none .nothing (by simp) with
    ⟨stop, stops⟩ | ⟨path, pending, calm, leads⟩
  · refine .inl ⟨stop, fun rest => ?_⟩
    rw [resolve, named, stops]
    rfl
  · refine .inr ⟨path, pending, calm, fun rest => ?_⟩
    rw [resolve, named, leads]

/-! ## The two spellings -/

/-- The letters after one dash are read as flags of their own. -/
def strayLetter : Stop :=
  .rejected (.unexpected "-c")

theorem token_shortFlagEquals (value : Bytes) :
    token (shortFlagEquals ++ value) = .wrong (.unexpected "-c") := by
  rfl

theorem spells_shortFlagEquals {value : Bytes} :
    Utf8.Spells (shortFlagEquals ++ value) ↔ Utf8.Spells value := by
  constructor
  · exact Utf8.Spells.after_ascii (by decide)
  · exact Utf8.Spells.append (Utf8.spells_encode "-config=")

/-- The bare flag is put right whatever follows it. -/
theorem normalizeFrom_shortFlag (after : List Argument) :
    normalizeFrom .flag (shortFlag :: after) = normalizeFrom .flag (flag :: after) := by
  rw [normalizeFrom_bare (.inl rfl), normalizeFrom_bare (.inr rfl)]

/-- With a value that is text, so is a flag that carries it. -/
theorem normalizeFrom_text {value : Bytes} (text : Utf8.Spells value) (after : List Argument) :
    normalizeFrom .flag ((shortFlagEquals ++ value) :: after) =
      normalizeFrom .flag ((flagEquals ++ value) :: after) := by
  have short : token (doubled (shortFlagEquals ++ value)) = .flag (some value) :=
    token_doubled_valued.mpr (.inr ⟨rfl, spells_shortFlagEquals.mpr text⟩)
  have long : token (doubled (flagEquals ++ value)) = .flag (some value) :=
    token_doubled_valued.mpr (.inl rfl)
  rw [normalizeFrom_valued short, normalizeFrom_valued long, token_eq_valued.mp short,
    token_eq_valued.mp long]

/-- With any other value the single dash stays, and stops the reading. -/
theorem resolveFrom_noText {path : Option Bytes} {pending : Pending} (settled : pending ≠ .bare)
    {value : Bytes} (noText : ¬ Utf8.Spells value) (after : List Argument) :
    resolveFrom path pending (normalizeFrom .flag ((shortFlagEquals ++ value) :: after)) =
      .error strayLetter := by
  have stays : doubled (shortFlagEquals ++ value) = shortFlagEquals ++ value := by
    rcases doubled_cases (shortFlagEquals ++ value) with
      ⟨⟨⟩, -⟩ | ⟨carried, -, text, -⟩ | ⟨-, -, same⟩
    · exact absurd (spells_shortFlagEquals.mp text) noText
    · exact same
  rw [normalizeFrom, stays]
  exact resolveFrom_wrong settled (token_shortFlagEquals value) _

/-- **A flag in flag position may be spelled with one dash as with two**, if it is
bare or its value is text.  One whose value is no text may be if and only if the
arguments before it are refused by themselves, or the arguments are refused for
that letter with two dashes as well. -/
theorem resolve_dashes_iff {name : Argument} (noEnd : name ≠ terminator) (noBare : ¬ Bare name)
    {before : List Argument} (stands : Settled before) (after : List Argument) :
    resolve (name :: (before ++ shortFlag :: after)) =
        resolve (name :: (before ++ flag :: after)) ∧
      ∀ value,
        resolve (name :: (before ++ (shortFlagEquals ++ value) :: after)) =
            resolve (name :: (before ++ (flagEquals ++ value) :: after)) ↔
          Utf8.Spells value ∨ Decided name before ∨
            resolve (name :: (before ++ (flagEquals ++ value) :: after)) = .error strayLetter := by
  rcases resolve_settled noEnd noBare stands with decided | ⟨path, pending, calm, leads⟩
  · obtain ⟨stop, stops⟩ := decided
    refine ⟨by rw [stops, stops], fun value => ?_⟩
    simp only [stops, true_iff]
    exact .inr (.inl ⟨stop, stops⟩)
  · refine ⟨by rw [leads, leads, normalizeFrom_shortFlag], fun value => ?_⟩
    by_cases text : Utf8.Spells value
    · simp only [leads, normalizeFrom_text text, text, true_or]
    · have strays : resolve (name :: (before ++ (shortFlagEquals ++ value) :: after)) =
          .error strayLetter := by
        rw [leads, resolveFrom_noText calm text]
        rfl
      constructor
      · intro same
        exact .inr (.inr (same.symm.trans strays))
      · rintro (given | ⟨stop, stops⟩ | same)
        · exact absurd given text
        · rw [stops, stops]
        · exact strays.trans same.symm

/-- After a flag whose value is a terminator the bare flag may have one dash; and right
after the name so may a flag that carries text, but not one that carries a stray byte. -/
theorem resolve_dashes_iff_after_value :
    (programName ≠ terminator ∧ ¬ Bare programName ∧ Settled [flag, terminator]) ∧
      resolve [programName, flag, terminator, shortFlag] =
        resolve [programName, flag, terminator, flag] ∧
      (resolve [programName, shortFlagEquals ++ Utf8.encode "é"] = .ok (Utf8.encode "é") ∧
        resolve [programName, flagEquals ++ Utf8.encode "é"] = .ok (Utf8.encode "é")) ∧
      ¬ (Utf8.Spells [0xFF] ∨ Decided programName [] ∨
        resolve [programName, flagEquals ++ [0xFF]] = .error strayLetter) := by
  have noEnd : programName ≠ terminator := by decide
  have noBare : ¬ Bare programName := by
    rintro (same | same)
    · exact absurd same (by decide)
    · exact absurd same (by decide)
  have stands : Settled [flag, terminator] :=
    (settled_iff_flagPosition noEnd noBare _ []).mpr ((flagPosition_iff (by decide)).mpr rfl)
  have carried := (resolve_dashes_iff noEnd noBare .nil []).2
  have long : resolve [programName, flagEquals ++ Utf8.encode "é"] = .ok (Utf8.encode "é") := rfl
  refine ⟨⟨noEnd, noBare, stands⟩, (resolve_dashes_iff noEnd noBare stands []).1, ⟨?_, long⟩, ?_⟩
  · exact ((carried _).mpr (.inl (Utf8.spells_encode "é"))).trans long
  · intro alike
    have short : resolve [programName, shortFlagEquals ++ [0xFF]] = .error strayLetter := rfl
    have same := short.symm.trans ((carried [0xFF]).mpr alike)
    cases same

/-- Two dashes take a path that is no text.  With one dash it is refused. -/
theorem single_dash_refused :
    resolve [programName, flagEquals ++ [0xFF]] = .ok [0xFF] ∧
      resolve [programName, shortFlagEquals ++ [0xFF]] = .error strayLetter :=
  ⟨rfl, rfl⟩

end NodeSettings.CommandLine
