/-
# NodeSettings.Proofs.Arguments -- the command lines that ask for a path

An argument in flag position is known by what it is spelled as: the terminator,
a bare flag, a flag with its value, or something that ends the reading
(`token_eq_terminator`, `token_eq_bare`, `token_eq_valued`).  Putting the single
dash right keeps these apart (`doubled_eq_terminator`, `doubled_eq_flag`,
`doubled_eq_valued`).

A path is taken once, so after a flag with its value nothing but a terminator
may follow (`resolveFrom_given`).  That leaves the command lines of `AsksFor`: no
argument, or one flag in one of its four spellings, and perhaps a terminator at
the end.  They resolve to the path they hold, byte for byte, and no other command
line resolves to one (`resolve_iff_asksFor`).
-/
import NodeSettings.Program
import NodeSettings.Proofs.Utf8

namespace NodeSettings.CommandLine

open NodeSettings.Text

set_option autoImplicit false

/-- What a flag that carries its value begins with. -/
def flagEquals : Argument :=
  ascii '-' :: shortFlagEquals

/-- A flag whose value is the next argument. -/
def Bare (arg : Argument) : Prop :=
  arg = flag ∨ arg = shortFlag

/-! ## What an argument is -/

theorem cutAtEquals_append {name : Bytes} (noEquals : ascii '=' ∉ name) (value : Bytes) :
    cutAtEquals (name ++ ascii '=' :: value) = (name, some value) := by
  induction name with
  | nil => simp [cutAtEquals]
  | cons b rest ih =>
      rw [List.mem_cons, not_or] at noEquals
      rw [List.cons_append, cutAtEquals, if_neg (Ne.symm noEquals.1), ih noEquals.2]

/-- The two parts are put together again by an equals sign, if there was one. -/
theorem eq_of_cutAtEquals {body name : Bytes} {value : Option Bytes}
    (cut : cutAtEquals body = (name, value)) : body = name ++ value.elim [] (ascii '=' :: ·) := by
  induction body generalizing name with
  | nil =>
      cases cut
      rfl
  | cons b rest ih =>
      rw [cutAtEquals] at cut
      split at cut
      · rename_i equals
        cases cut
        rw [equals]
        rfl
      · rcases inner : cutAtEquals rest with ⟨front, after⟩
        rw [inner] at cut
        cases cut
        rw [List.cons_append, ← ih inner]

theorem longToken_eq_flag {body : Bytes} {value : Option Bytes} :
    longToken body = .flag value ↔ cutAtEquals body = (Utf8.encode "config", value) := by
  rcases cut : cutAtEquals body with ⟨name, after⟩
  simp only [longToken, cut]
  split
  · rename_i config
    simp [config]
  · rename_i other
    constructor
    · intro same
      repeat' split at same
      all_goals cases same
    · intro same
      cases same
      exact absurd rfl other

theorem longToken_ne_terminator (body : Bytes) : longToken body ≠ .terminator := by
  rcases cut : cutAtEquals body with ⟨name, after⟩
  intro same
  simp only [longToken, cut] at same
  repeat' split at same
  all_goals cases same

/-- One dash begins neither a flag with a path nor a terminator. -/
theorem lettersToken_other (body : Bytes) :
    lettersToken body ≠ .terminator ∧ ∀ value, lettersToken body ≠ .flag value := by
  unfold lettersToken
  split <;> simp

theorem token_eq_terminator {arg : Argument} : token arg = .terminator ↔ arg = terminator := by
  constructor
  · intro same
    unfold token at same
    split at same
    · assumption
    · repeat' split at same
      · cases same
      · exact absurd same (longToken_ne_terminator _)
      · exact absurd same (lettersToken_other _).1
      · cases same
  · rintro rfl
    rfl

theorem token_eq_flag {arg : Argument} {value : Option Bytes} :
    token arg = .flag value ↔
      ∃ body, arg = ascii '-' :: ascii '-' :: body ∧
        cutAtEquals body = (Utf8.encode "config", value) := by
  constructor
  · intro same
    unfold token at same
    split at same
    · cases same
    · split at same
      · rename_i first second body outer
        repeat' split at same
        · cases same
        · rename_i firstDash secondDash
          refine ⟨body, ?_, longToken_eq_flag.mp same⟩
          rw [secondDash, Decidable.not_not.mp firstDash]
        · exact absurd same ((lettersToken_other _).2 value)
      · cases same
  · rintro ⟨body, rfl, cut⟩
    have long : ascii '-' :: ascii '-' :: body ≠ terminator := by
      intro same
      have spelt : terminator = [ascii '-', ascii '-'] := rfl
      rw [spelt, List.cons.injEq, List.cons.injEq] at same
      rw [same.2.2] at cut
      cases cut
    rw [token, if_neg long]
    simpa using longToken_eq_flag.mpr cut

theorem token_eq_bare {arg : Argument} : token arg = .flag none ↔ arg = flag := by
  rw [token_eq_flag]
  constructor
  · rintro ⟨body, rfl, cut⟩
    rw [eq_of_cutAtEquals cut]
    rfl
  · rintro rfl
    exact ⟨Utf8.encode "config", rfl, rfl⟩

theorem token_eq_valued {arg : Argument} {value : Bytes} :
    token arg = .flag (some value) ↔ arg = flagEquals ++ value := by
  rw [token_eq_flag]
  constructor
  · rintro ⟨body, rfl, cut⟩
    rw [eq_of_cutAtEquals cut]
    rfl
  · rintro rfl
    exact ⟨_, rfl, @cutAtEquals_append (Utf8.encode "config") (by decide) value⟩

/-! ## Putting the single dash right -/

theorem isPrefixOf_shortFlagEquals {arg : Argument} :
    shortFlagEquals.isPrefixOf arg = true ↔ ∃ value, arg = shortFlagEquals ++ value := by
  rw [List.isPrefixOf_iff_prefix]
  exact exists_congr fun value => eq_comm

/-- A dash is put before the two spellings that lack it, and nothing else is
changed. -/
theorem doubled_cases (arg : Argument) :
    arg = shortFlag ∧ doubled arg = flag ∨
      (∃ value, arg = shortFlagEquals ++ value ∧ Utf8.Spells arg ∧
        doubled arg = flagEquals ++ value) ∨
      arg ≠ shortFlag ∧ (∀ value, arg = shortFlagEquals ++ value → ¬ Utf8.Spells arg) ∧
        doubled arg = arg := by
  unfold doubled
  split
  · rename_i short
    exact .inl ⟨short, rfl⟩
  · rename_i long
    split
    · rename_i carries
      obtain ⟨value, rfl⟩ := isPrefixOf_shortFlagEquals.mp carries.1
      exact .inr (.inl ⟨value, rfl, Utf8.isSome_decode?.mp carries.2, rfl⟩)
    · rename_i plain
      refine .inr (.inr ⟨long, ?_, rfl⟩)
      intro value shape text
      exact plain ⟨isPrefixOf_shortFlagEquals.mpr ⟨value, shape⟩, Utf8.isSome_decode?.mpr text⟩

section Doubled

variable {arg : Argument}

theorem token_doubled_terminator : token (doubled arg) = .terminator ↔ arg = terminator := by
  rcases doubled_cases arg with ⟨rfl, same⟩ | ⟨value, rfl, -, same⟩ | ⟨-, -, same⟩
  · rw [same, token_eq_terminator]
    decide
  · rw [same, token_eq_valued.mpr rfl]
    constructor
    · rintro ⟨⟩
    · rintro ⟨⟩
  · rw [same, token_eq_terminator]

theorem token_doubled_bare : token (doubled arg) = .flag none ↔ Bare arg := by
  rcases doubled_cases arg with ⟨rfl, same⟩ | ⟨value, rfl, -, same⟩ | ⟨long, -, same⟩
  · simp [same, token_eq_bare, Bare]
  · rw [same, token_eq_valued.mpr rfl]
    constructor
    · rintro ⟨⟩
    · rintro (⟨⟨⟩⟩ | ⟨⟨⟩⟩)
  · simp [same, token_eq_bare, Bare, long]

theorem token_doubled_valued {value : Bytes} :
    token (doubled arg) = .flag (some value) ↔
      arg = flagEquals ++ value ∨ arg = shortFlagEquals ++ value ∧ Utf8.Spells arg := by
  rcases doubled_cases arg with ⟨rfl, same⟩ | ⟨carried, rfl, text, same⟩ | ⟨-, noText, same⟩
  · rw [same, token_eq_valued]
    constructor
    · rintro ⟨⟩
    · rintro (⟨⟨⟩⟩ | ⟨⟨⟩, -⟩)
  · rw [same, token_eq_valued, List.append_cancel_left_eq, List.append_cancel_left_eq]
    constructor
    · rintro rfl
      exact .inr ⟨rfl, text⟩
    · rintro (⟨⟨⟩⟩ | ⟨rfl, -⟩)
      rfl
  · rw [same, token_eq_valued]
    constructor
    · exact .inl
    · rintro (joined | ⟨short, text⟩)
      · exact joined
      · exact absurd text (noText value short)

end Doubled

/-! ## Reading one argument -/

/-- What a flag makes of the path and the bare flag so far. -/
def taken (path : Option Bytes) (pending : Pending) :
    Option Bytes → Except Rejection (Option Bytes × Pending)
  | none => (judge path pending).map (·, .bare)
  | some value => ((judge path pending).bind (giveValue · value)).map (·, .nothing)

section Reading

variable {path : Option Bytes} {pending : Pending} {arg : Argument}

theorem resolveFrom_bare (path : Option Bytes) (value : Argument) (rest : List Argument) :
    resolveFrom path .bare (value :: rest) = resolveFrom path (.withValue value) rest :=
  rfl

variable (settled : pending ≠ .bare)

include settled

theorem resolveFrom_terminator (ends : token arg = .terminator) :
    resolveFrom path pending [arg] = resolveFrom path pending [] := by
  cases pending with
  | bare => exact absurd rfl settled
  | nothing | withValue value => simp only [resolveFrom, ends]

theorem resolveFrom_operand (ends : token arg = .terminator) (operand : Argument)
    (rest : List Argument) :
    resolveFrom path pending (arg :: operand :: rest) =
      .error (.rejected (.unexpected (Utf8.lossy operand))) := by
  cases pending with
  | bare => exact absurd rfl settled
  | nothing | withValue value => simp only [resolveFrom, ends]

theorem resolveFrom_flag {value : Option Bytes} (flagged : token arg = .flag value)
    (rest : List Argument) :
    resolveFrom path pending (arg :: rest) =
      ((taken path pending value).mapError .rejected).bind fun known =>
        resolveFrom known.1 known.2 rest := by
  cases pending with
  | bare => exact absurd rfl settled
  | nothing | withValue held =>
      cases value with
      | none =>
          simp only [resolveFrom, flagged, taken]
          cases judge path _ <;> rfl
      | some value =>
          simp only [resolveFrom, flagged, taken]
          cases (judge path _).bind (giveValue · value) <;> rfl

theorem resolveFrom_wrong {r : Rejection} (refused : token arg = .wrong r)
    (rest : List Argument) : resolveFrom path pending (arg :: rest) = .error (.rejected r) := by
  cases pending with
  | bare => exact absurd rfl settled
  | nothing | withValue value => simp only [resolveFrom, refused]

/-- Any other argument ends the reading, whatever follows. -/
theorem resolveFrom_other (noEnd : token arg ≠ .terminator)
    (noFlag : ∀ value, token arg ≠ .flag value) :
    ∃ stop, ∀ rest, resolveFrom path pending (arg :: rest) = .error stop := by
  cases known : token arg with
  | terminator => exact absurd known noEnd
  | flag value => exact absurd known (noFlag value)
  | wrong r => exact ⟨.rejected r, resolveFrom_wrong settled known⟩
  | help =>
      refine ⟨stopAfter path pending .help, fun rest => ?_⟩
      cases pending with
      | bare => exact absurd rfl settled
      | nothing | withValue value => simp only [resolveFrom, known]
  | version =>
      refine ⟨stopAfter path pending .version, fun rest => ?_⟩
      cases pending with
      | bare => exact absurd rfl settled
      | nothing | withValue value => simp only [resolveFrom, known]

end Reading

/-! ## Reading to the end -/

theorem token_cases (arg : Argument) :
    token arg = .terminator ∨ (∃ value, token arg = .flag value) ∨
      token arg ≠ .terminator ∧ ∀ value, token arg ≠ .flag value := by
  cases token arg <;> simp

section Ending

variable {path : Option Bytes} {pending : Pending} (settled : pending ≠ .bare)

include settled

/-- What cannot be judged is never made good. -/
theorem resolveFrom_unjudged {r : Rejection} (failed : judge path pending = .error r)
    (args : List Argument) : ∃ stop, resolveFrom path pending args = .error stop := by
  have ending : resolveFrom path pending [] = .error (.rejected r) := by
    rw [resolveFrom, failed]
    rfl
  cases args with
  | nil => exact ⟨_, ending⟩
  | cons arg rest =>
      rcases token_cases arg with ends | ⟨value, flagged⟩ | ⟨noEnd, noFlag⟩
      · cases rest with
        | nil => exact ⟨_, (resolveFrom_terminator settled ends).trans ending⟩
        | cons operand rest => exact ⟨_, resolveFrom_operand settled ends operand rest⟩
      · refine ⟨.rejected r, ?_⟩
        rw [resolveFrom_flag settled flagged]
        cases value <;> simp only [taken, failed] <;> rfl
      · obtain ⟨stop, stops⟩ := resolveFrom_other settled noEnd noFlag
        exact ⟨stop, stops rest⟩

/-- Once a path is given, nothing but a terminator may follow. -/
theorem resolveFrom_given {value : Bytes} (judged : judge path pending = .ok (some value))
    (args : List Argument) (result : Option Bytes) :
    resolveFrom path pending args = .ok result ↔
      (args = [] ∨ args = [terminator]) ∧ result = some value := by
  have ending : resolveFrom path pending [] = .ok (some value) := by
    rw [resolveFrom, judged]
    rfl
  have never {stop : Stop} (stops : resolveFrom path pending args = .error stop)
      (other : args ≠ [] ∧ args ≠ [terminator]) :
      resolveFrom path pending args = .ok result ↔
        (args = [] ∨ args = [terminator]) ∧ result = some value := by
    simp [stops, other]
  cases args with
  | nil => simp [ending, eq_comm]
  | cons arg rest =>
      rcases token_cases arg with ends | ⟨given, flagged⟩ | ⟨noEnd, noFlag⟩
      · obtain rfl := token_eq_terminator.mp ends
        cases rest with
        | nil => simp [resolveFrom_terminator settled ends, ending, eq_comm]
        | cons operand rest =>
            exact never (resolveFrom_operand settled ends operand rest) (by simp)
      · have other : arg :: rest ≠ [] ∧ arg :: rest ≠ [terminator] := by
          refine ⟨List.cons_ne_nil arg rest, ?_⟩
          rintro ⟨rfl⟩
          cases flagged
        have reads := @resolveFrom_flag path pending arg settled given flagged rest
        cases given with
        | some again =>
            -- The path is given already, so the value is refused.
            exact @never (.rejected .repeatedFlag) (by rw [reads, taken, judged]; rfl) other
        | none =>
            rw [taken, judged] at reads
            cases rest with
            | nil => exact @never (.rejected .missingValue) (by rw [reads]; rfl) other
            | cons again rest =>
                obtain ⟨stop, stops⟩ := @resolveFrom_unjudged (some value) (.withValue again)
                  (by simp) .repeatedFlag rfl rest
                exact never (reads.trans stops) other
      · obtain ⟨stop, stops⟩ := resolveFrom_other settled noEnd noFlag
        refine never (stops rest) ⟨List.cons_ne_nil arg rest, ?_⟩
        rintro ⟨rfl⟩
        exact noEnd rfl

end Ending

/-! ## Command lines -/

/-- Nothing, or a terminator that nothing follows. -/
def Closes (args : List Argument) : Prop :=
  args = [] ∨ args = [terminator]

/-- The command lines that ask for a path: those without a flag for the default
one, those with one flag for the path it carries or the path that follows it. -/
inductive AsksFor : List Argument → Bytes → Prop where
  | default {closing : List Argument} (closes : Closes closing) :
      AsksFor closing (Utf8.encode defaultPath)
  | apart {arg : Argument} {path : Bytes} {closing : List Argument} (bare : Bare arg)
      (given : path ≠ []) (closes : Closes closing) : AsksFor (arg :: path :: closing) path
  | joined {path : Bytes} {closing : List Argument} (given : path ≠ []) (closes : Closes closing) :
      AsksFor ((flagEquals ++ path) :: closing) path
  | shortJoined {path : Bytes} {closing : List Argument} (given : path ≠ [])
      (text : Utf8.Spells (shortFlagEquals ++ path)) (closes : Closes closing) :
      AsksFor ((shortFlagEquals ++ path) :: closing) path

theorem normalizeFrom_eq_nil {expected : Expected} {args : List Argument} :
    normalizeFrom expected args = [] ↔ args = [] := by
  cases args <;> cases expected <;> simp [normalizeFrom]

theorem closes_normalizeFrom {args : List Argument} :
    Closes (normalizeFrom .flag args) ↔ Closes args := by
  cases args with
  | nil => rfl
  | cons arg rest =>
      simp only [Closes, normalizeFrom, List.cons_ne_nil, List.cons.injEq, false_or,
        normalizeFrom_eq_nil]
      rw [← token_eq_terminator, token_doubled_terminator]

theorem expectedAfter_other {arg : Argument} (noEnd : arg ≠ terminator) (noBare : ¬ Bare arg) :
    expectedAfter arg = .flag := by
  rw [expectedAfter, if_neg noEnd]
  exact if_neg noBare

theorem normalizeFrom_other {arg : Argument} (noEnd : arg ≠ terminator) (noBare : ¬ Bare arg)
    (rest : List Argument) :
    normalizeFrom .flag (arg :: rest) = doubled arg :: normalizeFrom .flag rest := by
  rw [normalizeFrom, expectedAfter_other noEnd noBare]

theorem normalizeFrom_bare {arg : Argument} (bare : Bare arg) (rest : List Argument) :
    normalizeFrom .flag (arg :: rest) = flag :: normalizeFrom .value rest := by
  rcases bare with rfl | rfl <;> rfl

/-- A flag that carries its value is no bare one, nor a terminator. -/
theorem normalizeFrom_valued {arg : Argument} {value : Bytes}
    (valued : token (doubled arg) = .flag (some value)) (rest : List Argument) :
    normalizeFrom .flag (arg :: rest) = doubled arg :: normalizeFrom .flag rest := by
  apply normalizeFrom_other
  · intro ends
    rw [token_doubled_terminator.mpr ends] at valued
    cases valued
  · intro bare
    rw [token_doubled_bare.mpr bare] at valued
    cases valued

theorem judge_withValue {value : Bytes} (given : value ≠ []) :
    judge none (.withValue value) = .ok (some value) := by
  simp [judge, giveValue, given]

/-- A first flag, with its value after it. -/
theorem resolveFrom_apart {arg : Argument} (bare : Bare arg) (value : Argument)
    (rest : List Argument) :
    resolveFrom none .nothing (normalizeFrom .flag (arg :: value :: rest)) =
      resolveFrom none (.withValue value) (normalizeFrom .flag rest) := by
  rw [normalizeFrom_bare bare]
  rfl

/-- A first flag that carries its value. -/
theorem resolveFrom_joined {arg : Argument} {value : Bytes}
    (valued : token (doubled arg) = .flag (some value)) (given : value ≠ [])
    (rest : List Argument) :
    resolveFrom none .nothing (normalizeFrom .flag (arg :: rest)) =
      resolveFrom (some value) .nothing (normalizeFrom .flag rest) := by
  have takes : taken none .nothing (some value) = .ok (some value, .nothing) := by
    simp [taken, judge, giveValue, given, Except.bind, Except.map]
  rw [normalizeFrom_valued valued, resolveFrom_flag (by simp) valued, takes]
  rfl

theorem resolveFrom_of_asksFor {args : List Argument} {path : Bytes} (asks : AsksFor args path) :
    ∃ result, resolveFrom none .nothing (normalizeFrom .flag args) = .ok result ∧
      result.getD (Utf8.encode defaultPath) = path := by
  cases asks with
  | default closes =>
      refine ⟨none, ?_, rfl⟩
      rcases closes with rfl | rfl <;> rfl
  | apart bare given closes =>
      refine ⟨some path, ?_, rfl⟩
      rw [resolveFrom_apart bare]
      exact (resolveFrom_given (by simp) (judge_withValue given) _ _).mpr
        ⟨closes_normalizeFrom.mpr closes, rfl⟩
  | joined given closes =>
      refine ⟨some path, ?_, rfl⟩
      rw [resolveFrom_joined (token_doubled_valued.mpr (.inl rfl)) given]
      exact (resolveFrom_given (by simp) rfl _ _).mpr ⟨closes_normalizeFrom.mpr closes, rfl⟩
  | shortJoined given text closes =>
      refine ⟨some path, ?_, rfl⟩
      rw [resolveFrom_joined (token_doubled_valued.mpr (.inr ⟨rfl, text⟩)) given]
      exact (resolveFrom_given (by simp) rfl _ _).mpr ⟨closes_normalizeFrom.mpr closes, rfl⟩

theorem asksFor_of_resolveFrom {args : List Argument} {result : Option Bytes}
    (resolves : resolveFrom none .nothing (normalizeFrom .flag args) = .ok result) :
    AsksFor args (result.getD (Utf8.encode defaultPath)) := by
  cases args with
  | nil =>
      cases resolves
      exact .default (.inl rfl)
  | cons arg rest =>
      rcases token_cases (doubled arg) with ends | ⟨value, flagged⟩ | ⟨noEnd, noFlag⟩
      · obtain rfl := token_doubled_terminator.mp ends
        cases rest with
        | nil =>
            cases resolves
            exact .default (.inr rfl)
        | cons operand rest => cases resolves
      · cases value with
        | none =>
            have bare := token_doubled_bare.mp flagged
            cases rest with
            | nil =>
                rw [normalizeFrom_bare bare] at resolves
                cases resolves
            | cons value rest =>
                rw [resolveFrom_apart bare] at resolves
                by_cases given : value = []
                · obtain ⟨stop, stops⟩ := @resolveFrom_unjudged none (.withValue value) (by simp)
                    .missingValue (by simp [judge, giveValue, given]) (normalizeFrom .flag rest)
                  rw [stops] at resolves
                  cases resolves
                · obtain ⟨closes, rfl⟩ :=
                    (resolveFrom_given (by simp) (judge_withValue given) _ _).mp resolves
                  exact .apart bare given (closes_normalizeFrom.mp closes)
        | some value =>
            by_cases given : value = []
            · rw [normalizeFrom_valued flagged, resolveFrom_flag (by simp) flagged, given]
                at resolves
              cases resolves
            · rw [resolveFrom_joined flagged given] at resolves
              obtain ⟨closes, rfl⟩ := (resolveFrom_given (by simp) rfl _ _).mp resolves
              have closes := closes_normalizeFrom.mp closes
              rcases token_doubled_valued.mp flagged with rfl | ⟨rfl, text⟩
              · exact .joined given closes
              · exact .shortJoined given text closes
      · obtain ⟨stop, stops⟩ := @resolveFrom_other none .nothing (doubled arg) (by simp) noEnd noFlag
        rw [normalizeFrom, stops] at resolves
        cases resolves

def programName : Argument :=
  Utf8.encode "node-config"

/-- **A command line resolves to a path exactly if it asks for it.**  Any other ends
in help, in the version or in a rejection, and nothing is loaded. -/
theorem resolve_iff_asksFor (args : List Argument) :
    (∀ path, resolve (programName :: args) = .ok path ↔ AsksFor args path) ∧
      ((∃ path, AsksFor args path) ∨ ∃ stop, resolve (programName :: args) = .error stop ∧
        ∀ disk logFilter,
          Program.run disk (programName :: args) logFilter = Program.stopped stop) := by
  have named : (normalize (programName :: args)).tail = normalizeFrom .flag args := rfl
  have known (path : Bytes) : resolve (programName :: args) = .ok path ↔ AsksFor args path := by
    rw [resolve, named]
    constructor
    · intro resolves
      cases reads : resolveFrom none .nothing (normalizeFrom .flag args) with
      | error stop =>
          rw [reads] at resolves
          cases resolves
      | ok result =>
          rw [reads] at resolves
          cases resolves
          exact asksFor_of_resolveFrom reads
    · intro asks
      obtain ⟨result, reads, rfl⟩ := resolveFrom_of_asksFor asks
      rw [reads]
      rfl
  refine ⟨known, ?_⟩
  cases ends : resolve (programName :: args) with
  | ok path => exact .inl ⟨path, (known path).mp ends⟩
  | error stop =>
      refine .inr ⟨stop, rfl, fun disk logFilter => ?_⟩
      rw [Program.run, ends]

/-- A path may be spelled as a terminator is, and be followed by one. -/
example : resolve [programName, shortFlag, terminator, terminator] = .ok terminator := by
  rfl

end NodeSettings.CommandLine
