/-
# NodeSettings.Proofs.NumberLiterals -- what a number literal comes to as a setting

What a literal comes to at a setting that wants an integer is decided by the integer
its figures denote (`Figures.integer?`), however many they are.  One of 64 bits with
sign becomes the setting, exactly.  One that is larger and still of 64 bits is a value
out of range, and every other literal a floating point number: either is a mismatch,
and the setting keeps its default.  A literal that is no floating point number in range
costs the whole document.  Which literals are in range is told by what they stand for
(`Figures.InRange`, `Figures.OutOfRange`); only next to the greatest magnitude is it left
to the digits that are collected and to the roundings.

All of this is told against the outcome without the literal, that of a source with the
same document but null in its place.  So whatever else the document gives or has wrong
stays as it is (`number_taken`).
-/
import NodeSettings.Proofs.NumberRange
import NodeSettings.Proofs.Repair
import NodeSettings.Proofs.Written.Writing

namespace NodeSettings

set_option autoImplicit false

/-! ## Settings that are numbers -/

/-- The number at a setting; zero at a setting that is none. -/
def Network.number (network : Network) : Setting → Int64
  | .maxPeers => network.maxPeers
  | .port => network.port
  | .scope | .topics => 0

def Network.withNumber (network : Network) (value : Int64) : Setting → Network
  | .maxPeers => { network with maxPeers := value }
  | .port => { network with port := value }
  | .scope | .topics => network

/-- A configuration with this number at a setting. -/
def Config.withNumber (config : Config) (s : Setting) (value : Int64) : Config :=
  { config with network := config.network.withNumber value s }

/-- An outcome that carries its configuration with this number at a setting. -/
def Outcome.withNumber (outcome : Outcome) (s : Setting) (value : Int64) : Outcome :=
  match outcome with
  | .ok config => .ok (config.withNumber s value)
  | .error (.decoding problem config) => .error (.decoding problem (config.withNumber s value))
  | .error (.opening path failure) => .error (.opening path failure)

/-! ## With and without a literal -/

/-- An outcome has one mismatch more than another, and the same configuration. -/
structure Outcome.Blames (outcome : Outcome) (m : Mismatch) (without : Outcome) : Prop where
  error : ∃ reported, outcome = .error (.decoding (.mistyped reported) without.config)
  /-- The mismatch is reported if it comes before what is reported without it. -/
  first : (∀ item, without.reported? = some item → m.item.Precedes item) →
    outcome = .error (.decoding (.mistyped m) without.config)
  later : ∀ item, without.reported? = some item → item.Precedes m.item → outcome = without

/-- A literal denotes no integer of 64 bits, with sign or without. -/
def Figures.Wide (f : Figures) : Prop :=
  ∀ n, f.integer? = some n → n < -9223372036854775808 ∨ 18446744073709551615 < n

/-- The document is lost to a number out of range. -/
def Outcome.Overflows (outcome : Outcome) : Prop :=
  ∃ place, outcome = .error (.decoding (.unreadable ⟨.malformed .numberRange, place⟩) {})

/-- A literal is a mismatch for being a floating point number. -/
def Outcome.BlamesFloat (outcome : Outcome) (s : Setting) (f : Figures) (without : Outcome) :
    Prop :=
  ∃ x m, f.number? = some (.float f.negative x) ∧ outcome.Blames m without ∧
    m.item = .setting s ∧
    m.text = "networkConfig." ++ s.key ++ ": invalid type: floating point `" ++
      Layout.compact.text f.negative x ++ "`, expected i64"

/-- What a literal comes to at a setting. -/
structure Outcome.Takes (outcome : Outcome) (s : Setting) (f : Figures) (without : Outcome) :
    Prop where
  /-- Nothing is given at the setting without the literal. -/
  zero : without.config.network.number s = 0
  within : ∀ n, f.integer? = some n → -9223372036854775808 ≤ n → n ≤ 9223372036854775807 →
    ∃ value : Int64, value.toInt = n ∧ outcome = without.withNumber s value
  above : ∀ n, f.integer? = some n → 9223372036854775808 ≤ n → n ≤ 18446744073709551615 →
    ∃ m, outcome.Blames m without ∧ m.item = .setting s ∧
      m.text = "networkConfig." ++ s.key ++ ": invalid value: integer `" ++ toString n ++
        "`, expected i64"
  /-- Whether a literal next to the greatest magnitude is in range is for its reader. -/
  wide : f.Wide → outcome.Overflows ∨ outcome.BlamesFloat s f without
  inRange : f.Wide → f.InRange → outcome.BlamesFloat s f without
  outOfRange : f.OutOfRange → outcome.Overflows
  /-- There is no error exactly if there is none without the literal and it fits. -/
  ok_iff : (∃ config, outcome = .ok config) ↔ (∃ config, without = .ok config) ∧
    ∃ n, f.integer? = some n ∧ -9223372036854775808 ≤ n ∧ n ≤ 9223372036854775807

namespace Source.Owes

variable {source other : Source} {m n : Mismatch} {rest others : List Mismatch} {config : Config}

/-- The mismatch comes first, and the other source owes those after it. -/
theorem blames_first (owes : source.Owes (m :: rest) config) (owes' : other.Owes rest config)
    (after : ∀ n ∈ rest, m.item.Precedes n.item) : (decode source).1.Blames m (decode other).1 := by
  have outcome : (decode source).1 =
      .error (.decoding (.mistyped m) (decode other).1.config) := by
    rw [owes.outcome_cons, owes'.config_eq]
  refine ⟨⟨m, outcome⟩, fun _ => outcome, ?_⟩
  intro item reported before
  rw [owes'.reported?] at reported
  obtain ⟨n, head, rfl⟩ := Option.map_eq_some_iff.mp reported
  have beyond := after n (List.mem_of_mem_head? head)
  exact absurd (before.trans beyond) (Item.Precedes.irrefl _)

/-- Another comes first, for both sources. -/
theorem blames_later (owes : source.Owes (n :: rest) config)
    (owes' : other.Owes (n :: others) config) (before : n.item.Precedes m.item) :
    (decode source).1.Blames m (decode other).1 := by
  have outcome : (decode source).1 = (decode other).1 := by
    rw [owes.outcome_cons, owes'.outcome_cons]
  refine ⟨⟨n, ?_⟩, ?_, fun _ _ _ => outcome⟩
  · rw [owes.outcome_cons, owes'.config_eq]
  · intro least
    have beyond := least n.item owes'.reported?
    exact absurd (before.trans beyond) (Item.Precedes.irrefl _)

/-- **A source that owes one mismatch more than another is blamed for it.** -/
theorem blames {ms : List Mismatch} (owes : source.Owes ms config)
    (sorted : ms.Pairwise fun a b => a.item.Precedes b.item) (member : m ∈ ms)
    (owes' : other.Owes (ms.filter fun n => decide (n.item ≠ m.item)) config) :
    (decode source).1.Blames m (decode other).1 := by
  cases ms with
  | nil => cases member
  | cons n rest =>
      obtain ⟨after, -⟩ := List.pairwise_cons.mp sorted
      rcases List.mem_cons.mp member with rfl | later
      · rw [Json.filter_tail sorted] at owes'
        exact owes.blames_first owes' after
      · have before := after m later
        have apart : n.item ≠ m.item := by
          intro same
          exact Item.Precedes.irrefl m.item (same ▸ before)
        rw [List.filter_cons_of_pos (by simpa using apart)] at owes'
        exact owes.blames_later owes' before

end Source.Owes

/-! ## What figures are read as -/

namespace Figures

variable {f : Figures}

/-- Figures that denote no integer of 64 bits are read as a floating point number, if at
all. -/
theorem number?_of_not_integer?
    (wide : f.Wide) : f.number? = none ∨ ∃ x, f.number? = some (.float f.negative x) := by
  have none : f.numeral.integer? = none := by
    apply Option.eq_none_iff_forall_ne_some.mpr
    intro n same
    obtain ⟨denotes, low, high⟩ := integer?_numeral.mp same
    have outside := wide n denotes
    omega
  rw [number?]
  split
  · exact .inl rfl
  · rw [Numeral.number?, none]
    cases f.numeral.magnitude? with
    | none => exact .inl rfl
    | some x => exact .inr ⟨x, rfl⟩

theorem integer64?_eq_none
    (wide : ∀ n, f.integer? = some n → n < -9223372036854775808 ∨ 9223372036854775807 < n) :
    f.integer64? = none := by
  apply Option.eq_none_iff_forall_ne_some.mpr
  intro n same
  obtain ⟨denotes, low, high⟩ := integer64?_eq_some.mp same
  have outside := wide n denotes
  omega

end Figures

/-! ## Trees with and without a number -/

namespace Json

variable {a b : Json} {s : Setting} {value : Int64}

theorem number_of_absent (absent : (b.setting? s).bind int64? = none) :
    b.config.network.number s = 0 := by
  rw [config_eq]
  cases s with
  | scope | topics => rfl
  | maxPeers | port =>
      rw [Network.number, absent]
      rfl

/-- `a` is `b` with a number at a setting that wants one. -/
structure Given (a b : Json) (s : Setting) (value : Int64) : Prop where
  wants : (Item.setting s).wanted = .integer
  given : (a.setting? s).bind int64? = some value
  absent : b.finding (.setting s) = some none
  others : ∀ item, item ≠ .setting s → b.finding item = a.finding item

/-- Null gives no number. -/
theorem int64?_of_finding (absent : b.finding (.setting s) = some none) :
    (b.setting? s).bind int64? = none := by
  obtain ⟨v, stands, none⟩ := Option.map_eq_some_iff.mp absent
  have there : b.setting? s = some v := stands
  obtain rfl := Found.of?_eq_none.mp none
  rw [there]
  rfl

namespace Given

variable (more : Given a b s value)

include more

theorem isSome (i : Nat) : (a.at? (.topic i)).isSome = (b.at? (.topic i)).isSome := by
  rw [isSome_at?, isSome_at?, more.others (.topic i) (by simp)]

/-- **Only the one number is different.** -/
theorem config : a.config = b.config.withNumber s value := by
  have others {t : Setting} (apart : t ≠ s) : a.given (.setting t) = b.given (.setting t) :=
    given_congr (more.others (.setting t) (by simpa using apart)).symm
  have topics (i : Nat) : a.given (.topic i) = b.given (.topic i) :=
    given_congr (more.others (.topic i) (by simp)).symm
  have listed (apart : Setting.topics ≠ s) :=
    topics_congr (others apart) (topicCount_congr more.isSome) fun i => by rw [topics]
  rw [config_eq a, config_eq b]
  obtain ⟨wants, given, -, -⟩ := more
  cases s with
  | scope | topics => cases wants
  | maxPeers =>
      rw [setting_congr (others (by decide)) text?_eq, listed (by decide), given,
        setting_congr (@others .port (by decide)) int64?_eq]
      rfl
  | port =>
      rw [setting_congr (others (by decide)) text?_eq, listed (by decide), given,
        setting_congr (@others .maxPeers (by decide)) int64?_eq]
      rfl

/-- **Nothing else is wrong.** -/
theorem mismatches : a.mismatches = b.mismatches := by
  apply mismatches_of_unfit more.isSome
  intro item
  by_cases same : item = .setting s
  · subst same
    obtain ⟨v, stands, known⟩ := Option.bind_eq_some_iff.mp more.given
    cases v with
    | number n =>
        have there : a.at? (.setting s) = some (.number n) := stands
        have suits : Found.suits (Item.setting s).wanted (.number n) = true := by
          rw [more.wants]
          exact Option.isSome_of_eq_some known
        have found : a.finding (.setting s) = some (some (.number n)) := by
          rw [finding, there]
          rfl
        rw [more.absent, found]
        simp [Option.filter, suits]
    | _ => cases known
  · rw [more.others item same]

theorem outcome : outcomeOf (.ok a) = (outcomeOf (.ok b)).withNumber s value := by
  rw [outcomeOf_document, outcomeOf_document, more.mismatches, more.config]
  cases b.mismatches.head? <;> rfl

end Given

end Json

/-! ## Messages -/

namespace Mismatch

variable {s : Setting}

theorem text_of_setting (s : Setting) (found : Found) : text ⟨.setting s, found⟩ =
    "networkConfig." ++ s.key ++ (": " ++ (complaint ⟨.setting s, found⟩ ++ (": " ++
      (found.text .compact ++ (", expected " ++ (Item.setting s).wanted.text))))) := by
  have lead : (Item.setting s).lead = "networkConfig." ++ s.key ++ ": " := by
    cases s <;> rfl
  rw [text_of_lead, what_eq, lead]
  simp only [String.append_assoc]
  rfl

variable (wants : (Item.setting s).wanted = .integer)

include wants

theorem text_integer (n : Int) : text ⟨.setting s, .number (.integer n)⟩ =
    "networkConfig." ++ s.key ++ ": invalid value: integer `" ++ toString n ++
      "`, expected i64" := by
  have complaint : complaint ⟨.setting s, .number (.integer n)⟩ = "invalid value" := by
    rw [complaint, wants]
  have found : Found.text .compact (.number (.integer n)) = "integer `" ++ toString n ++ "`" :=
    rfl
  have before : ": invalid value: integer `" = ": " ++ "invalid value" ++ ": " ++ "integer `" :=
    rfl
  have after : "`, expected i64" = "`" ++ ", expected " ++ Wanted.integer.text := rfl
  rw [text_of_setting, complaint, found, wants, before, after]
  simp only [String.append_assoc]

theorem text_float (negative : Bool) (x : Binary64) :
    text ⟨.setting s, .number (.float negative x)⟩ =
      "networkConfig." ++ s.key ++ ": invalid type: floating point `" ++
        Layout.compact.text negative x ++ "`, expected i64" := by
  have complaint : complaint ⟨.setting s, .number (.float negative x)⟩ = "invalid type" := by
    rw [complaint, wants]
  have found : Found.text .compact (.number (.float negative x)) =
      "floating point `" ++ Layout.compact.text negative x ++ "`" :=
    rfl
  have before : ": invalid type: floating point `" =
      ": " ++ "invalid type" ++ ": " ++ "floating point `" :=
    rfl
  have after : "`, expected i64" = "`" ++ ", expected " ++ Wanted.integer.text := rfl
  rw [text_of_setting, complaint, found, wants, before, after]
  simp only [String.append_assoc]

end Mismatch

/-! ## Documents with and without a number -/

theorem Document.closed_of_setting {doc value : Document} {s : Setting}
    (stands : doc.setting? s = some value) : doc.Closed := by
  rintro f rfl
  cases stands

/-- The tree of a document has the number of a literal where the literal stands. -/
theorem Document.setting?_number {doc : Document} {root : Json} (read : doc.ReadAs .root 0 root)
    {s : Setting} {f : Figures} (stands : doc.setting? s = some (.number f)) {n : Number}
    (known : f.number? = some n) : root.setting? s = some (.number n) := by
  have rel := setting?_rel read s
  rw [stands] at rel
  generalize root.setting? s = there at rel
  cases rel with
  | some read =>
      obtain ⟨m, same, rfl⟩ := (readAs_number rfl).mp read
      rw [known] at same
      cases same
      rfl

/-- A literal is of the wrong kind if it does not fit. -/
theorem Document.mistyped_number {doc : Document} {s : Setting} {f : Figures}
    (wants : (Item.setting s).wanted = .integer) (stands : doc.setting? s = some (.number f)) :
    doc.Mistyped (.setting s) ↔ f.integer64? = none := by
  have unfit : fits (Item.setting s).wanted (.number f) = f.integer64?.isSome := by
    rw [wants]
    rfl
  constructor
  · rintro ⟨value, there, -, wrong⟩
    obtain rfl : .number f = value := Option.some.inj (stands.symm.trans there)
    rwa [unfit, Option.isSome_eq_false_iff, Option.isNone_iff_eq_none] at wrong
  · intro wide
    exact ⟨.number f, stands, nofun, by rw [unfit, wide]; rfl⟩

section Literal

variable {source other : Source} {doc : Document} {s : Setting} {f : Figures}
  (stands : doc.setting? s = some (.number f)) (begins : doc.Begins source.text)
  (otherwise : other.Gives (doc.cleared (.setting s)))

include stands begins otherwise

/-- A literal that is out of range costs the document. -/
theorem decode_overflows (large : f.number? = none) : (decode source).1.Overflows := by
  obtain ⟨⟨tree, read⟩, holds⟩ := otherwise
  have refused : (Document.number f).read .setting 2 = .error (.malformed .numberRange) := by
    rw [Document.read, Document.readNumber, large]
    rfl
  apply decode_of_cause
  exact refused_of_closed (Document.closed_of_setting stands)
    (Document.refused_of_cleared stands ⟨tree, read_of_holds read holds⟩ refused) begins

/-- Every other literal leaves it as readable as it is without. -/
theorem gives_number {n : Number} (known : f.number? = some n) : source.Gives doc := by
  obtain ⟨⟨tree, read⟩, holds⟩ := otherwise
  obtain ⟨root, readable⟩ := Document.readable_of_cleared stands
    ⟨tree, read_of_holds read holds⟩
    ⟨.number n, (Document.readAs_number rfl).mpr ⟨n, known, rfl⟩⟩
  exact gives_of_closed (Document.closed_of_setting stands) readable begins

variable (wants : (Item.setting s).wanted = .integer)

include wants

/-- A literal that fits becomes the number. -/
theorem decode_number {n : Int} (fits : f.integer64? = some n) : ∃ value : Int64,
    value.toInt = n ∧ (decode source).1 = (decode other).1.withNumber s value := by
  obtain ⟨denotes, low, high⟩ := Figures.integer64?_eq_some.mp fits
  have known := Figures.number?_of_integer? denotes low (by omega)
  obtain ⟨⟨root, read⟩, holds⟩ := gives_number stands begins otherwise known
  obtain ⟨⟨tree, read'⟩, holds'⟩ := otherwise
  have readAs : doc.ReadAs .root 0 root := read_of_holds read holds
  have readAs' : (doc.cleared (.setting s)).ReadAs .root 0 tree := read_of_holds read' holds'
  have same := Figures.int64?_number known
  rw [fits] at same
  obtain ⟨value, given, denoted⟩ := Option.map_eq_some_iff.mp same
  have more : Json.Given root tree s value := by
    refine ⟨wants, ?_, ?_, ?_⟩
    · rw [Document.setting?_number readAs stands known]
      exact given
    · rw [Document.finding_of_read readAs']
      exact @Document.finding_cleared_self doc _ (.setting s) stands
    · intro item distinct
      rw [Document.finding_of_read readAs', Document.finding_of_read readAs]
      -- Nothing is found below a number; below a list the topics would be.
      refine Document.finding_cleared_setting stands ?_ distinct
      rintro rfl
      cases wants
  refine ⟨value, denoted, ?_⟩
  rw [decode_outcome, decode_outcome, read, read', more.outcome]

/-- A literal that does not fit is a mismatch. -/
theorem decode_blames {n : Number} (known : f.number? = some n) (wide : f.integer64? = none) :
    (decode source).1.Blames ⟨.setting s, .number n⟩ (decode other).1 := by
  obtain ⟨⟨root, read⟩, holds⟩ := gives_number stands begins otherwise known
  obtain ⟨⟨tree, read'⟩, holds'⟩ := otherwise
  have readAs : doc.ReadAs .root 0 root := read_of_holds read holds
  have mistyped := (Document.mistyped_number wants stands).mpr wide
  have settled := Document.settled_cleared mistyped readAs (read_of_holds read' holds')
  have owes : source.Owes root.mismatches root.config := ⟨holds.unresumed, root, read, rfl, rfl⟩
  apply owes.blames root.mismatches_pairwise
  · apply Json.mem_mismatches.mpr
    apply Item.mismatch?_eq_some.mpr
    have there := Document.setting?_number readAs stands known
    obtain ⟨v, standing, -, unfit⟩ := settled.mistyped
    obtain rfl : v = .number n := Option.some.inj (standing.symm.trans there)
    exact ⟨rfl, .number n, there, unfit, rfl⟩
  · exact ⟨holds'.unresumed, tree, read', settled.mismatches_settled, settled.config⟩

/-- One that is in range and no integer of 64 bits is a mismatch as a floating point
number. -/
theorem decode_blamesFloat (wide : f.Wide) {x : Binary64}
    (known : f.number? = some (.float f.negative x)) :
    (decode source).1.BlamesFloat s f (decode other).1 := by
  have unfit : f.integer64? = none := by
    apply Figures.integer64?_eq_none
    intro n denotes
    have := wide n denotes
    omega
  exact ⟨x, _, known, decode_blames stands begins otherwise wants known unfit, rfl,
    Mismatch.text_float wants f.negative x⟩

/-- A literal that does not fit is an error one way or the other. -/
theorem decode_not_ok (wide : f.integer64? = none) (config : Config) :
    (decode source).1 ≠ .ok config := by
  intro ok
  cases known : f.number? with
  | none =>
      obtain ⟨place, failed⟩ := decode_overflows stands begins otherwise known
      cases ok.symm.trans failed
  | some n =>
      obtain ⟨⟨m, failed⟩, -, -⟩ := decode_blames stands begins otherwise wants known wide
      cases ok.symm.trans failed

/-- Whether anything is wrong depends on the rest of the document and on the fit. -/
theorem decode_ok_iff : (∃ config, (decode source).1 = .ok config) ↔
    (∃ config, (decode other).1 = .ok config) ∧ ∃ n, f.integer64? = some n := by
  cases fits : f.integer64? with
  | none =>
      simp [decode_not_ok stands begins otherwise wants fits]
  | some n =>
      obtain ⟨value, -, outcome⟩ := decode_number stands begins otherwise wants fits
      rw [outcome]
      rcases (decode other).1 with (⟨path, failure⟩ | ⟨problem, config⟩) | config <;>
        simp [Outcome.withNumber]

/-- The setting is well given exactly if the literal fits. -/
theorem given_iff :
    (∃ root, (readDocument source).1 = .ok root ∧ ¬ root.Mistyped (.setting s)) ↔
      ∃ n, f.integer64? = some n := by
  have mistyped_iff := Document.mistyped_number wants stands
  rw [← Option.isSome_iff_exists, Option.isSome_iff_ne_none]
  constructor
  · rintro ⟨root, read, well⟩
    have holds := Source.holds_of_read begins (.inl (Document.closed_of_setting stands)) read
    rwa [Document.mistyped_iff (read_of_holds read holds), mistyped_iff] at well
  · intro fits
    obtain ⟨n, denotes⟩ := Option.ne_none_iff_exists'.mp fits
    obtain ⟨whole, low, high⟩ := Figures.integer64?_eq_some.mp denotes
    have known := Figures.number?_of_integer? whole low (by omega)
    obtain ⟨⟨root, read⟩, holds⟩ := gives_number stands begins otherwise known
    refine ⟨root, read, ?_⟩
    rwa [Document.mistyped_iff (read_of_holds read holds), mistyped_iff]

end Literal

/-- **What a number literal comes to at a setting that wants an integer**, in a document
that can be read without it: the figures decide, and nothing else in the document is
changed. -/
theorem number_taken {source other : Source} {doc : Document} {s : Setting} {f : Figures}
    (wants : (Item.setting s).wanted = .integer) (stands : doc.setting? s = some (.number f))
    (begins : doc.Begins source.text) (otherwise : other.Gives (doc.cleared (.setting s))) :
    (decode source).1.Takes s f (decode other).1 ∧
      ((∃ root, (readDocument source).1 = .ok root ∧ ¬ root.Mistyped (.setting s)) ↔
        ∃ n, f.integer? = some n ∧ -9223372036854775808 ≤ n ∧ n ≤ 9223372036854775807) := by
  have fits : (∃ n, f.integer64? = some n) ↔
      ∃ n, f.integer? = some n ∧ -9223372036854775808 ≤ n ∧ n ≤ 9223372036854775807 :=
    exists_congr fun n => Figures.integer64?_eq_some
  refine ⟨⟨?zero, ?within, ?above, ?wide, ?inRange, ?outOfRange, ?ok_iff⟩, ?given⟩
  case zero =>
    obtain ⟨⟨tree, read⟩, holds⟩ := otherwise
    rw [decode_config read]
    apply Json.number_of_absent
    apply Json.int64?_of_finding
    rw [Document.finding_of_read (read_of_holds read holds)]
    exact @Document.finding_cleared_self doc _ (.setting s) stands
  case within =>
    intro n denotes low high
    exact decode_number stands begins otherwise wants
      (Figures.integer64?_eq_some.mpr ⟨denotes, low, high⟩)
  case above =>
    intro n denotes low high
    have known := Figures.number?_of_integer? denotes (by omega) high
    have wide : f.integer64? = none := by
      apply Figures.integer64?_eq_none
      intro m same
      obtain rfl : n = m := Option.some.inj (denotes.symm.trans same)
      omega
    exact ⟨_, decode_blames stands begins otherwise wants known wide, rfl,
      Mismatch.text_integer wants n⟩
  case wide =>
    intro wide
    rcases Figures.number?_of_not_integer? wide with large | ⟨x, known⟩
    · exact .inl (decode_overflows stands begins otherwise large)
    · exact .inr (decode_blamesFloat stands begins otherwise wants wide known)
  case inRange =>
    intro wide inside
    obtain ⟨n, readable⟩ := Figures.number?_of_inRange inside
    rcases Figures.number?_of_not_integer? wide with large | ⟨x, known⟩
    · cases readable.symm.trans large
    · exact decode_blamesFloat stands begins otherwise wants wide known
  case outOfRange =>
    intro outside
    exact decode_overflows stands begins otherwise (Figures.number?_of_outOfRange outside)
  case ok_iff =>
    rw [← fits]
    exact decode_ok_iff stands begins otherwise wants
  case given =>
    rw [← fits]
    exact given_iff stands begins otherwise wants

/-- The digits of the least integer that does not fit. -/
def pastInt64Digits : List Digit :=
  .ofNat 9 :: [2, 2, 3, 3, 7, 2, 0, 3, 6, 8, 5, 4, 7, 7, 5, 8, 0, 8].map Digit.ofNat

theorem pastInt64_plain :
    pastInt64Digits = [0] ∨ ∃ d rest, pastInt64Digits = d :: rest ∧ d ≠ 0 :=
  .inr ⟨.ofNat 9, _, rfl, by decide⟩

def Figures.pastInt64 : Figures where
  negative := false
  whole := pastInt64Digits
  fraction := []
  power := none
  whole_plain := pastInt64_plain

def Figures.oneAndHalf : Figures where
  negative := false
  whole := [.ofNat 1]
  fraction := [.ofNat 5]
  power := none
  whole_plain := Document.one_plain

/-- What is decoded with this for the port. -/
def Document.portOutcome (port : Document) : Outcome :=
  (decode (.ofBytes (Document.withPort port).compact)).1

/-- An integer that does not fit and a fraction leave the port at zero and the namespace
as it is given; with `1e999` nothing is left. -/
theorem number_taken_samples :
    Document.portOutcome .null = .ok { network := { scope := "a" } } ∧
    (Document.portOutcome (.number .pastInt64)).Takes .port .pastInt64
      (Document.portOutcome .null) ∧
    (Document.portOutcome (.number .oneAndHalf)).BlamesFloat .port .oneAndHalf
      (Document.portOutcome .null) ∧
    (∃ m, m.text = "networkConfig.port: invalid type: floating point `1.5`, expected i64" ∧
      Document.portOutcome (.number .oneAndHalf) =
        .error (.decoding (.mistyped m) { network := { scope := "a" } })) ∧
    (Document.portOutcome (.number Document.hugeFigures)).Overflows := by
  have without : Document.portOutcome .null = .ok { network := { scope := "a" } } := by
    decide +kernel
  have begins (f : Figures) : (Document.withPort (.number f)).Begins
      (Source.text (.ofBytes (Document.withPort (.number f)).compact)) := by
    rw [Source.text_ofBytes]
    exact Document.begins_compact _
  have otherwise : Source.Gives (.ofBytes (Document.withPort .null).compact) (.withPort .null) := by
    refine ⟨⟨.object [("networkConfig", .object [("namespace", .string "a"),
      ("port", .null)])], rfl⟩, Source.holds_ofBytes (Document.begins_compact _)⟩
  have taken (f : Figures) := (number_taken (f := f) (s := .port) rfl rfl (begins f) otherwise).1
  have wide : Figures.oneAndHalf.Wide := nofun
  have inside : Figures.oneAndHalf.InRange := Figures.inRange_of_places (by decide)
  have outside : Document.hugeFigures.OutOfRange :=
    Figures.outOfRange_of_places (by decide) (by decide)
  refine ⟨without, taken .pastInt64, (taken .oneAndHalf).inRange wide inside,
    ⟨⟨.setting .port, .number (.float false ⟨3 * Nat.pow 2 1073⟩)⟩, ?_, ?_⟩,
    (taken Document.hugeFigures).outOfRange outside⟩
  · decide +kernel
  · decide +kernel

end NodeSettings
