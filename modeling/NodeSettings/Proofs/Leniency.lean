/-
# NodeSettings.Proofs.Leniency -- how far a document may go wrong and still be read

A document whose keys are in order (`Document.Fair`) should lose no setting to its
neighbours: what is mistyped is reported, and everything else is given.  It does
so exactly as far as the limits of a reader go (`decode_lenient_iff`).  A reader
builds the value of every setting, wanted or not, and the scalar that stands for a
section, so there a number must be in range, a string must pair its surrogates,
and containers may be nested 125 deep (`Document.WithinLimits`).  Past them the
document is given up as malformed, and its well-typed settings with it
(`not_lenient_huge_in_port`).  Under every other key nothing is too deep or too
large.
-/
import NodeSettings.Proofs.Completion
import NodeSettings.Proofs.Outcomes
import NodeSettings.Proofs.Written.Building

namespace NodeSettings

open Text

set_option autoImplicit false

/-! ## Fair documents -/

namespace Document

/-- An object that repeats no known key, and whose surrogates stand in pairs
wherever they matter: in the keys, the namespace and the topics. -/
structure Fair (doc : Document) : Prop where
  object : ∃ members, doc = .object members
  root : ∀ members, doc = .object members →
    Unrepeated (fun key => (Section.ofKey? key).isSome) members
  network : ∀ members, doc.at? (.part .network) = some (.object members) →
    Unrepeated (fun key => (Setting.ofKey? key).isSome) members
  keys : doc.Each (fun _ => True) Paired
  scope : ∀ glyphs, doc.at? (.setting .scope) = some (.string glyphs) → Paired glyphs
  topics : ∀ index glyphs, doc.at? (.topic index) = some (.string glyphs) → Paired glyphs

/-- What is built of a document can be built. -/
structure WithinLimits (doc : Document) : Prop where
  sections : ∀ (p : Section) value, doc.at? (.part p) = some value → value.Describable
  settings : ∀ (s : Setting) value, doc.at? (.setting s) = some value → value.Buildable

end Document

/-- An outcome that is no abort: a configuration, or an error about the content
that has no place, and in either case every setting that is well given. -/
def Outcome.Lenient (doc : Document) : Outcome → Prop
  | .ok config => config.network.Follows doc
  | .error (.decoding problem config) =>
      problem.category = .content ∧ problem.position = none ∧ config.network.Follows doc
  | .error (.opening _ _) => False

/-! ## Documents that can be read -/

theorem rel_some {α β : Type} {R : α → β → Prop} {a : α} {b : Option β}
    (rel : Option.Rel R (some a) b) : ∃ v, R a v := by
  cases rel with
  | some related => exact ⟨_, related⟩

namespace Document

theorem hasValue_of_readAs {slot : Slot} {depth : Nat} {doc : Document} {value : Json}
    (kept : slot.kept = true) (read : doc.ReadAs slot depth value) : doc.HasValue := by
  cases read.alike kept with
  | number known => exact ⟨_, known⟩
  | string known => exact ⟨_, known⟩
  | _ => trivial

variable {doc : Document}

theorem withinLimits_of_read (textual : doc.Textual) (fair : doc.Fair) {root : Json}
    (read : doc.ReadAs .root 0 root) : doc.WithinLimits where
  sections := by
    intro p value stands
    have rel := at?_rel read (.part p)
    rw [stands] at rel
    obtain ⟨v, readAs⟩ := rel_some rel
    exact describable_of_hasValue (hasValue_of_readAs rfl readAs)
  settings := by
    intro s value stands
    have rel := at?_rel read (.setting s)
    rw [stands] at rel
    exact (read_setting_iff_buildable (textual.setting? stands) (fair.keys.setting? stands)).mp
      (rel_some rel)

theorem read_of_withinLimits (textual : doc.Textual) (fair : doc.Fair)
    (within : doc.WithinLimits) : ∃ root, doc.ReadAs .root 0 root := by
  obtain ⟨members, rfl⟩ := fair.object
  refine read_root_ok textual fair.keys (fair.root members rfl) ?_
  intro p value stands
  have section? : (Document.object members).at? (.part p) = some value := stands
  have textual' : value.Textual := Each.member? textual section?
  have keys : value.Each (fun _ => True) Paired := Each.member? fair.keys section?
  refine read_body_ok textual' keys (within.sections p value section?) ?_ ?_
  · rintro rfl inside rfl
    exact fair.network inside section?
  · rintro rfl s inner found
    have setting? : (Document.object members).at? (.setting s) = some inner :=
      Option.bind_eq_some_iff.mpr ⟨value, section?, found⟩
    exact (read_setting_iff_buildable (textual'.member? found) (keys.member? found)).mpr
      (within.settings s inner setting?)

end Document

/-! ## Outcomes without an abort -/

/-- A document that could not be read gives an error of another kind. -/
theorem read_of_lenient {source : Source} {doc : Document}
    (lenient : (decode source).1.Lenient doc) : ∃ root, (readDocument source).1 = .ok root := by
  cases read : (readDocument source).1 with
  | ok root => exact ⟨root, rfl⟩
  | error fault =>
      rw [decode_of_fault read] at lenient
      obtain ⟨content, placeless, -⟩ := lenient
      rcases fault_distinct read with other | line
      · exact absurd content other
      · rw [Problem.lineColumn, placeless] at line
        cases line

theorem not_lenient_of_unread {source : Source} {doc : Document}
    (unread : (readDocument source).1.isOk = false) : ¬ (decode source).1.Lenient doc := by
  intro lenient
  obtain ⟨root, read⟩ := read_of_lenient lenient
  rw [read] at unread
  cases unread

theorem lenient_of_read {source : Source} {root : Json}
    (read : (readDocument source).1 = .ok root) {doc : Document}
    (holds : source.Holds doc) : (decode source).1.Lenient doc := by
  have follows := Document.network_follows (read_of_holds read holds)
  rw [decode_outcome, read, outcomeOf_document]
  cases root.mismatches.head? with
  | none => exact follows
  | some m =>
      refine ⟨rfl, ?_, follows⟩
      rw [Problem.position, Mismatch.notice_eq]

/-- **A fair document is decoded leniently exactly within the limits of a
reader.** -/
theorem decode_lenient_iff {source : Source} {text : String}
    (spelt : source.text = Utf8.encode text) {doc : Document} (begins : doc.Begins source.text)
    (fair : doc.Fair) : (decode source).1.Lenient doc ↔ doc.WithinLimits := by
  have textual : doc.Textual := by
    rw [spelt] at begins
    exact textual_of_begins begins
  have closed : doc.Closed := by
    obtain ⟨members, rfl⟩ := fair.object
    exact Document.closed_object members
  constructor
  · intro lenient
    obtain ⟨root, read⟩ := (readDocument_iff begins (.inl closed)).mp (read_of_lenient lenient)
    exact Document.withinLimits_of_read textual fair read
  · intro within
    obtain ⟨root, read⟩ := (readDocument_iff begins (.inl closed)).mpr
      (Document.read_of_withinLimits textual fair within)
    exact lenient_of_read read (Source.holds_of_read begins (.inl closed) read)

/-! ### Within the limits and beyond them -/

namespace Document

/-- The glyphs of bytes that stand for themselves. -/
def plainGlyphs (bytes : Bytes) : List Glyph :=
  bytes.filterMap fun b => if alone : standsAlone b = true then some (.plain b alone) else none

/-- A network section with the namespace `a` and this port. -/
def withPort (port : Document) : Document :=
  .object [(plainGlyphs (Utf8.encode "networkConfig"), .object
    [(plainGlyphs (Utf8.encode "namespace"), .string (plainGlyphs (Utf8.encode "a"))),
      (plainGlyphs (Utf8.encode "port"), port)])]

theorem paired_plainGlyphs (bytes : Bytes) : Paired (plainGlyphs bytes) := by
  induction bytes with
  | nil => exact ⟨[], rfl⟩
  | cons b rest ih =>
      obtain ⟨spelt, known⟩ := ih
      by_cases alone : standsAlone b = true
      · refine ⟨b :: spelt, ?_⟩
        have first : plainGlyphs (b :: rest) = .plain b alone :: plainGlyphs rest := by
          simp [plainGlyphs, alone]
        rw [first, unescaped, known]
        rfl
      · refine ⟨spelt, ?_⟩
        have none : plainGlyphs (b :: rest) = plainGlyphs rest := by
          simp [plainGlyphs, alone]
        rw [none, known]

/-- Whatever stands there as the port, the document is fair. -/
theorem fair_withPort {port : Document} (keys : port.Each (fun _ => True) Paired) :
    (withPort port).Fair where
  object := ⟨_, rfl⟩
  root := by
    rintro _ ⟨rfl⟩
    exact List.pairwise_singleton _ _
  network := by
    intro members stands
    have found : (withPort port).at? (.part .network) = some (.object _) := rfl
    rw [found] at stands
    cases stands
    apply List.pairwise_pair.mpr
    intro key _ first second
    rw [show keyText? _ = some "namespace" from rfl] at first
    rw [show keyText? _ = some "port" from rfl, ← first] at second
    exact absurd second (by decide)
  keys := by
    have paired (text : String) : Paired (plainGlyphs (Utf8.encode text)) :=
      paired_plainGlyphs (Utf8.encode text)
    exact ⟨paired _, ⟨paired _, trivial, paired _, keys, trivial⟩, trivial⟩
  scope := by
    intro glyphs stands
    have found : (withPort port).at? (.setting .scope) =
        some (.string (plainGlyphs (Utf8.encode "a"))) := rfl
    rw [found] at stands
    cases stands
    exact paired_plainGlyphs (Utf8.encode "a")
  topics := by
    intro index glyphs stands
    have found : (withPort port).at? (.topic index) = none := rfl
    rw [found] at stands
    cases stands

theorem one_plain : [Digit.ofNat 1] = [0] ∨ ∃ d rest, [Digit.ofNat 1] = d :: rest ∧ d ≠ 0 :=
  .inr ⟨.ofNat 1, [], rfl, by decide⟩

/-- `1e999`. -/
def hugeFigures : Figures where
  negative := false
  whole := [.ofNat 1]
  fraction := []
  power := some ⟨false, none, [.ofNat 9, .ofNat 9, .ofNat 9], List.cons_ne_nil _ _⟩
  whole_plain := one_plain

end Document

/-- A list in place of the port costs nothing but the port. -/
theorem decode_lenient_listed_port :
    ∃ doc : Document,
      doc.Begins (Source.text (.ofBytes (Utf8.encode
        "\x7b\"networkConfig\":\x7b\"namespace\":\"a\",\"port\":[]\x7d\x7d"))) ∧
      doc.Fair ∧
      (decode (.ofBytes (Utf8.encode
        "\x7b\"networkConfig\":\x7b\"namespace\":\"a\",\"port\":[]\x7d\x7d"))).1.Lenient
          doc := by
  have begins : (Document.withPort (.array [])).Begins (Source.text (.ofBytes (Utf8.encode
      "\x7b\"networkConfig\":\x7b\"namespace\":\"a\",\"port\":[]\x7d\x7d"))) :=
    (Document.withPort (.array [])).begins_compact
  have fair : (Document.withPort (.array [])).Fair := Document.fair_withPort trivial
  refine ⟨.withPort (.array []), begins, fair, ?_⟩
  refine (decode_lenient_iff (Source.text_ofBytes _) begins fair).mpr ⟨?_, ?_⟩
  · intro p value stands
    cases p with
    | execution | storage => cases stands
    | network => cases stands; trivial
  · intro s value stands
    cases s with
    | scope => cases stands; exact ⟨Document.paired_plainGlyphs _, by decide⟩
    | topics | maxPeers => cases stands
    | port => cases stands; exact ⟨trivial, by decide⟩

/-- **A number that is too large takes the whole document with it**, the namespace
that is well given included, although the port is no number at all. -/
theorem not_lenient_huge_in_port :
    ∃ doc : Document,
      doc.Begins (Utf8.encode
        "\x7b\"networkConfig\":\x7b\"namespace\":\"a\",\"port\":[1e999]\x7d\x7d") ∧
      doc.Fair ∧
      ¬ (decode (.ofBytes (Utf8.encode
        "\x7b\"networkConfig\":\x7b\"namespace\":\"a\",\"port\":[1e999]\x7d\x7d"))).1.Lenient
          doc := by
  refine ⟨.withPort (.array [.number Document.hugeFigures]), ?_, ?_, ?_⟩
  · exact Document.begins_compact (.withPort (.array [.number Document.hugeFigures]))
  · exact Document.fair_withPort ⟨trivial, trivial⟩
  · exact @not_lenient_of_unread (.ofBytes (Utf8.encode
      "\x7b\"networkConfig\":\x7b\"namespace\":\"a\",\"port\":[1e999]\x7d\x7d")) _
      (by decide +kernel)

end NodeSettings
