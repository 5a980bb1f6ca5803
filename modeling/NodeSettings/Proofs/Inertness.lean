/-
# NodeSettings.Proofs.Inertness -- what nothing is made of changes nothing

An object has the keys it is read for: the root its sections, the network section
its settings, the other two sections none (`Slot.Knows`).  A document is *padded*
when a member is put in under any other key, or when an array that stands in place
of the root or of a section has other elements (`Document.Padded`).  The values
put in are documents of any kind: of any depth, with numbers out of range, with
surrogates unpaired and keys repeated.

Padding keeps a document readable (`readable_padded`), and under a known key stands
what stood there, or that padded in turn (`member?_padded`).  So a padded document,
even when padded many times over, comes to what it came to (`padding_is_inert`).
-/
import Mathlib.Logic.Relation
import NodeSettings.Proofs.Findings
import NodeSettings.Proofs.Series
import NodeSettings.Proofs.Written.Members

namespace NodeSettings

open Text

set_option autoImplicit false

/-! ## Keys that are read -/

/-- The keys an object standing in a slot is read for.  A setting is kept with all
its members. -/
def Slot.Knows : Slot → String → Prop
  | .root, key => ∃ p : Section, key = p.key
  | .body .network, key => ∃ s : Setting, key = s.key
  | .setting, _ => True
  | _, _ => False

namespace Slot

variable {slot : Slot} {key : String}

theorem member_of_unknown (unknown : ¬ slot.Knows key) : slot.member key = .skipped := by
  cases slot with
  | root =>
      cases known : Section.ofKey? key with
      | none => simp [member, known]
      | some p => exact absurd ⟨p, Section.key_of_ofKey? known⟩ unknown
  | body p =>
      cases p with
      | network =>
          cases known : Setting.ofKey? key with
          | none => simp [member, known]
          | some s => exact absurd ⟨s, Setting.key_of_ofKey? known⟩ unknown
      | execution | storage => rfl
  | setting => exact absurd trivial unknown
  | skipped => rfl

theorem unique_of_unknown (unknown : ¬ slot.Knows key) : slot.unique key = false := by
  cases unique : slot.unique key with
  | false => rfl
  | true =>
      have kept := kept_of_unique unique
      rw [member_of_unknown unknown] at kept
      cases kept

theorem item_of_ne_setting (misplaced : slot ≠ .setting) : slot.item = .skipped := by
  cases slot <;> first | rfl | exact absurd rfl misplaced

end Slot

/-! ## Padding -/

namespace Document

/-- One document has something more in it than another, or something else, that is
not read. -/
inductive Padded : Slot → Document → Document → Prop where
  /-- A member under a key the object is not read for. -/
  | member {slot : Slot} {key : String} {glyphs : List Glyph}
      (before after : List (List Glyph × Document)) (value : Document)
      (text : keyText? glyphs = some key) (unknown : ¬ slot.Knows key) :
      Padded slot (.object (before ++ after)) (.object (before ++ (glyphs, value) :: after))
  /-- The elements of an array where no array should be. -/
  | elements {slot : Slot} (elements others : List Document) (misplaced : slot ≠ .setting) :
      Padded slot (.array elements) (.array others)
  | within {slot : Slot} {key : String} {glyphs : List Glyph}
      (before after : List (List Glyph × Document)) {value padded : Document}
      (text : keyText? glyphs = some key) (inside : Padded (slot.member key) value padded) :
      Padded slot (.object (before ++ (glyphs, value) :: after))
        (.object (before ++ (glyphs, padded) :: after))

namespace Padded

variable {slot : Slot} {a b : Document}

theorem closed (padded : Padded slot a b) : b.Closed := by
  intro f same
  cases padded <;> cases same

theorem found? (padded : Padded slot a b) : a.found? = b.found? := by
  cases padded <;> rfl

/-- What is kept whole cannot be padded. -/
theorem not_setting (padded : Padded slot a b) : slot ≠ .setting := by
  induction padded with
  | member before after value text unknown =>
      rintro rfl
      exact unknown trivial
  | elements elements others misplaced => exact misplaced
  | within before after text inside ih =>
      rintro rfl
      exact ih rfl

end Padded

/-! ## Padded documents are read -/

theorem Legible.insert {slot : Slot} {depth : Nat} {before after : List (List Glyph × Document)}
    (legible : Legible slot depth (before ++ after)) {glyphs : List Glyph} {key : String}
    (text : keyText? glyphs = some key) (unknown : ¬ slot.Knows key) (value : Document) :
    Legible slot depth (before ++ (glyphs, value) :: after) := by
  apply legible.put text
  · intro unique
    rw [Slot.unique_of_unknown unknown] at unique
    cases unique
  · rw [Slot.member_of_unknown unknown]
    exact readable_skipped value depth

/-- **Padding keeps a document readable.** -/
theorem readable_padded {slot : Slot} {a b : Document} (padded : Padded slot a b) {depth : Nat}
    (readable : a.Readable slot depth) : b.Readable slot depth := by
  induction padded generalizing depth with
  | @member slot key glyphs before after value text unknown =>
      refine readable_of_kept fun kept => ?_
      obtain ⟨room, legible⟩ := (readable_object_iff kept).mp readable
      exact (readable_object_iff kept).mpr ⟨room, legible.insert text unknown value⟩
  | @elements slot elements others misplaced =>
      refine readable_of_kept fun kept => ?_
      obtain ⟨room, -⟩ := (readable_array_iff kept).mp readable
      refine (readable_array_iff kept).mpr ⟨room, ?_⟩
      intro element _
      rw [Slot.item_of_ne_setting misplaced]
      exact readable_skipped element (depth + 1)
  | @within slot key glyphs before after value padded text inside ih =>
      refine readable_of_kept fun kept => ?_
      obtain ⟨room, legible⟩ := (readable_object_iff kept).mp readable
      refine (readable_object_iff kept).mpr ⟨room, legible.replace ?_⟩
      intro name same
      obtain rfl : key = name := Option.some.inj (text.symm.trans same)
      exact ih (legible.values (glyphs, value) (by simp) key text)

/-! ## What stands in a padded document -/

/-- As it was, or padded. -/
abbrev Perhaps (slot : Slot) : Document → Document → Prop :=
  Relation.ReflGen (Padded slot)

/-- **Under a known key stands what stood there**, or that padded. -/
theorem member?_padded {slot : Slot} {a b : Document} (padded : Padded slot a b) {key : String}
    (known : slot.unique key = true) :
    Option.Rel (Perhaps (slot.member key)) (a.member? key) (b.member? key) := by
  have same (x : Option Document) : Option.Rel (Perhaps (slot.member key)) x x :=
    rel_refl (fun _ => .refl) x
  cases padded with
  | elements elements others misplaced => exact .none
  | @member _ name glyphs before after value text unknown =>
      have other : name ≠ key := by
        rintro rfl
        rw [Slot.unique_of_unknown unknown] at known
        cases known
      rw [member?, member?, lookup?_middle_of_ne text other]
      exact same _
  | @within _ name glyphs before after value padded text inside =>
      rw [member?, member?, lookup?_append, lookup?_append]
      cases lookup? key before with
      | some found => exact same _
      | none =>
          by_cases here : keyText? glyphs = some key
          · obtain rfl : name = key := Option.some.inj (text.symm.trans here)
            rw [lookup?_cons_of_eq here, lookup?_cons_of_eq here]
            exact .some (.single inside)
          · rw [lookup?_cons_of_ne here, lookup?_cons_of_ne here]
            exact same _

theorem perhaps_congruent : Congruent Perhaps where
  members := by
    rintro slot a b key (_ | ⟨padded⟩) known
    · exact rel_refl (fun _ => .refl) _
    · exact member?_padded padded known
  elements := by
    rintro a b index (_ | ⟨padded⟩)
    · exact rel_refl (fun _ => .refl) _
    · exact absurd rfl padded.not_setting
  found? := by
    rintro slot a b (_ | ⟨padded⟩)
    · rfl
    · exact padded.found?

theorem finding_padded {a b : Document} (padded : Padded .root a b) (item : Item) :
    a.finding item = b.finding item :=
  perhaps_congruent.finding (.single padded) item

end Document

/-! ## Outcomes -/

/-- **Whatever is put where nothing is read, and however often, changes nothing**:
a padded document is read, and comes to the same configuration or the same
error. -/
theorem padding_is_inert {source other : Source} {doc padded : Document}
    (gives : source.Gives doc) (padding : Relation.TransGen (Document.Padded .root) doc padded)
    (begins : padded.Begins other.text) :
    other.Gives padded ∧ (decode other).1 = (decode source).1 := by
  have readable : doc.Readable .root 0 := by
    obtain ⟨root, read⟩ := gives.1
    exact ⟨root, read_of_holds read gives.2⟩
  have still : padded.Closed ∧ padded.Readable .root 0 ∧
      ∀ item, doc.finding item = padded.finding item := by
    clear begins
    induction padding with
    | single one =>
        exact ⟨one.closed, Document.readable_padded one readable, Document.finding_padded one⟩
    | tail _ one ih =>
        obtain ⟨-, readable', same⟩ := ih
        refine ⟨one.closed, Document.readable_padded one readable', fun item => ?_⟩
        rw [same, Document.finding_padded one]
  obtain ⟨closed, ⟨tree, read'⟩, same⟩ := still
  have gives' := gives_of_closed closed read' begins
  exact ⟨gives', (decode_congr gives gives' same).symm⟩

/-- A number that is too large, and half of a surrogate pair. -/
def Document.unreadable : Document :=
  .array [.number hugeFigures,
    .string [.code ⟨13, false⟩ ⟨8, false⟩ ⟨0, false⟩ ⟨0, false⟩]]

/-- A namespace, and a list in place of the port. -/
def Source.listedPort : Source :=
  .ofBytes (Utf8.encode "\x7b\"networkConfig\":\x7b\"namespace\":\"a\",\"port\":[]\x7d\x7d")

/-- The same with a member between them whose key is that of the port but for a
capital. -/
def Source.paddedPort : Source :=
  .ofBytes (Utf8.encode ("\x7b\"networkConfig\":\x7b\"namespace\":\"a\"," ++
    "\"Port\":[1e999,\"\\ud800\"],\"port\":[]\x7d\x7d"))

/-- What would make the document unreadable as its port makes no difference there. -/
theorem padding_is_inert_beside_port :
    ∃ doc padded : Document, Source.listedPort.Gives doc ∧
      Relation.TransGen (Document.Padded .root) doc padded ∧
      padded.Begins Source.paddedPort.text ∧
      (decode Source.paddedPort).1 = (decode Source.listedPort).1 := by
  let key (text : String) := Document.plainGlyphs (Utf8.encode text)
  let scope : List Glyph × Document := (key "namespace", .string (key "a"))
  let port : List Glyph × Document := (key "port", .array [])
  have gives : Source.listedPort.Gives (.withPort (.array [])) :=
    ⟨⟨_, rfl⟩, Source.ofBytes_unresumed _, (Document.withPort (.array [])).begins_compact⟩
  have unknown : ¬ (Slot.body .network).Knows "Port" := by
    rintro ⟨s, same⟩
    revert same
    cases s <;> decide
  have inside : Document.Padded (Slot.root.member Section.network.key) (.object [scope, port])
      (.object [scope, (key "Port", .unreadable), port]) := by
    rw [Slot.member_root]
    exact .member [scope] [port] .unreadable rfl unknown
  have padding : Relation.TransGen (Document.Padded .root) (.withPort (.array []))
      (.object [(key "networkConfig", .object [scope, (key "Port", .unreadable), port])]) :=
    .single (.within [] [] rfl inside)
  have begins : (Document.object [(key "networkConfig",
      .object [scope, (key "Port", .unreadable), port])]).Begins Source.paddedPort.text :=
    Document.begins_compact _
  exact ⟨_, _, gives, padding, begins, (padding_is_inert gives padding begins).2⟩

end NodeSettings
