/-
# NodeSettings.Proofs.Invariance -- one document, written in two ways

A document may be written with its members in another order, with other white
space between its tokens, and with its strings and keys spelt in another way.  The
white space is no part of a document at all; `Document.Same` says that two of them
differ in nothing but order and spelling.

Two such documents have the same members under every known key
(`member?_same`): spelling does not change what a key says, and no known key of a
document that can be read stands twice, so that the order of the members decides
nothing.  So sources that give them come to the same (`decode_invariant`).
-/
import NodeSettings.Proofs.Findings
import NodeSettings.Proofs.Series
import NodeSettings.Proofs.Written.Members
import NodeSettings.Proofs.Written.Respelling

namespace NodeSettings

open Text

set_option autoImplicit false

namespace Document

/-! ## The same document -/

mutual

/-- The same but for the order of members and the spelling of strings and keys. -/
inductive Same : Document → Document → Prop where
  | null : Same .null .null
  | bool (value : Bool) : Same (.bool value) (.bool value)
  | number (figures : Figures) : Same (.number figures) (.number figures)
  | string {glyphs others : List Glyph} (respelt : Respelt glyphs others) :
      Same (.string glyphs) (.string others)
  | array {elements others : List Document} (inside : SameElements elements others) :
      Same (.array elements) (.array others)
  | object {members ordered others : List (List Glyph × Document)}
      (order : members.Perm ordered) (inside : SameMembers ordered others) :
      Same (.object members) (.object others)

inductive SameElements : List Document → List Document → Prop where
  | nil : SameElements [] []
  | cons {element other : Document} {rest others : List Document} (first : Same element other)
      (onward : SameElements rest others) : SameElements (element :: rest) (other :: others)

/-- Member by member, in one order. -/
inductive SameMembers :
    List (List Glyph × Document) → List (List Glyph × Document) → Prop where
  | nil : SameMembers [] []
  | cons {glyphs glyphs' : List Glyph} {value value' : Document}
      {rest others : List (List Glyph × Document)} (key : Respelt glyphs glyphs')
      (first : Same value value') (onward : SameMembers rest others) :
      SameMembers ((glyphs, value) :: rest) ((glyphs', value') :: others)

end

theorem Same.found? {a b : Document} (same : Same a b) : a.found? = b.found? := by
  cases same with
  | string respelt =>
      rw [Document.found?, Document.found?, keyText?_respelt respelt]
  | _ => rfl

/-! ## Members and elements -/

theorem lookup?_same (key : String) {members others : List (List Glyph × Document)}
    (same : SameMembers members others) :
    Option.Rel Same (lookup? key members) (lookup? key others) := by
  match same with
  | .nil => exact .none
  | @SameMembers.cons glyphs glyphs' _ _ _ _ spelt first onward =>
      have text := keyText?_respelt spelt
      by_cases here : keyText? glyphs = some key
      · rw [lookup?_cons_of_eq here, lookup?_cons_of_eq (text ▸ here)]
        exact .some first
      · rw [lookup?_cons_of_ne here, lookup?_cons_of_ne (text ▸ here)]
        exact lookup?_same key onward

theorem getElem?_same {elements others : List Document} (same : SameElements elements others)
    (index : Nat) : Option.Rel Same elements[index]? others[index]? := by
  match same, index with
  | .nil, _ => exact .none
  | .cons first _, 0 => exact .some first
  | .cons _ onward, index + 1 => exact getElem?_same onward index

/-! ## The same document, readable -/

/-- The same as a document that can be read here. -/
def Twin (slot : Slot) (a b : Document) : Prop :=
  Same a b ∧ ∃ depth, a.Readable slot depth

theorem rel_and {α β : Type} {R : α → β → Prop} {P : α → Prop} {a : Option α} {b : Option β}
    (rel : Option.Rel R a b) (holds : ∀ x, a = some x → P x) :
    Option.Rel (fun x y => R x y ∧ P x) a b := by
  cases rel with
  | none => exact .none
  | some related => exact .some ⟨related, holds _ rfl⟩

/-- **Under a known key stands the same.**  No known key is repeated, so the order of
the members decides nothing. -/
theorem member?_same {slot : Slot} {a b : Document} (twin : Twin slot a b) {key : String}
    (known : slot.unique key = true) :
    Option.Rel (Twin (slot.member key)) (a.member? key) (b.member? key) := by
  obtain ⟨same, depth, readable⟩ := twin
  cases same with
  | @object members ordered others order inside =>
      have kept := Slot.kept_of_member (Slot.kept_of_unique known)
      obtain ⟨-, legible⟩ := (readable_object_iff kept).mp readable
      have rel := lookup?_same key inside
      rw [← lookup?_perm legible.unrepeated order known] at rel
      apply rel_and rel
      intro x found
      obtain ⟨glyphs, member, text⟩ := mem_of_lookup? found
      exact ⟨depth + 1, legible.values (glyphs, x) member key text⟩
  | _ => exact .none

theorem element?_same {a b : Document} (twin : Twin .setting a b) (index : Nat) :
    Option.Rel (Twin .setting) (a.element? index) (b.element? index) := by
  obtain ⟨same, depth, readable⟩ := twin
  cases same with
  | @array elements others inside =>
      obtain ⟨-, each⟩ := (readable_array_iff rfl).mp readable
      apply rel_and (getElem?_same inside index)
      intro x found
      exact ⟨depth + 1, each x (List.mem_of_getElem? found)⟩
  | _ => exact .none

theorem twin_congruent : Congruent Twin where
  members := by
    intro slot a b key twin known
    exact member?_same twin known
  elements := by
    intro a b index twin
    exact element?_same twin index
  found? := by
    intro slot a b twin
    exact twin.1.found?

end Document

/-! ## Outcomes -/

/-- **Neither the order of members, nor white space, nor the spelling of strings and
keys makes a difference** to what a source comes to; and a known key is known
however it is spelt. -/
theorem decode_invariant :
    (∀ (source other : Source) (a b : Document), source.Gives a → other.Gives b → a.Same b →
      (decode source).1 = (decode other).1) ∧
    (∀ (p : Section) (glyphs : List Glyph),
      Respelt (Document.plainGlyphs (Utf8.encode p.key)) glyphs → keyText? glyphs = some p.key) ∧
    ∀ (s : Setting) (glyphs : List Glyph),
      Respelt (Document.plainGlyphs (Utf8.encode s.key)) glyphs →
        keyText? glyphs = some s.key := by
  refine ⟨?_, ?_, ?_⟩
  · intro source other a b gives gives' same
    have readable : a.Readable .root 0 := by
      obtain ⟨root, read⟩ := gives.1
      exact ⟨root, read_of_holds read gives.2⟩
    apply decode_congr gives gives'
    exact Document.twin_congruent.finding ⟨same, 0, readable⟩
  · intro p glyphs respelt
    rw [← keyText?_respelt respelt]
    cases p <;> rfl
  · intro s glyphs respelt
    rw [← keyText?_respelt respelt]
    cases s <;> rfl

/-- The port and the namespace that are both mistyped, the namespace standing first,
with white space and escapes. -/
def Source.mistypedTwiceAnew : Source :=
  .ofBytes (Utf8.encode ("\n\x7b \"network\\u0043onfig\" :" ++
    "\x7b\"namespace\":1,\"p\\u006Frt\":\"7\"\x7d \x7d"))

/-- They come to the same either way. -/
theorem decode_invariant_mistypedTwice :
    ∃ a b : Document, Source.mistypedTwice.Gives a ∧ Source.mistypedTwiceAnew.Gives b ∧
      a.Same b ∧ (decode Source.mistypedTwice).1 = (decode Source.mistypedTwiceAnew).1 ∧
      ∃ glyphs, glyphs ≠ Document.plainGlyphs (Utf8.encode "networkConfig") ∧
        keyText? glyphs = some "networkConfig" := by
  obtain ⟨invariant, sections, -⟩ := decode_invariant
  let plain (text : String) := Document.plainGlyphs (Utf8.encode text)
  let network : List Glyph := plain "network" ++
    (.code ⟨0, false⟩ ⟨0, false⟩ ⟨4, false⟩ ⟨3, false⟩ :: plain "onfig")
  let port : List Glyph := plain "p" ++
    (.code ⟨0, false⟩ ⟨0, false⟩ ⟨6, false⟩ ⟨15, true⟩ :: plain "rt")
  let scope : List Glyph × Document := (plain "namespace", .number .one)
  let inside : Document := .object [scope, (port, .string (plain "7"))]
  have spelt : Respelt (plain "networkConfig") network := by
    refine Respelt.append (.refl (plain "network")) ?_
    exact @Respelt.char 'C' _ [_] _ _ (.plain [⟨0x43, rfl⟩] rfl) (.code _ _ _ _ rfl)
      (.refl (plain "onfig"))
  have spelt' : Respelt (plain "port") port := by
    refine Respelt.append (.refl (plain "p")) ?_
    exact @Respelt.char 'o' _ [_] _ _ (.plain [⟨0x6F, rfl⟩] rfl) (.code _ _ _ _ rfl)
      (.refl (plain "rt"))
  have gives : Source.mistypedTwice.Gives (.object [(plain "networkConfig",
      .object [(plain "port", .string (plain "7")), scope])]) :=
    ⟨⟨_, rfl⟩, Source.ofBytes_unresumed _, Document.begins_compact _⟩
  have gives' : Source.mistypedTwiceAnew.Gives (.object [(network, inside)]) := by
    have space : Blank [0x20] := by simp [Blank, isBlank]
    have line : Blank [0x0A] := by simp [Blank, isBlank]
    have written : Written (.object [(network, inside)]) _ :=
      .object (.more .first space space blank_nil (written_compact inside)
        (.none (by decide) space))
    exact ⟨⟨_, rfl⟩, Source.ofBytes_unresumed _, [0x0A], _, [], rfl, line, written, trivial⟩
  have same : Document.Same (.object [(plain "networkConfig",
      .object [(plain "port", .string (plain "7")), scope])]) (.object [(network, inside)]) := by
    refine .object (.refl _) (.cons spelt (.object (.swap _ _ _) ?_) .nil)
    exact .cons (.refl _) (.number .one) (.cons spelt' (.string (.refl _)) .nil)
  refine ⟨_, _, gives, gives', same, invariant _ _ _ _ gives gives' same, network, ?_,
    sections .network network spelt⟩
  decide

end NodeSettings
