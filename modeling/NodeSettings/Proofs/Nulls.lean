/-
# NodeSettings.Proofs.Nulls -- null is absence

A member with null under a known key says no more than no member at all, and null in
place of the root or of a section no more than an empty object (`Document.Unsaid`).
Among topics null does not count as absence, since every element is a topic, but it
says no more than an empty text (`Document.Untold`).  `Document.Restated` takes one
step from a document to another that says the same.

A step keeps a document readable (`readable_restated`), and what stands at an item, or
null where nothing does, is the same before and after, or is restated in turn
(`under_restated`).  So documents that are steps apart come to the same
(`null_is_absence`).
-/
import Mathlib.Logic.Relation
import NodeSettings.Proofs.Heeding
import NodeSettings.Proofs.Leniency
import NodeSettings.Proofs.Series
import NodeSettings.Proofs.Written.Members

namespace NodeSettings

open Text

set_option autoImplicit false

/-- The root stands in no container and a section in one at most, so that an object has
room where null does. -/
def Slot.Near : Slot → Nat → Prop
  | .root, depth => depth = 0
  | .body _, depth => depth ≤ 1
  | _, _ => True

theorem Slot.Near.member {slot : Slot} {depth : Nat} (near : slot.Near depth) (key : String) :
    (slot.member key).Near (depth + 1) := by
  cases slot with
  | root =>
      obtain rfl : depth = 0 := near
      rcases Slot.member_outermost key with skipped | ⟨p, -, body⟩
      · rw [skipped]
        trivial
      · rw [body]
        exact Nat.le_refl 1
  | body p =>
      rcases Slot.member_body p key with skipped | ⟨-, s, -, setting⟩
      · rw [skipped]
        trivial
      · rw [setting]
        trivial
  | setting | skipped => trivial

namespace Document

/-! ## Saying the same -/

/-- A value that says nothing where it stands. -/
inductive Unsaid : Slot → Document → Prop where
  | null {slot : Slot} : Unsaid slot .null
  | root : Unsaid .root (.object [])
  | body (p : Section) : Unsaid (.body p) (.object [])

/-- An element that leaves its topic empty and is not wrong. -/
inductive Untold : Document → Prop where
  | null : Untold .null
  | empty : Untold (.string [])

/-- One document says what another says, but for one null. -/
inductive Restated : Slot → Document → Document → Prop where
  /-- A member with null is taken out. -/
  | dropped {slot : Slot} {key : String} {glyphs : List Glyph}
      (before after : List (List Glyph × Document)) (text : keyText? glyphs = some key)
      (known : slot.unique key = true) :
      Restated slot (.object (before ++ (glyphs, .null) :: after)) (.object (before ++ after))
  /-- One is put in, anywhere, under a known key that is absent. -/
  | added {slot : Slot} {key : String} {glyphs : List Glyph}
      (before after : List (List Glyph × Document)) (text : keyText? glyphs = some key)
      (known : slot.unique key = true) (absent : lookup? key (before ++ after) = none) :
      Restated slot (.object (before ++ after)) (.object (before ++ (glyphs, .null) :: after))
  /-- Null, or an empty object, in place of the root or of a section. -/
  | emptied {slot : Slot} {value other : Document} (unsaid : Unsaid slot value)
      (still : Unsaid slot other) : Restated slot value other
  /-- Null, or an empty text, among the elements of a list. -/
  | element (before after : List Document) {element other : Document} (untold : Untold element)
      (still : Untold other) :
      Restated .setting (.array (before ++ element :: after)) (.array (before ++ other :: after))
  | within {slot : Slot} {key : String} {glyphs : List Glyph}
      (before after : List (List Glyph × Document)) {value restated : Document}
      (text : keyText? glyphs = some key) (inside : Restated (slot.member key) value restated) :
      Restated slot (.object (before ++ (glyphs, value) :: after))
        (.object (before ++ (glyphs, restated) :: after))

theorem Restated.closed {slot : Slot} {a b : Document} (restated : Restated slot a b) :
    b.Closed := by
  intro f same
  cases restated with
  | emptied _ still => subst same; cases still
  | _ => cases same

/-! ## Restated documents are read -/

theorem Unsaid.readable {slot : Slot} {depth : Nat} {doc : Document} (unsaid : Unsaid slot doc)
    (near : slot.Near depth) : doc.Readable slot depth := by
  have empty (room : depth < maxDepth) (kept : slot.kept = true) :
      (Document.object []).Readable slot depth :=
    (readable_object_iff kept).mpr ⟨room, .nil, by simp, by simp⟩
  have deepest : 1 < maxDepth := by decide
  cases unsaid with
  | null => exact readable_null slot depth
  | root =>
      obtain rfl : depth = 0 := near
      exact empty (by omega) rfl
  | body p => exact empty (Nat.lt_of_le_of_lt near deepest) rfl

theorem Untold.readable {element : Document} (untold : Untold element) (depth : Nat) :
    element.Readable .setting depth := by
  cases untold with
  | null => exact readable_null .setting depth
  | empty => exact ⟨.string "", rfl⟩

/-- **Restating keeps a document readable.** -/
theorem readable_restated {slot : Slot} {a b : Document} (restated : Restated slot a b)
    {depth : Nat} (near : slot.Near depth) (readable : a.Readable slot depth) :
    b.Readable slot depth := by
  induction restated generalizing depth with
  | dropped before after text known =>
      refine readable_of_kept fun kept => ?_
      obtain ⟨room, legible⟩ := (readable_object_iff kept).mp readable
      exact (readable_object_iff kept).mpr ⟨room, legible.drop⟩
  | added before after text known absent =>
      refine readable_of_kept fun kept => ?_
      obtain ⟨room, legible⟩ := (readable_object_iff kept).mp readable
      exact (readable_object_iff kept).mpr
        ⟨room, legible.put text (fun _ => absent) (readable_null _ _)⟩
  | emptied unsaid still => exact still.readable near
  | @element before after element other untold still =>
      obtain ⟨room, each⟩ := (readable_array_iff rfl).mp readable
      refine (readable_array_iff rfl).mpr ⟨room, ?_⟩
      intro x member
      rcases List.mem_cons.mp (List.perm_middle.mem_iff.mp member) with rfl | old
      · exact still.readable (depth + 1)
      · exact each x (List.perm_middle.mem_iff.mpr (List.mem_cons_of_mem _ old))
  | @within slot key glyphs before after value restated text inside ih =>
      refine readable_of_kept fun kept => ?_
      obtain ⟨room, legible⟩ := (readable_object_iff kept).mp readable
      refine (readable_object_iff kept).mpr ⟨room, legible.replace ?_⟩
      intro name same
      obtain rfl : key = name := Option.some.inj (text.symm.trans same)
      exact ih (near.member key) (legible.values (glyphs, value) (by simp) key text)

/-! ## What stands under a key -/

/-- What stands under a key, null if nothing does. -/
def under (key : String) (doc : Document) : Document :=
  (doc.member? key).getD .null

theorem under_of_absent {before after : List (List Glyph × Document)} {glyphs : List Glyph}
    {key : String} (text : keyText? glyphs = some key)
    (absent : lookup? key (before ++ after) = none) (name : String) :
    (Document.object (before ++ (glyphs, .null) :: after)).under name =
      (Document.object (before ++ after)).under name := by
  rw [under, under, member?, member?]
  by_cases here : key = name
  · subst here
    rw [lookup?_middle text absent, absent]
    rfl
  · rw [lookup?_middle_of_ne text here]

theorem Unsaid.under {slot : Slot} {doc : Document} (unsaid : Unsaid slot doc) (key : String) :
    doc.under key = .null := by
  cases unsaid <;> rfl

/-- The same, or restated from what can be read here. -/
def Restatable (slot : Slot) (a b : Document) : Prop :=
  a = b ∨ Restated slot a b ∧ ∃ depth, a.Readable slot depth

/-- **Under a known key stands what stood there**, or that restated. -/
theorem under_restated {slot : Slot} {a b : Document} (step : Restatable slot a b) {key : String}
    (known : slot.unique key = true) :
    Restatable (slot.member key) (a.under key) (b.under key) := by
  rcases step with rfl | ⟨restated, depth, readable⟩
  · exact .inl rfl
  have kept := Slot.kept_of_member (Slot.kept_of_unique known)
  cases restated with
  | dropped before after text isKnown =>
      -- No known key is repeated, so the null was all there was under its key.
      obtain ⟨-, legible⟩ := (readable_object_iff kept).mp readable
      exact .inl (under_of_absent text (legible.absent text isKnown) key)
  | added before after text isKnown absent =>
      exact .inl (under_of_absent text absent key).symm
  | emptied unsaid still => exact .inl ((unsaid.under key).trans (still.under key).symm)
  | element => cases known
  | @within _ name glyphs before after value restated text inside =>
      obtain ⟨-, legible⟩ := (readable_object_iff kept).mp readable
      rw [under, under, member?, member?]
      by_cases here : name = key
      · subst here
        have absent := legible.absent text known
        rw [lookup?_middle text absent, lookup?_middle text absent]
        exact .inr ⟨inside, depth + 1, legible.values (glyphs, value) (by simp) name text⟩
      · rw [lookup?_middle_of_ne text here, lookup?_middle_of_ne text here]
        exact .inl rfl

/-! ## What stands at an item -/

section Standing

variable (doc : Document)

theorem standing_part (p : Section) : doc.standing (.part p) = doc.under p.key :=
  rfl

theorem standing_setting (s : Setting) :
    doc.standing (.setting s) = (doc.standing (.part .network)).under s.key := by
  rw [standing_part, standing, at?, setting?, under, under]
  cases doc.member? Section.network.key <;> rfl

theorem at?_topic (i : Nat) :
    doc.at? (.topic i) = (doc.standing (.setting .topics)).element? i := by
  rw [standing, at?, at?]
  cases doc.setting? .topics <;> rfl

end Standing

section Step

variable {a b : Document} (step : Restatable .root a b)

include step

theorem section_restated (p : Section) :
    Restatable (.body p) (a.standing (.part p)) (b.standing (.part p)) := by
  have known : Slot.root.unique p.key = true := by cases p <;> decide
  have rel := under_restated step known
  rwa [Slot.member_root] at rel

theorem setting_restated (s : Setting) :
    Restatable .setting (a.standing (.setting s)) (b.standing (.setting s)) := by
  have known : (Slot.body .network).unique s.key = true := by cases s <;> decide
  have rel := under_restated (section_restated step .network) known
  rwa [Slot.member_network, ← standing_setting, ← standing_setting] at rel

end Step

/-! ## What is heeded -/

theorem Unsaid.unheeded {item : Item} {doc : Document} (unsaid : Unsaid item.slot doc) :
    doc.found?.filter item.heeds = none := by
  cases item <;> cases unsaid <;> rfl

theorem Untold.unheeded {element : Document} (untold : Untold element) (i : Nat) :
    element.found?.filter (Item.topic i).heeds = none := by
  cases untold <;> rfl

/-- What is restated at an item is heeded as it was. -/
theorem heeded_restated {a b : Document} {item : Item}
    (step : Restatable item.slot (a.standing item) (b.standing item)) :
    a.heeded item = b.heeded item := by
  rw [heeded, heeded]
  generalize a.standing item = x at step
  generalize b.standing item = y at step
  rcases step with rfl | ⟨restated, -⟩
  · rfl
  -- Only the values that say nothing differ in kind, and none of them is heeded.
  generalize shape : item.slot = slot at restated
  cases restated with
  | emptied unsaid still =>
      subst shape
      rw [unsaid.unheeded, still.unheeded]
  | _ => rfl

/-! ## Topics -/

/-- Elements that are the same, or both untold. -/
def Telling (element other : Document) : Prop :=
  element = other ∨ Untold element ∧ Untold other

theorem telling_refl (element : Option Document) : Option.Rel Telling element element :=
  rel_refl (fun _ => .inl rfl) element

theorem getElem?_replaced {element other : Document} (untold : Untold element)
    (still : Untold other) (before after : List Document) (i : Nat) :
    Option.Rel Telling (before ++ element :: after)[i]? (before ++ other :: after)[i]? := by
  induction before generalizing i with
  | nil =>
      cases i with
      | zero => exact .some (.inr ⟨untold, still⟩)
      | succ i => exact telling_refl _
  | cons head before ih =>
      cases i with
      | zero => exact telling_refl _
      | succ i => exact ih i

theorem topic_restated {a b : Document} (step : Restatable .root a b) (i : Nat) :
    Option.Rel Telling (a.at? (.topic i)) (b.at? (.topic i)) := by
  have topics := setting_restated step .topics
  rw [at?_topic, at?_topic]
  generalize a.standing (.setting .topics) = x at topics
  generalize b.standing (.setting .topics) = y at topics
  rcases topics with rfl | ⟨restated, -⟩
  · exact telling_refl _
  · cases restated with
    | element before after untold still => exact getElem?_replaced untold still before after i
    | emptied unsaid still =>
        cases unsaid
        cases still
        exact .none
    | _ => exact .none

theorem heeded_topic {a b : Document} (step : Restatable .root a b) (i : Nat) :
    a.heeded (.topic i) = b.heeded (.topic i) := by
  have rel := topic_restated step i
  rw [heeded, heeded, standing, standing]
  generalize a.at? (.topic i) = x at rel
  generalize b.at? (.topic i) = y at rel
  cases rel with
  | none => rfl
  | some telling =>
      rcases telling with rfl | ⟨untold, still⟩
      · rfl
      · exact (untold.unheeded i).trans (still.unheeded i).symm

/-- **A step of restating leaves everything that is heeded**, and the number of topics. -/
theorem heeded_step {a b : Document} (restated : Restated .root a b)
    (readable : a.Readable .root 0) :
    (∀ i, (a.at? (.topic i)).isSome = (b.at? (.topic i)).isSome) ∧
      ∀ item, a.heeded item = b.heeded item := by
  have step : Restatable .root a b := .inr ⟨restated, 0, readable⟩
  constructor
  · intro i
    have rel := topic_restated step i
    generalize a.at? (.topic i) = x at rel ⊢
    generalize b.at? (.topic i) = y at rel ⊢
    cases rel <;> rfl
  · intro item
    cases item with
    | root => exact heeded_restated step
    | part p => exact heeded_restated (section_restated step p)
    | setting s => exact heeded_restated (setting_restated step s)
    | topic i => exact heeded_topic step i

end Document

/-! ## Outcomes -/

/-- A document that is restated step by step can be read, and says the same. -/
theorem Document.restated_steps {doc restated : Document} (readable : doc.Readable .root 0)
    (steps : Relation.TransGen (Restated .root) doc restated) :
    restated.Closed ∧ restated.Readable .root 0 ∧
      (∀ i, (doc.at? (.topic i)).isSome = (restated.at? (.topic i)).isSome) ∧
        ∀ item, doc.heeded item = restated.heeded item := by
  induction steps with
  | single one =>
      obtain ⟨topics, same⟩ := heeded_step one readable
      exact ⟨one.closed, readable_restated one rfl readable, topics, same⟩
  | tail _ one ih =>
      obtain ⟨-, readable', topics, same⟩ := ih
      obtain ⟨topics', same'⟩ := heeded_step one readable'
      exact ⟨one.closed, readable_restated one rfl readable',
        fun i => (topics i).trans (topics' i), fun item => (same item).trans (same' item)⟩

section Topics

variable {source : Source} {doc : Document} (gives : source.Gives doc)
  {elements : List Document} (listed : doc.setting? .topics = some (.array elements))

include gives listed

/-- There are as many topics as elements. -/
theorem length_topics : (decode source).1.config.network.topics.length = elements.length := by
  obtain ⟨⟨root, read⟩, holds⟩ := gives
  have follows := Document.network_follows (read_of_holds read holds)
  rw [decode_config read, follows.topics, listed]
  exact List.length_map _

/-- Null is never the element that is reported. -/
theorem null_unreported {m : Mismatch} {config : Config}
    (outcome : (decode source).1 = .error (.decoding (.mistyped m) config)) {i : Nat}
    (null : elements[i]? = some .null) : m.item ≠ .topic i := by
  obtain ⟨⟨root, read⟩, holds⟩ := gives
  rw [decode_outcome, read, outcomeOf_document] at outcome
  cases first : root.mismatches.head? with
  | none =>
      rw [first] at outcome
      cases outcome
  | some m' =>
      rw [first] at outcome
      cases outcome
      obtain ⟨value, stands, present, -⟩ :=
        (Document.reports_head (read_of_holds read holds) first).mistyped
      intro here
      have element : doc.at? (.topic i) = elements[i]? := by
        rw [Document.at?, listed]
        rfl
      rw [here, element, null] at stands
      cases stands
      exact present rfl

end Topics

/-- **Null is absence**: a document that is restated, however often, is read, and comes
to the same configuration or the same error.  In a list of topics null is an element
like any other: there are as many topics as elements, and none is wrong for being
null. -/
theorem null_is_absence {source : Source} {doc : Document} (gives : source.Gives doc) :
    (∀ (other : Source) (restated : Document),
      Relation.TransGen (Document.Restated .root) doc restated → restated.Begins other.text →
        other.Gives restated ∧ (decode other).1 = (decode source).1) ∧
      ∀ elements, doc.setting? .topics = some (.array elements) →
        (decode source).1.config.network.topics.length = elements.length ∧
          ∀ m config i, (decode source).1 = .error (.decoding (.mistyped m) config) →
            elements[i]? = some .null → m.item ≠ .topic i := by
  refine ⟨?_, ?_⟩
  · intro other restated steps begins
    have readable : doc.Readable .root 0 := by
      obtain ⟨root, read⟩ := gives.1
      exact ⟨root, read_of_holds read gives.2⟩
    obtain ⟨closed, ⟨tree, read'⟩, topics, same⟩ := Document.restated_steps readable steps
    have gives' := gives_of_closed closed read' begins
    exact ⟨gives', (decode_of_heeded gives gives' topics same).symm⟩
  · intro elements listed
    exact ⟨length_topics gives listed,
      fun m config i outcome null => null_unreported gives listed outcome null⟩

/-- A namespace that is null, a topic that is, and a section that is. -/
def Source.threeNulls : Source :=
  .ofBytes (Utf8.encode ("\x7b\"networkConfig\":\x7b\"namespace\":null,\"topics\":[null]," ++
    "\"port\":\"x\"\x7d,\"storageConfig\":null\x7d"))

/-- The same without the namespace, with a topic that is empty and an empty section. -/
def Source.noNulls : Source :=
  .ofBytes (Utf8.encode ("\x7b\"networkConfig\":\x7b\"topics\":[\"\"],\"port\":\"x\"\x7d," ++
    "\"storageConfig\":\x7b\x7d\x7d"))

theorem null_is_absence_thrice :
    ∃ doc restated : Document, Source.threeNulls.Gives doc ∧
      Relation.TransGen (Document.Restated .root) doc restated ∧
      restated.Begins Source.noNulls.text ∧
      (decode Source.noNulls).1 = (decode Source.threeNulls).1 ∧
      (decode Source.threeNulls).1.config.network.topics.length = 1 := by
  let key (text : String) := Document.plainGlyphs (Utf8.encode text)
  let port : List Glyph × Document := (key "port", .string (key "x"))
  let topics (element : Document) : List Glyph × Document := (key "topics", .array [element])
  let doc (inside : List (List Glyph × Document)) (storage : Document) : Document :=
    .object [(key "networkConfig", .object inside), (key "storageConfig", storage)]
  let full : List (List Glyph × Document) := [(key "namespace", .null), topics .null, port]
  have gives : Source.threeNulls.Gives (doc full .null) :=
    ⟨⟨_, rfl⟩, Source.ofBytes_unresumed _, (doc full .null).begins_compact⟩
  have network {a b : List (List Glyph × Document)}
      (inside : Document.Restated (.body .network) (.object a) (.object b)) :
      Document.Restated .root (doc a .null) (doc b .null) := by
    rw [← Slot.member_root] at inside
    exact .within [] [_] rfl inside
  have first : Document.Restated .root (doc full .null) (doc [topics .null, port] .null) :=
    network (.dropped [] [topics .null, port] (rfl : _ = some "namespace") (by decide))
  have second : Document.Restated .root (doc [topics .null, port] .null)
      (doc [topics (.string []), port] .null) := by
    refine network (.within [] [port] (rfl : _ = some Setting.topics.key) ?_)
    rw [Slot.member_network]
    exact .element [] [] .null .empty
  have third : Document.Restated .root (doc [topics (.string []), port] .null)
      (doc [topics (.string []), port] (.object [])) := by
    refine .within [_] [] (rfl : _ = some Section.storage.key) ?_
    rw [Slot.member_root]
    exact .emptied .null (.body .storage)
  have steps : Relation.TransGen (Document.Restated .root) (doc full .null)
      (doc [topics (.string []), port] (.object [])) := .tail (.tail (.single first) second) third
  have begins : (doc [topics (.string []), port] (.object [])).Begins Source.noNulls.text :=
    Document.begins_compact _
  obtain ⟨absent, list⟩ := null_is_absence gives
  exact ⟨_, _, gives, steps, begins, (absent _ _ steps begins).2, (list [.null] rfl).1⟩

end NodeSettings
