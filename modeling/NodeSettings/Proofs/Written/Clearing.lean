/-
# NodeSettings.Proofs.Written.Clearing -- null in place of one item

`Document.cleared` puts null in place of what stands at an item.  In an object
every member with the key is replaced; the keys themselves, the other members and
their order stay.

The cleared document can be read if the document can (`readable_cleared`).  If the
item was mistyped, null is what is found there now, and everywhere else what was
found before (`finding_cleared_self`, `finding_cleared_ne`): nothing was found
below a value of the wrong kind, and nothing is found below null.

The other way round, if a document can be read once a setting is cleared, then the
value that stands there decides alone whether and why not the document can
(`readable_of_cleared`, `refused_of_cleared`).
-/
import NodeSettings.Proofs.Findings
import NodeSettings.Proofs.Written.Members

namespace NodeSettings

set_option autoImplicit false

theorem Section.key_ne {p q : Section} (distinct : p ≠ q) : p.key ≠ q.key := by
  revert distinct
  cases p <;> cases q <;> decide

theorem Setting.key_ne {s t : Setting} (distinct : s ≠ t) : s.key ≠ t.key := by
  revert distinct
  cases s <;> cases t <;> decide

namespace Document

variable (key : String) (index : Nat) (f : Document → Document)

/-! ## Changing members -/

def changeMember (member : List Glyph × Document) : List Glyph × Document :=
  if keyText? member.1 = some key then (member.1, f member.2) else member

/-- Change the value of each member with this key. -/
def onMember : Document → Document
  | .object members => .object (members.map (changeMember key f))
  | doc => doc

variable {key f}

theorem changeMember_of_eq {glyphs : List Glyph} (text : keyText? glyphs = some key)
    (value : Document) : changeMember key f (glyphs, value) = (glyphs, f value) :=
  if_pos text

theorem changeMember_of_ne {glyphs : List Glyph} (other : keyText? glyphs ≠ some key)
    (value : Document) : changeMember key f (glyphs, value) = (glyphs, value) :=
  if_neg other

theorem changeMember_fst (member : List Glyph × Document) :
    (changeMember key f member).1 = member.1 := by
  unfold changeMember
  split <;> rfl

theorem lookup?_change_self (members : List (List Glyph × Document)) :
    lookup? key (members.map (changeMember key f)) = (lookup? key members).map f := by
  induction members with
  | nil => rfl
  | cons head rest ih =>
      obtain ⟨glyphs, value⟩ := head
      rw [List.map_cons]
      by_cases text : keyText? glyphs = some key
      · rw [changeMember_of_eq text, lookup?_cons_of_eq text, lookup?_cons_of_eq text]
        rfl
      · rw [changeMember_of_ne text, lookup?_cons_of_ne text, lookup?_cons_of_ne text, ih]

theorem lookup?_change_ne {other : String} (distinct : other ≠ key)
    (members : List (List Glyph × Document)) :
    lookup? other (members.map (changeMember key f)) = lookup? other members := by
  induction members with
  | nil => rfl
  | cons head rest ih =>
      obtain ⟨glyphs, value⟩ := head
      rw [List.map_cons]
      by_cases text : keyText? glyphs = some key
      · have apart : keyText? glyphs ≠ some other := by
          rw [text, ne_eq, Option.some.injEq]
          exact distinct.symm
        rw [changeMember_of_eq text, lookup?_cons_of_ne apart, lookup?_cons_of_ne apart, ih]
      · rw [changeMember_of_ne text]
        by_cases found : keyText? glyphs = some other
        · rw [lookup?_cons_of_eq found, lookup?_cons_of_eq found]
        · rw [lookup?_cons_of_ne found, lookup?_cons_of_ne found, ih]

theorem member?_onMember_self (doc : Document) :
    (doc.onMember key f).member? key = (doc.member? key).map f := by
  cases doc with
  | object members => exact lookup?_change_self members
  | _ => rfl

theorem member?_onMember_ne {other : String} (distinct : other ≠ key) (doc : Document) :
    (doc.onMember key f).member? other = doc.member? other := by
  cases doc with
  | object members => exact lookup?_change_ne distinct members
  | _ => rfl

theorem found?_onMember (doc : Document) : (doc.onMember key f).found? = doc.found? := by
  cases doc <;> rfl

theorem readable_onMember {slot : Slot} {depth : Nat} (kept : slot.kept = true)
    (still : ∀ v : Document, v.Readable (slot.member key) (depth + 1) →
      (f v).Readable (slot.member key) (depth + 1))
    {doc : Document} (readable : doc.Readable slot depth) :
    (doc.onMember key f).Readable slot depth := by
  cases doc with
  | object members =>
      obtain ⟨room, legible⟩ := (readable_object_iff kept).mp readable
      refine (readable_object_iff kept).mpr ⟨room, ?_, ?_, ?_⟩
      · rw [unrepeated_iff, List.map_map]
        have keys : Prod.fst ∘ changeMember key f = Prod.fst := funext changeMember_fst
        rw [keys, ← unrepeated_iff]
        exact legible.unrepeated
      · rintro m member
        obtain ⟨m, old, rfl⟩ := List.mem_map.mp member
        rw [changeMember_fst]
        exact legible.texts m old
      · rintro m member name text
        obtain ⟨⟨glyphs, value⟩, old, rfl⟩ := List.mem_map.mp member
        rw [changeMember_fst] at text
        have before := legible.values (glyphs, value) old name text
        by_cases same : keyText? glyphs = some key
        · obtain rfl : name = key := Option.some.inj (text.symm.trans same)
          rw [changeMember_of_eq same]
          exact still value before
        · rw [changeMember_of_ne same]
          exact before
  | _ => exact readable

/-! ## The member as it was -/

section Unchanged

variable {slot : Slot} {depth : Nat} (kept : slot.kept = true)

include kept

/-- If an object can be read with a member changed, only that member can be a reason not to
read it as it was. -/
theorem legible_of_change {members : List (List Glyph × Document)}
    (changed : ((Document.object members).onMember key f).Readable slot depth) :
    depth < maxDepth ∧ Unrepeated slot.unique members ∧ (∀ m ∈ members, HasText m.1) ∧
      ∀ m ∈ members, ∀ name, keyText? m.1 = some name →
        (changeMember key f m).2.Readable (slot.member name) (depth + 1) := by
  obtain ⟨room, legible⟩ := (readable_object_iff kept).mp changed
  refine ⟨room, ?_, ?_, ?_⟩
  · have keys : Prod.fst ∘ changeMember key f = Prod.fst := funext changeMember_fst
    have unrepeated := legible.unrepeated
    rw [unrepeated_iff, List.map_map, keys, ← unrepeated_iff] at unrepeated
    exact unrepeated
  · intro m member
    have text := legible.texts (changeMember key f m) (List.mem_map_of_mem member)
    rwa [changeMember_fst] at text
  · intro m member name text
    refine legible.values (changeMember key f m) (List.mem_map_of_mem member) name ?_
    rwa [changeMember_fst]

variable {doc value : Document} (changed : (doc.onMember key f).Readable slot depth)
  (stands : doc.member? key = some value)

include changed stands

theorem readable_changed : (f value).Readable (slot.member key) (depth + 1) := by
  cases doc with
  | object members =>
      obtain ⟨glyphs, member, text⟩ := mem_of_lookup? stands
      have inside := (legible_of_change kept changed).2.2.2 (glyphs, value) member key text
      rwa [changeMember_of_eq text] at inside
  | _ => cases stands

/-- The object can be read as it was if the value of the member can. -/
theorem readable_of_onMember (known : slot.unique key = true)
    (readable : value.Readable (slot.member key) (depth + 1)) : doc.Readable slot depth := by
  cases doc with
  | object members =>
      obtain ⟨room, unrepeated, texts, values⟩ := legible_of_change kept changed
      refine (readable_object_iff kept).mpr ⟨room, unrepeated, texts, ?_⟩
      rintro ⟨glyphs, here⟩ member name text
      by_cases same : name = key
      · subst same
        obtain rfl : here = value :=
          Option.some.inj ((lookup?_of_mem unrepeated member text known).symm.trans stands)
        exact readable
      · have inside := values (glyphs, here) member name text
        rwa [changeMember_of_ne fun other => same (Option.some.inj (text.symm.trans other))]
          at inside
  | _ => cases stands

/-- It is refused for what the value of the member is refused for. -/
theorem refused_of_onMember {cause : Cause}
    (refused : value.read (slot.member key) (depth + 1) = .error cause) :
    doc.read slot depth = .error cause := by
  cases doc with
  | object members =>
      obtain ⟨room, unrepeated, texts, values⟩ := legible_of_change kept changed
      have shallow : ¬ (slot.kept && decide (maxDepth ≤ depth)) = true := by
        simp only [kept, Bool.true_and, decide_eq_true_eq]
        omega
      rw [read, if_neg shallow]
      apply readMembers_refused kept unrepeated (fun m _ _ _ _ => rfl) texts stands refused
      rintro ⟨glyphs, here⟩ member name text other
      have inside := values (glyphs, here) member name text
      rwa [changeMember_of_ne fun same => other (Option.some.inj (text.symm.trans same))]
        at inside
  | _ => cases stands

end Unchanged

/-! ## Changing elements -/

variable (f)

def onElement : Document → Document
  | .array elements => .array (elements.modify index f)
  | doc => doc

variable {index f}

theorem element?_onElement_self (doc : Document) :
    (doc.onElement index f).element? index = (doc.element? index).map f := by
  cases doc with
  | array elements => exact List.getElem?_modify_eq f index elements
  | _ => rfl

theorem element?_onElement_ne {other : Nat} (distinct : other ≠ index) (doc : Document) :
    (doc.onElement index f).element? other = doc.element? other := by
  cases doc with
  | array elements => exact List.getElem?_modify_ne f elements distinct.symm
  | _ => rfl

theorem found?_onElement (doc : Document) : (doc.onElement index f).found? = doc.found? := by
  cases doc <;> rfl

theorem readable_onElement {slot : Slot} {depth : Nat} (kept : slot.kept = true)
    (still : ∀ v : Document, v.Readable slot.item (depth + 1) →
      (f v).Readable slot.item (depth + 1))
    {doc : Document} (readable : doc.Readable slot depth) :
    (doc.onElement index f).Readable slot depth := by
  cases doc with
  | array elements =>
      obtain ⟨room, each⟩ := (readable_array_iff kept).mp readable
      refine (readable_array_iff kept).mpr ⟨room, ?_⟩
      intro element member
      obtain ⟨i, here⟩ := List.getElem?_of_mem member
      rw [List.getElem?_modify] at here
      obtain ⟨old, there, rfl⟩ := Option.map_eq_some_iff.mp here
      have before := each old (List.mem_of_getElem? there)
      split
      · exact still old before
      · exact before
  | _ => exact readable

/-! ## Clearing an item -/

/-- The document with null in place of what stands at an item. -/
def cleared : Item → Document → Document
  | .root => fun _ => .null
  | .part p => onMember p.key fun _ => .null
  | .setting s => onMember Section.network.key (onMember s.key fun _ => .null)
  | .topic i =>
      onMember Section.network.key (onMember Setting.topics.key (onElement i fun _ => .null))

/-- **A cleared document can still be read.** -/
theorem readable_cleared (item : Item) {doc : Document} (readable : doc.Readable .root 0) :
    (doc.cleared item).Readable .root 0 := by
  have inNetwork {g : Document → Document} (still : ∀ v : Document,
      v.Readable (.body .network) 1 → (g v).Readable (.body .network) 1) :
      (doc.onMember Section.network.key g).Readable .root 0 := by
    apply readable_onMember rfl _ readable
    intro v readable
    rw [Slot.member_root] at readable ⊢
    exact still v readable
  cases item with
  | root => exact readable_null .root 0
  | part p => exact readable_onMember rfl (fun v _ => readable_null _ 1) readable
  | setting s =>
      exact inNetwork fun v => readable_onMember rfl fun w _ => readable_null _ 2
  | topic i =>
      refine inNetwork fun v => readable_onMember rfl ?_
      intro w readable
      rw [Slot.member_network] at readable ⊢
      exact readable_onElement rfl (fun x _ => readable_null _ 3) readable

section Uncleared

variable {doc value : Document} {s : Setting} (stands : doc.setting? s = some value)
  (cleared : (doc.cleared (.setting s)).Readable .root 0)

include stands cleared

/-- A document that can be read with null at a setting can be read as it was if the value
there can. -/
theorem readable_of_cleared (readable : value.Readable .setting 2) : doc.Readable .root 0 := by
  obtain ⟨network, there, here⟩ := Option.bind_eq_some_iff.mp stands
  have inside := readable_changed rfl cleared there
  apply readable_of_onMember rfl cleared there rfl
  rw [Slot.member_root] at inside ⊢
  apply readable_of_onMember rfl inside here (by cases s <;> rfl)
  rwa [Slot.member_network]

/-- It is refused for what the value there is refused for. -/
theorem refused_of_cleared {cause : Cause} (refused : value.read .setting 2 = .error cause) :
    doc.read .root 0 = .error cause := by
  obtain ⟨network, there, here⟩ := Option.bind_eq_some_iff.mp stands
  have inside := readable_changed rfl cleared there
  apply refused_of_onMember rfl cleared there
  rw [Slot.member_root] at inside ⊢
  apply refused_of_onMember rfl inside here
  rwa [Slot.member_network]

end Uncleared

/-! ## What is found after clearing -/

theorem member?_of_unfit {doc : Document} (unfit : fits .object doc = false) (key : String) :
    doc.member? key = none := by
  cases doc <;> first | rfl | cases unfit

theorem element?_of_unfit {doc : Document} (unfit : fits .list doc = false) (index : Nat) :
    doc.element? index = none := by
  cases doc <;> first | rfl | cases unfit

theorem setting?_of_unfit {doc : Document} (unfit : fits .object doc = false) (s : Setting) :
    doc.setting? s = none := by
  rw [setting?, member?_of_unfit unfit]
  rfl

section Network

variable {doc : Document} {g : Document → Document}

theorem setting?_onNetwork (s : Setting) :
    (doc.onMember Section.network.key g).setting? s =
      (doc.member? Section.network.key).bind fun v => (g v).member? s.key := by
  rw [setting?, member?_onMember_self, Option.bind_map]
  rfl

theorem setting?_onNetwork_of_ne {key : String} {s : Setting} (distinct : s.key ≠ key) :
    (doc.onMember Section.network.key (onMember key g)).setting? s = doc.setting? s := by
  rw [setting?_onNetwork]
  exact congrArg _ (funext (member?_onMember_ne distinct))

theorem setting?_onNetwork_self (s : Setting) :
    (doc.onMember Section.network.key (onMember s.key g)).setting? s =
      (doc.setting? s).map g := by
  rw [setting?_onNetwork, setting?, Option.map_bind]
  exact congrArg _ (funext member?_onMember_self)

/-- What is called the same is found the same at a section. -/
theorem finding_part_onMember (key : String) (p : Section)
    (same : ∀ v, (g v).found? = v.found?) :
    (doc.onMember key g).finding (.part p) = doc.finding (.part p) := by
  rw [finding_part, finding_part]
  by_cases here : p.key = key
  · rw [here, member?_onMember_self, Option.map_map]
    exact congrArg (fun found => Option.map found _) (funext same)
  · rw [member?_onMember_ne here]

end Network

section Mistyped

variable {doc value : Document}

theorem finding_cleared_root (unfit : fits .object doc = false) {other : Item}
    (distinct : other ≠ .root) : Document.null.finding other = doc.finding other := by
  have unfit' : fits .object .null = false := rfl
  cases other with
  | root => exact absurd rfl distinct
  | part p => rw [finding_part, finding_part, member?_of_unfit unfit, member?_of_unfit unfit']
  | setting s =>
      rw [finding_setting, finding_setting, setting?_of_unfit unfit, setting?_of_unfit unfit']
  | topic i => rw [finding_topic, finding_topic, setting?_of_unfit unfit, setting?_of_unfit unfit']

theorem finding_cleared_part {p : Section} (stands : doc.member? p.key = some value)
    (unfit : fits .object value = false) {other : Item} (distinct : other ≠ .part p) :
    (doc.cleared (.part p)).finding other = doc.finding other := by
  -- The network section has no settings before, since it is no object, nor after.
  have settings (s : Setting) : (doc.cleared (.part p)).setting? s = doc.setting? s := by
    by_cases network : p = .network
    · subst network
      rw [cleared, setting?_onNetwork, setting?, stands, Option.bind_some, Option.bind_some,
        member?_of_unfit unfit]
      rfl
    · rw [cleared, setting?, member?_onMember_ne (Section.key_ne (Ne.symm network)), setting?]
  cases other with
  | root => rw [finding_root, finding_root, cleared, found?_onMember]
  | part q =>
      have keys : q.key ≠ p.key := Section.key_ne fun same => distinct (same ▸ rfl)
      rw [finding_part, finding_part, cleared, member?_onMember_ne keys]
  | setting s => rw [finding_setting, finding_setting, settings]
  | topic i => rw [finding_topic, finding_topic, settings]

/-- Only a list of topics has items in it. -/
theorem finding_cleared_setting {s : Setting} (stands : doc.setting? s = some value)
    (flat : s = .topics → fits .list value = false) {other : Item}
    (distinct : other ≠ .setting s) :
    (doc.cleared (.setting s)).finding other = doc.finding other := by
  have others {t : Setting} (apart : t ≠ s) :
      (doc.cleared (.setting s)).setting? t = doc.setting? t :=
    setting?_onNetwork_of_ne (Setting.key_ne apart)
  cases other with
  | root => rw [finding_root, finding_root, cleared, found?_onMember]
  | part q => exact finding_part_onMember _ q found?_onMember
  | setting t => rw [finding_setting, finding_setting, others fun same => distinct (same ▸ rfl)]
  | topic i =>
      rw [finding_topic, finding_topic]
      by_cases topics : s = .topics
      · subst topics
        rw [cleared, setting?_onNetwork_self, stands, Option.map_some, Option.bind_some,
          Option.bind_some, element?_of_unfit (flat rfl)]
        rfl
      · rw [others (Ne.symm topics)]

theorem finding_cleared_topic {i : Nat} {other : Item} (distinct : other ≠ .topic i) :
    (doc.cleared (.topic i)).finding other = doc.finding other := by
  cases other with
  | root => rw [finding_root, finding_root, cleared, found?_onMember]
  | part q => exact finding_part_onMember _ q found?_onMember
  | setting t =>
      rw [finding_setting, finding_setting, cleared]
      by_cases list : t = .topics
      · subst list
        rw [setting?_onNetwork_self, Option.map_map]
        exact congrArg (fun found => Option.map found _) (funext found?_onElement)
      · rw [setting?_onNetwork_of_ne (Setting.key_ne list)]
  | topic j =>
      have apart : j ≠ i := fun same => distinct (same ▸ rfl)
      rw [finding_topic, finding_topic, cleared, setting?_onNetwork_self, Option.bind_map]
      exact congrArg (fun read => Option.map _ (Option.bind _ read))
        (funext (element?_onElement_ne apart))

/-- **Clearing a mistyped item changes what is found there and nowhere else.** -/
theorem finding_cleared_ne {item other : Item} (mistyped : doc.Mistyped item)
    (distinct : other ≠ item) : (doc.cleared item).finding other = doc.finding other := by
  obtain ⟨value, stands, -, unfit⟩ := mistyped
  cases item with
  | root =>
      obtain rfl : doc = value := Option.some.inj stands
      exact finding_cleared_root unfit distinct
  | part p => exact finding_cleared_part stands unfit distinct
  | setting s =>
      refine finding_cleared_setting stands ?_ distinct
      rintro rfl
      exact unfit
  | topic i => exact finding_cleared_topic distinct

theorem finding_cleared_self {item : Item} (stands : doc.at? item = some value) :
    (doc.cleared item).finding item = some none := by
  cases item with
  | root => rfl
  | part p =>
      have there : doc.member? p.key = some value := stands
      rw [finding_part, cleared, member?_onMember_self, there]
      rfl
  | setting s =>
      have there : doc.setting? s = some value := stands
      rw [finding_setting, cleared, setting?_onNetwork_self, there]
      rfl
  | topic i =>
      have there : (doc.setting? .topics).bind (element? i) = some value := stands
      obtain ⟨topics, listed, there⟩ := Option.bind_eq_some_iff.mp there
      rw [finding_topic, cleared, setting?_onNetwork_self, listed, Option.map_some,
        Option.bind_some, element?_onElement_self, there]
      rfl

end Mistyped

end Document

end NodeSettings
