/-
# NodeSettings.Proofs.Written.Members -- the members an object is read for

An object that is kept can be read exactly if its members are legible
(`readable_object_iff`): their keys spell texts, none of the known ones stands
twice, and each value can be read in the slot of its key.  An array can be read
exactly if its elements can (`readable_array_iff`).

What is found under a key is in the first part of a list of members or else in the
second (`lookup?_append`).  As long as no known key is repeated, the order of the
members has no part in it (`lookup?_perm`).

Members stay legible when one is put in under a key that is unknown or absent
(`Legible.put`), taken out (`Legible.drop`) or given another value
(`Legible.replace`).
-/
import NodeSettings.Proofs.Written.Building

namespace NodeSettings

set_option autoImplicit false

theorem Slot.kept_of_unique {slot : Slot} {key : String} (unique : slot.unique key = true) :
    (slot.member key).kept = true := by
  cases slot with
  | root =>
      obtain ⟨p, known⟩ := Option.isSome_iff_exists.mp unique
      simp [member, known, kept]
  | body p =>
      cases p with
      | network =>
          have known : (Setting.ofKey? key).isSome = true := unique
          simp [member, known, kept]
      | execution | storage => cases unique
  | setting | skipped => cases unique

namespace Document

/-- Whether a document can be read in a slot, inside `depth` containers. -/
def Readable (slot : Slot) (depth : Nat) (doc : Document) : Prop :=
  ∃ v, doc.ReadAs slot depth v

theorem readable_null (slot : Slot) (depth : Nat) : Document.null.Readable slot depth :=
  ⟨.null, rfl⟩

theorem readable_skipped (doc : Document) (depth : Nat) : doc.Readable .skipped depth :=
  read_skipped doc depth

/-- Only what is kept can be a reason not to read a document. -/
theorem readable_of_kept {slot : Slot} {depth : Nat} {doc : Document}
    (readable : slot.kept = true → doc.Readable slot depth) : doc.Readable slot depth := by
  cases slot with
  | skipped => exact readable_skipped doc depth
  | root | body _ | setting => exact readable rfl

/-! ## Legible members -/

/-- What the members of an object that is kept have to be to be read. -/
structure Legible (slot : Slot) (depth : Nat) (members : List (List Glyph × Document)) :
    Prop where
  unrepeated : Unrepeated slot.unique members
  texts : ∀ m ∈ members, HasText m.1
  values : ∀ m ∈ members, ∀ key, keyText? m.1 = some key →
    m.2.Readable (slot.member key) depth

theorem readKey_fresh {slot : Slot} (kept : slot.kept = true) {before : List (String × Json)}
    {glyphs : List Glyph} {key : String} (named : readKey slot before glyphs = .ok key)
    (unique : slot.unique key = true) : before.any (fun member => member.1 = key) = false := by
  simp only [readKey, kept, if_true] at named
  obtain ⟨text, -, named⟩ := bind_eq_ok named
  split at named
  · cases named
  · rename_i fresh
    cases named
    simpa only [unique, Bool.true_and, Bool.not_eq_true] using fresh

section Kept

variable {slot : Slot} {depth : Nat} (kept : slot.kept = true)

include kept

/-- The members of an object that was read are legible, and their known keys were
new. -/
theorem legible_of_read {members : List (List Glyph × Document)}
    {before : List (String × Json)} {value : Json}
    (read : readMembers slot depth before members = .ok value) :
    Legible slot depth members ∧
      ∀ m ∈ members, ∀ key, slot.unique key = true → keyText? m.1 = some key →
        before.any (fun member => member.1 = key) = false := by
  induction members generalizing before with
  | nil => exact ⟨⟨.nil, by simp, by simp⟩, by simp⟩
  | cons head rest ih =>
      obtain ⟨glyphs, doc⟩ := head
      rw [readMembers] at read
      obtain ⟨name, named, read⟩ := bind_eq_ok read
      obtain ⟨v, readAs, read⟩ := bind_eq_ok read
      obtain ⟨legible, fresh⟩ := ih read
      have text := readKey_kept kept named
      have same {key : String} (other : keyText? glyphs = some key) : name = key :=
        Option.some.inj (text.symm.trans other)
      refine ⟨⟨List.pairwise_cons.mpr ⟨?_, legible.unrepeated⟩, ?_, ?_⟩, ?_⟩
      · -- A known key is kept, so it is among the members when the rest is read.
        intro m member key unique first second
        obtain rfl := same first
        have new := fresh m member name unique second
        simp [addMember, Slot.kept_of_unique unique] at new
      · rintro m (_ | ⟨_, member⟩)
        · exact ⟨name, text⟩
        · exact legible.texts m member
      · rintro m (_ | ⟨_, member⟩) key spelt
        · obtain rfl := same spelt
          exact ⟨v, readAs⟩
        · exact legible.values m member key spelt
      · rintro m (_ | ⟨_, member⟩) key unique spelt
        · obtain rfl := same spelt
          exact readKey_fresh kept named unique
        · have new := fresh m member key unique spelt
          unfold addMember at new
          split at new
          · exact (Bool.or_eq_false_iff.mp new).2
          · exact new

/-- **An object that is kept can be read exactly if its members are legible.** -/
theorem readable_object_iff {members : List (List Glyph × Document)} :
    (Document.object members).Readable slot depth ↔
      depth < maxDepth ∧ Legible slot (depth + 1) members := by
  constructor
  · rintro ⟨value, read⟩
    obtain ⟨room, inside⟩ := (readAs_object kept).mp read
    exact ⟨room, (legible_of_read kept inside).1⟩
  · rintro ⟨room, legible⟩
    have inside : ∃ v, readMembers slot (depth + 1) [] members = .ok v :=
      readMembers_ok kept legible.unrepeated (fun m _ key _ _ => rfl) legible.texts legible.values
    obtain ⟨v, inside⟩ := inside
    exact ⟨v, (readAs_object kept).mpr ⟨room, inside⟩⟩

end Kept

/-! ## Elements -/

theorem readElements_iff {slot : Slot} {depth : Nat} {elements : List Document}
    (items : List Json) :
    (∃ v, readElements slot depth items elements = .ok v) ↔
      ∀ element ∈ elements, element.Readable slot.item depth := by
  induction elements generalizing items with
  | nil => simp [readElements]
  | cons element rest ih =>
      rw [readElements, exists_bind_ok, List.forall_mem_cons]
      constructor
      · rintro ⟨v, read, others⟩
        exact ⟨⟨v, read⟩, (ih _).mp others⟩
      · rintro ⟨⟨v, read⟩, others⟩
        exact ⟨v, read, (ih _).mpr others⟩

/-- **An array that is kept can be read exactly if its elements can.** -/
theorem readable_array_iff {slot : Slot} {depth : Nat} (kept : slot.kept = true)
    {elements : List Document} :
    (Document.array elements).Readable slot depth ↔
      depth < maxDepth ∧ ∀ element ∈ elements, element.Readable slot.item (depth + 1) := by
  rw [← readElements_iff [], ← exists_and_left]
  exact exists_congr fun v => readAs_array kept

/-! ## Finding members -/

theorem unrepeated_iff {known : String → Bool} {members : List (List Glyph × Document)} :
    Unrepeated known members ↔ (members.map Prod.fst).Pairwise fun a b =>
      ∀ key, known key = true → keyText? a = some key → keyText? b ≠ some key := by
  rw [Unrepeated, List.pairwise_map]

theorem Unrepeated.perm {known : String → Bool} {members others : List (List Glyph × Document)}
    (unrepeated : Unrepeated known members) (order : members.Perm others) :
    Unrepeated known others := by
  apply List.Pairwise.perm unrepeated order
  intro a b apart key isKnown second first
  exact apart key isKnown first second

theorem lookup?_append (key : String) (before after : List (List Glyph × Document)) :
    lookup? key (before ++ after) = (lookup? key before).or (lookup? key after) := by
  rw [lookup?, List.find?_append, Option.map_or]
  rfl

theorem lookup?_eq_some_iff {known : String → Bool} {members : List (List Glyph × Document)}
    (unrepeated : Unrepeated known members) {key : String} (isKnown : known key = true)
    {value : Document} :
    lookup? key members = some value ↔
      ∃ glyphs, (glyphs, value) ∈ members ∧ keyText? glyphs = some key := by
  constructor
  · exact mem_of_lookup?
  · rintro ⟨glyphs, member, text⟩
    exact lookup?_of_mem unrepeated member text isKnown

/-- **What is found under a known key does not depend on the order of the
members**, if no known key is repeated. -/
theorem lookup?_perm {known : String → Bool} {members others : List (List Glyph × Document)}
    (unrepeated : Unrepeated known members) (order : members.Perm others) {key : String}
    (isKnown : known key = true) : lookup? key members = lookup? key others := by
  apply Option.ext
  intro value
  rw [lookup?_eq_some_iff unrepeated isKnown, lookup?_eq_some_iff (unrepeated.perm order) isKnown]
  exact exists_congr fun glyphs => and_congr_left fun _ => order.mem_iff

/-! ## Members put in, taken out and replaced -/

theorem lookup?_eq_none_iff {key : String} {members : List (List Glyph × Document)} :
    lookup? key members = none ↔ ∀ m ∈ members, keyText? m.1 ≠ some key := by
  simp [lookup?]

section Middle

variable {slot : Slot} {depth : Nat} {before after : List (List Glyph × Document)}
  {glyphs : List Glyph} {value : Document}

theorem lookup?_middle_of_ne {name key : String} (text : keyText? glyphs = some name)
    (other : name ≠ key) :
    lookup? key (before ++ (glyphs, value) :: after) = lookup? key (before ++ after) := by
  have apart : keyText? glyphs ≠ some key := fun same =>
    other (Option.some.inj (text.symm.trans same))
  rw [lookup?_append, lookup?_append, lookup?_cons_of_ne apart]

theorem lookup?_middle {key : String} (text : keyText? glyphs = some key)
    (absent : lookup? key (before ++ after) = none) :
    lookup? key (before ++ (glyphs, value) :: after) = some value := by
  rw [lookup?_append, Option.or_eq_none_iff] at absent
  rw [lookup?_append, absent.1, lookup?_cons_of_eq text]
  rfl

/-- A known key of one member is that of no other. -/
theorem Legible.absent (legible : Legible slot depth (before ++ (glyphs, value) :: after))
    {key : String} (text : keyText? glyphs = some key) (known : slot.unique key = true) :
    lookup? key (before ++ after) = none := by
  have front := legible.unrepeated.perm List.perm_middle
  rw [lookup?_eq_none_iff]
  intro m member
  exact (List.pairwise_cons.mp front).1 m member key known text

theorem Legible.put (legible : Legible slot depth (before ++ after)) {key : String}
    (text : keyText? glyphs = some key)
    (fresh : slot.unique key = true → lookup? key (before ++ after) = none)
    (readable : value.Readable (slot.member key) depth) :
    Legible slot depth (before ++ (glyphs, value) :: after) where
  unrepeated := by
    -- Repetition does not depend on the order, so the new member may stand first.
    have alone : ∀ m ∈ before ++ after, ∀ name, slot.unique name = true →
        keyText? glyphs = some name → keyText? m.1 ≠ some name := by
      intro m member name unique same
      obtain rfl : key = name := Option.some.inj (text.symm.trans same)
      exact lookup?_eq_none_iff.mp (fresh unique) m member
    have front : Unrepeated slot.unique ((glyphs, value) :: (before ++ after)) :=
      List.pairwise_cons.mpr ⟨alone, legible.unrepeated⟩
    exact front.perm List.perm_middle.symm
  texts := by
    intro m member
    rcases List.mem_cons.mp (List.perm_middle.mem_iff.mp member) with rfl | old
    · exact ⟨key, text⟩
    · exact legible.texts m old
  values := by
    intro m member name same
    rcases List.mem_cons.mp (List.perm_middle.mem_iff.mp member) with rfl | old
    · obtain rfl : key = name := Option.some.inj (text.symm.trans same)
      exact readable
    · exact legible.values m old name same

theorem Legible.drop (legible : Legible slot depth (before ++ (glyphs, value) :: after)) :
    Legible slot depth (before ++ after) := by
  have fewer : (before ++ after).Sublist (before ++ (glyphs, value) :: after) :=
    (List.Sublist.refl before).append (List.sublist_cons_self _ after)
  exact ⟨List.Pairwise.sublist fewer legible.unrepeated,
    fun m member => legible.texts m (fewer.subset member),
    fun m member => legible.values m (fewer.subset member)⟩

theorem Legible.replace {other : Document}
    (legible : Legible slot depth (before ++ (glyphs, value) :: after))
    (readable : ∀ key, keyText? glyphs = some key → other.Readable (slot.member key) depth) :
    Legible slot depth (before ++ (glyphs, other) :: after) where
  unrepeated := by
    have keys := legible.unrepeated
    rw [unrepeated_iff, List.map_append, List.map_cons] at keys ⊢
    exact keys
  texts := by
    intro m member
    rcases List.mem_cons.mp (List.perm_middle.mem_iff.mp member) with rfl | old
    · exact legible.texts (glyphs, value) (by simp)
    · exact legible.texts m (List.perm_middle.mem_iff.mpr (List.mem_cons_of_mem _ old))
  values := by
    intro m member name same
    rcases List.mem_cons.mp (List.perm_middle.mem_iff.mp member) with rfl | old
    · exact readable name same
    · exact legible.values m (List.perm_middle.mem_iff.mpr (List.mem_cons_of_mem _ old)) name same

end Middle

end Document

end NodeSettings
