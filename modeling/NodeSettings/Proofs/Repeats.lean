/-
# NodeSettings.Proofs.Repeats -- keys that stand twice

A known key may stand once only in the object it is known in: a section in the root,
a setting in an object at the network section (`Document.Watches`).  Keys are compared
by their texts, so an escape does not tell two of them apart.

`Document.again` lists, in the order of the text, the known keys that have stood in
their object before.  A document whose values and keys can be read (`Document.Sound`)
is read to its end if there are none, and otherwise up to the first of them
(`read_sound`), whatever the values are and were: a key is compared before its value
is looked at, and nothing is interpreted before the whole has been read.
-/
import Mathlib.Data.List.Nodup
import NodeSettings.Proofs.Leniency
import NodeSettings.Proofs.Written.Members

namespace NodeSettings

open Text

set_option autoImplicit false

namespace Document

/-! ## Documents whose parts can be read -/

/-- Every value and every key in a document can be read where it stands, but for keys
that may be repeated. -/
inductive Sound : Slot → Nat → Document → Prop where
  | value {slot : Slot} {depth : Nat} {doc : Document} (readable : doc.Readable slot depth) :
      Sound slot depth doc
  | object {slot : Slot} {depth : Nat} {members : List (List Glyph × Document)}
      (room : depth < maxDepth) (texts : ∀ m ∈ members, HasText m.1)
      (values : ∀ m ∈ members, ∀ key, keyText? m.1 = some key →
        Sound (slot.member key) (depth + 1) m.2) : Sound slot depth (.object members)

theorem Sound.members {slot : Slot} {depth : Nat} (kept : slot.kept = true)
    {members : List (List Glyph × Document)} (sound : Sound slot depth (.object members)) :
    depth < maxDepth ∧ (∀ m ∈ members, HasText m.1) ∧
      ∀ m ∈ members, ∀ key, keyText? m.1 = some key → Sound (slot.member key) (depth + 1) m.2 := by
  cases sound with
  | object room texts values => exact ⟨room, texts, values⟩
  | value readable =>
      obtain ⟨room, legible⟩ := (readable_object_iff kept).mp readable
      refine ⟨room, legible.texts, ?_⟩
      intro m member key text
      exact .value (legible.values m member key text)

/-! ## Keys that have stood before -/

mutual

/-- The known keys in a document that have stood in their object before, in the order
of the text.  The first of them stands there for the second time. -/
def again : Slot → Document → List String
  | slot, .object members => againAfter slot [] members
  | _, _ => []

/-- The same for the members of an object that stand after others, with the keys
`before`. -/
def againAfter : Slot → List String → List (List Glyph × Document) → List String
  | _, _, [] => []
  | slot, before, (glyphs, value) :: rest =>
      match keyText? glyphs with
      | none => againAfter slot before rest
      | some key =>
          (if slot.unique key ∧ key ∈ before then [key] else []) ++
            (again (slot.member key) value ++ againAfter slot (key :: before) rest)

end

theorem againAfter_cons {slot : Slot} {glyphs : List Glyph} {key : String}
    (text : keyText? glyphs = some key) (before : List String) (value : Document)
    (rest : List (List Glyph × Document)) :
    againAfter slot before ((glyphs, value) :: rest) =
      (if slot.unique key ∧ key ∈ before then [key] else []) ++
        (again (slot.member key) value ++ againAfter slot (key :: before) rest) := by
  rw [againAfter, text]

/-- Where no key is known none is known further inside. -/
theorem member_unknown {slot : Slot} (unknown : ∀ key, slot.unique key = false)
    (name key : String) : (slot.member name).unique key = false := by
  cases slot with
  | root => cases unknown Section.network.key
  | body p =>
      cases p with
      | network => cases unknown Setting.port.key
      | execution | storage => rfl
  | setting | skipped => rfl

mutual

theorem again_unknown : ∀ (doc : Document) {slot : Slot}, (∀ key, slot.unique key = false) →
    doc.again slot = []
  | .object members, _, unknown => againAfter_unknown members [] unknown
  | .null, _, _ | .bool _, _, _ | .number _, _, _ | .string _, _, _ | .array _, _, _ => rfl

theorem againAfter_unknown : ∀ (members : List (List Glyph × Document)) {slot : Slot}
    (before : List String), (∀ key, slot.unique key = false) →
    againAfter slot before members = []
  | [], _, _, _ => rfl
  | (glyphs, value) :: rest, slot, before, unknown => by
      cases text : keyText? glyphs with
      | none =>
          rw [againAfter, text]
          exact againAfter_unknown rest before unknown
      | some key =>
          rw [againAfter_cons text, again_unknown value (member_unknown unknown key),
            againAfter_unknown rest (key :: before) unknown, unknown key]
          rfl

end

/-! ## Reading up to the first -/

/-- A reading that was stopped by a key, or was not stopped. -/
def StoppedBy (verdict : Except Cause Json) : Option String → Prop
  | none => ∃ v, verdict = .ok v
  | some key => verdict = .error (.repeated key)

theorem readKey_repeated {slot : Slot} {before : List (String × Json)} {glyphs : List Glyph}
    {key : String} (kept : slot.kept = true) (text : keyText? glyphs = some key)
    (unique : slot.unique key = true) (old : before.any (fun member => member.1 = key) = true) :
    readKey slot before glyphs = .error (.repeated key) := by
  cases spelt : glyphText glyphs with
  | error m => simp [keyText?, spelt, Except.toOption] at text
  | ok text' =>
      simp only [keyText?, spelt, Except.toOption, Option.some.injEq] at text
      subst text
      simp only [readKey, kept, if_true, spelt, mapError_ok, bind, Except.bind, unique, old,
        Bool.and_self]

/-- The known keys among `members` are those of `before`, which also has the keys whose
values were not kept. -/
def Recalls (slot : Slot) (members : List (String × Json)) (before : List String) : Prop :=
  ∀ key, slot.unique key = true → (members.any (fun m => m.1 = key) = true ↔ key ∈ before)

theorem Recalls.add {slot : Slot} {members : List (String × Json)} {before : List String}
    (recalls : Recalls slot members before) (key : String) (value : Json) :
    Recalls slot (addMember slot members key value) (key :: before) := by
  intro other unique
  rw [List.mem_cons, ← recalls other unique]
  by_cases same : other = key
  · subst same
    simp [addMember, Slot.kept_of_unique unique]
  · unfold addMember
    split <;> simp [same, Ne.symm same]

mutual

/-- **A sound document is read up to the first known key that stands again**, and to
its end if there is none. -/
theorem read_sound : ∀ (doc : Document) {slot : Slot} {depth : Nat}, Sound slot depth doc →
    StoppedBy (doc.read slot depth) (doc.again slot).head?
  | .object members, slot, depth, sound => by
      cases kept : slot.kept with
      | true =>
          obtain ⟨room, texts, values⟩ := sound.members kept
          have shallow : ¬ (slot.kept && decide (maxDepth ≤ depth)) = true := by
            simp only [kept, Bool.true_and, decide_eq_true_eq]
            omega
          rw [read, if_neg shallow]
          exact readMembers_sound members kept (fun key _ => by simp) texts values
      | false =>
          obtain rfl : slot = .skipped := by
            cases slot with
            | skipped => rfl
            | root | body _ | setting => cases kept
          -- Of what is skipped no key is known, so there is nothing to stop at.
          rw [again_unknown _ fun _ => rfl]
          exact readable_skipped (.object members) depth
  | .null, _, _, .value readable => readable
  | .bool _, _, _, .value readable => readable
  | .number _, _, _, .value readable => readable
  | .string _, _, _, .value readable => readable
  | .array _, _, _, .value readable => readable

theorem readMembers_sound : ∀ (members : List (List Glyph × Document)) {slot : Slot}
    {depth : Nat} {done : List (String × Json)} {before : List String}, slot.kept = true →
    Recalls slot done before → (∀ m ∈ members, HasText m.1) →
    (∀ m ∈ members, ∀ key, keyText? m.1 = some key → Sound (slot.member key) depth m.2) →
    StoppedBy (readMembers slot depth done members) (againAfter slot before members).head?
  | [], _, _, done, _, _, _, _, _ => ⟨.object done.reverse, rfl⟩
  | (glyphs, value) :: rest, slot, depth, done, before, kept, recalls, texts, values => by
      obtain ⟨key, text⟩ := texts (glyphs, value) List.mem_cons_self
      have inside := read_sound value (values (glyphs, value) List.mem_cons_self key text)
      rw [againAfter_cons text, readMembers]
      -- The key is compared first, then the value is read, and only then the rest.
      by_cases old : slot.unique key = true ∧ key ∈ before
      · rw [readKey_repeated kept text old.1 ((recalls key old.1).mpr old.2), if_pos old]
        rfl
      · have fresh (unique : slot.unique key = true) :
            done.any (fun member => member.1 = key) = false :=
          Bool.eq_false_iff.mpr fun stands => old ⟨unique, (recalls key unique).mp stands⟩
        rw [bind_of_ok (readKey_ok kept text fresh), if_neg old, List.nil_append,
          List.head?_append]
        cases first : (again (slot.member key) value).head? with
        | some other =>
            rw [first] at inside
            have stopped : read (slot.member key) depth value = .error (.repeated other) := inside
            rw [stopped]
            rfl
        | none =>
            rw [first] at inside
            obtain ⟨v, readAs⟩ := inside
            rw [bind_of_ok readAs]
            exact readMembers_sound rest kept (recalls.add key v)
              (fun m member => texts m (List.mem_cons_of_mem _ member))
              fun m member => values m (List.mem_cons_of_mem _ member)

end

/-! ## Objects that hold a key twice -/

/-- The keys of an object that are known where it stands, in the order of the text. -/
def knownKeys (slot : Slot) (members : List (List Glyph × Document)) : List String :=
  members.filterMap fun m => (keyText? m.1).filter slot.unique

/-- The objects with known keys: the root, and what stands at the network section,
each time there is one. -/
inductive Watches : Document → Slot → List (List Glyph × Document) → Prop where
  | root {members : List (List Glyph × Document)} : Watches (.object members) .root members
  | network {members inner : List (List Glyph × Document)} {glyphs : List Glyph}
      (stands : (glyphs, .object inner) ∈ members)
      (named : keyText? glyphs = some Section.network.key) :
      Watches (.object members) (.body .network) inner

/-- Some known key occurs at least twice in an object. -/
def Repeats (doc : Document) : Prop :=
  ∃ slot members, doc.Watches slot members ∧ ∃ key, 2 ≤ (knownKeys slot members).count key

theorem nodup_iff_no_two {keys : List String} : keys.Nodup ↔ ¬ ∃ key, 2 ≤ keys.count key := by
  rw [List.nodup_iff_count_le_one, not_exists]
  exact forall_congr' fun key => by omega

theorem knownKeys_cons {slot : Slot} {glyphs : List Glyph} {key : String}
    (text : keyText? glyphs = some key) (value : Document)
    (rest : List (List Glyph × Document)) :
    knownKeys slot ((glyphs, value) :: rest) =
      if slot.unique key then key :: knownKeys slot rest else knownKeys slot rest := by
  cases unique : slot.unique key <;> simp [knownKeys, text, unique, Option.filter]

theorem unique_of_mem_knownKeys {slot : Slot} {members : List (List Glyph × Document)}
    {key : String} (known : key ∈ knownKeys slot members) : slot.unique key = true := by
  obtain ⟨m, -, spelt⟩ := List.mem_filterMap.mp known
  exact (Option.filter_eq_some_iff.mp spelt).2

theorem not_mem_cons_iff {keys before : List String} {key : String} :
    (∀ k ∈ keys, k ∉ key :: before) ↔ key ∉ keys ∧ ∀ k ∈ keys, k ∉ before := by
  simp only [List.mem_cons, not_or, forall_and]
  exact and_congr_left' ⟨fun other here => other key here rfl, fun absent k here same =>
    absent (same ▸ here)⟩

/-- Nothing stands again if the known keys are all different, here and in the values. -/
theorem againAfter_eq_nil_iff {slot : Slot} {before : List String}
    {members : List (List Glyph × Document)} :
    againAfter slot before members = [] ↔
      ((knownKeys slot members).Nodup ∧ ∀ key ∈ knownKeys slot members, key ∉ before) ∧
        ∀ m ∈ members, ∀ key, keyText? m.1 = some key → again (slot.member key) m.2 = [] := by
  induction members generalizing before with
  | nil => simp [againAfter, knownKeys]
  | cons head rest ih =>
      obtain ⟨glyphs, value⟩ := head
      cases text : keyText? glyphs with
      | none =>
          rw [againAfter, text]
          simp [ih, knownKeys, text]
      | some key =>
          rw [againAfter_cons text, List.append_eq_nil_iff, List.append_eq_nil_iff, ih,
            knownKeys_cons text, not_mem_cons_iff, List.forall_mem_cons]
          have inside : (∀ other, keyText? glyphs = some other →
              again (slot.member other) value = []) ↔ again (slot.member key) value = [] := by
            simp [text]
          rw [inside]
          cases unique : slot.unique key with
          | false =>
              have absent : key ∉ knownKeys slot rest := fun known => by
                rw [unique_of_mem_knownKeys known] at unique
                cases unique
              simp [absent, and_left_comm]
          | true => grind

/-- In a section the values of members have no known keys. -/
theorem again_body_object {p : Section} {members : List (List Glyph × Document)} :
    again (.body p) (.object members) = [] ↔ (knownKeys (.body p) members).Nodup := by
  have inside (key : String) : ∀ name, ((Slot.body p).member key).unique name = false := by
    rcases Slot.member_body p key with skipped | ⟨-, s, -, setting⟩
    · rw [skipped]
      exact fun name => rfl
    · rw [setting]
      exact fun name => rfl
  rw [again, againAfter_eq_nil_iff]
  constructor
  · rintro ⟨⟨distinct, -⟩, -⟩
    exact distinct
  · intro distinct
    exact ⟨⟨distinct, by simp⟩, fun m _ key _ => again_unknown m.2 (inside key)⟩

theorem again_eq_nil_of_distinct {members : List (List Glyph × Document)}
    (distinct : ∀ slot inner, (Document.object members).Watches slot inner →
      (knownKeys slot inner).Nodup) : again .root (.object members) = [] := by
  rw [again, againAfter_eq_nil_iff]
  refine ⟨⟨distinct _ _ .root, by simp⟩, ?_⟩
  rintro ⟨glyphs, value⟩ member key text
  rcases Slot.member_outermost key with skipped | ⟨p, known, body⟩
  · rw [skipped]
    exact again_unknown value fun _ => rfl
  · rw [body]
    obtain rfl := Section.key_of_ofKey? known
    cases p with
    | execution | storage => exact again_unknown value fun _ => rfl
    | network =>
        cases value with
        | object inner => exact again_body_object.mpr (distinct _ _ (.network member text))
        | _ => rfl

/-- **Nothing stands again in a document exactly if no key is repeated in it.** -/
theorem again_eq_nil_iff (doc : Document) : doc.again .root = [] ↔ ¬ doc.Repeats := by
  have all : ¬ doc.Repeats ↔ ∀ slot members, doc.Watches slot members →
      (knownKeys slot members).Nodup := by
    simp only [Repeats, not_exists, not_and, nodup_iff_no_two]
  rw [all]
  cases doc with
  | object members =>
      constructor
      · intro nothing slot inner watches
        have parts := againAfter_eq_nil_iff.mp nothing
        cases watches with
        | root => exact parts.1.1
        | network stands named => exact again_body_object.mp (parts.2 _ stands _ named)
      · exact again_eq_nil_of_distinct
  | _ =>
      refine ⟨fun _ slot inner watches => ?_, fun _ => rfl⟩
      cases watches

end Document

/-! ## What decoding says of it -/

/-- The outcome of meeting `key` twice: an error of content that names the key, on a
line of the text, with the default configuration. -/
def Outcome.Refuses (outcome : Outcome) (key : String) : Prop :=
  ∃ (problem : Problem) (p : Position), outcome = .error (.decoding problem {}) ∧
    problem = .unreadable ⟨.repeated key, some p⟩ ∧ problem.category = .content ∧ 1 ≤ p.line ∧
    problem.text = "duplicate field `" ++ key ++ "`" ++
      " at line " ++ toString p.line ++ " column " ++ toString p.column

theorem refuses_of_fault {source : Source} {fault : Fault}
    (failed : (readDocument source).1 = .error fault) {key : String}
    (cause : fault.cause = .repeated key) : (decode source).1.Refuses key := by
  obtain ⟨p, placed, line⟩ := readDocument_fault failed key cause
  have shape : fault = ⟨.repeated key, some p⟩ := by
    rw [← cause, ← placed]
  rw [shape] at failed
  exact ⟨_, p, decode_of_fault failed, rfl, rfl, line, rfl⟩

/-- A source that gives a document is not refused. -/
theorem Source.Gives.not_refused {source : Source} {doc : Document} (gives : source.Gives doc)
    (key : String) : ¬ (decode source).1.Refuses key := by
  obtain ⟨⟨root, read⟩, -⟩ := gives
  rintro ⟨problem, p, outcome, rfl, -⟩
  rw [decode_outcome, read, outcomeOf_document] at outcome
  split at outcome <;> cases outcome

/-- A sound text is refused for the first key that stands again, and is read to its
end if there is none. -/
theorem decode_sound {source : Source} {doc : Document} (begins : doc.Begins source.text)
    (whole : doc.Closed ∨ source.Whole) (sound : doc.Sound .root 0) :
    (∀ key, (doc.again .root).head? = some key → (decode source).1.Refuses key) ∧
      (doc.again .root = [] → source.Gives doc) := by
  have stopped := Document.read_sound doc sound
  rw [← readDocument_of_begins begins whole] at stopped
  cases verdict : (readDocument source).1 with
  | ok root =>
      rw [verdict, mapError_ok] at stopped
      refine ⟨fun key first => ?_,
        fun _ => ⟨⟨root, verdict⟩, Source.holds_of_read begins whole verdict⟩⟩
      rw [first] at stopped
      cases stopped
  | error fault =>
      rw [verdict, mapError_error] at stopped
      refine ⟨fun key first => ?_, fun nothing => ?_⟩
      · rw [first] at stopped
        exact refuses_of_fault verdict (Except.error.inj stopped)
      · rw [nothing] at stopped
        obtain ⟨root, read⟩ := stopped
        cases read

/-- **A document that repeats a known key is refused for it**, and named is the key
that comes to stand again first.  The error is one of content, on a line of the text,
and carries the default configuration, whatever else is wrong.  No other repetition
keeps a document from being read. -/
theorem repeated_refused {source : Source} {doc : Document} (begins : doc.Begins source.text)
    (whole : doc.Closed ∨ source.Whole) (sound : doc.Sound .root 0) :
    ((∃ key, (decode source).1.Refuses key) ↔ doc.Repeats) ∧
      (∀ key, (decode source).1.Refuses key ↔ (doc.again .root).head? = some key) ∧
      (¬ doc.Repeats → source.Gives doc) := by
  obtain ⟨refuses, gives⟩ := decode_sound begins whole sound
  have named (key : String) : (decode source).1.Refuses key ↔
      (doc.again .root).head? = some key := by
    refine ⟨fun refused => ?_, refuses key⟩
    cases first : (doc.again .root).head? with
    | none => exact absurd refused ((gives (List.head?_eq_none_iff.mp first)).not_refused key)
    | some other =>
        obtain ⟨_, p, outcome, rfl, -⟩ := refused
        obtain ⟨_, q, outcome', rfl, -⟩ := refuses other first
        rw [outcome] at outcome'
        cases outcome'
        rfl
  refine ⟨?_, named, fun once => gives ((Document.again_eq_nil_iff doc).mpr once)⟩
  rw [exists_congr named, ← Option.ne_none_iff_exists', Ne, List.head?_eq_none_iff,
    Document.again_eq_nil_iff, not_not]

/-- Two members with the key `x`, and the namespace twice: first null, and then a
boolean under a key that begins with an escape. -/
def Source.namespaceTwice : Source :=
  .ofBytes (Utf8.encode ("\x7b\"networkConfig\":\x7b\"x\":null,\"x\":null,\"namespace\":null," ++
    "\"\\u006eamespace\":true\x7d,\"storageConfig\":true\x7d"))

theorem repeated_refused_escaped :
    ∃ doc : Document, doc.Begins Source.namespaceTwice.text ∧ doc.Sound .root 0 ∧ doc.Repeats ∧
      (decode Source.namespaceTwice).1.Refuses "namespace" := by
  let key (text : String) := Document.plainGlyphs (Utf8.encode text)
  let escaped : List Glyph :=
    .code ⟨0, false⟩ ⟨0, false⟩ ⟨6, false⟩ ⟨14, false⟩ :: key "amespace"
  let inside : List (List Glyph × Document) :=
    [(key "x", .null), (key "x", .null), (key "namespace", .null), (escaped, .bool true)]
  let doc : Document :=
    .object [(key "networkConfig", .object inside), (key "storageConfig", .bool true)]
  have begins : doc.Begins Source.namespaceTwice.text := doc.begins_compact
  have within (slot : Slot) : (Document.object inside).Sound slot 1 := by
    refine .object (by decide) ?_ ?_ <;> intro m member <;>
      simp only [inside, List.mem_cons, List.not_mem_nil, or_false] at member
    · rcases member with rfl | rfl | rfl | rfl <;> exact ⟨_, rfl⟩
    · rcases member with rfl | rfl | rfl | rfl <;> exact fun _ _ => .value ⟨_, rfl⟩
  have sound : doc.Sound .root 0 := by
    refine .object (by decide) ?_ ?_ <;> intro m member <;>
      simp only [List.mem_cons, List.not_mem_nil, or_false] at member
    · rcases member with rfl | rfl <;> exact ⟨_, rfl⟩
    · rcases member with rfl | rfl
      · exact fun key _ => within (Slot.root.member key)
      · exact fun _ _ => .value ⟨_, rfl⟩
  obtain ⟨iff, named, -⟩ := repeated_refused begins (.inr (Source.ofBytes_whole _)) sound
  have refused : (decode Source.namespaceTwice).1.Refuses "namespace" :=
    (named "namespace").mpr (by decide +kernel)
  exact ⟨doc, begins, sound, iff.mp ⟨"namespace", refused⟩, refused⟩

end NodeSettings
