/-
# NodeSettings.Proofs.Written.Building -- which documents can be read

What is skipped can always be read (`read_skipped`).  What is kept whole, the
value of a setting, can be read exactly if its numbers are in range, its strings
and keys spell texts, and its containers are not nested too deep
(`read_setting_iff`).  An object that is read for its known keys needs no more
than its keys: that they spell texts and that none of the known ones is repeated
(`readMembers_ok`).
-/
import NodeSettings.Proofs.Written.Texts

namespace NodeSettings

set_option autoImplicit false

namespace Document

theorem bind_of_ok {ε α β : Type} {x : Except ε α} {a : α} {f : α → Except ε β}
    (h : x = .ok a) : (x >>= f) = f a := by
  rw [h]
  rfl

/-! ## Skipped values -/

mutual

theorem read_skipped : ∀ (doc : Document) (depth : Nat), ∃ v, doc.read .skipped depth = .ok v
  | .null, _ => ⟨.null, rfl⟩
  | .bool value, _ => ⟨.bool value, rfl⟩
  | .number _, _ => ⟨.null, rfl⟩
  | .string _, _ => ⟨.null, rfl⟩
  | .array elements, depth => readElements_skipped elements .skipped rfl (depth + 1) []
  | .object members, depth => readMembers_skipped members (depth + 1) []

theorem readElements_skipped : ∀ (elements : List Document) (slot : Slot), slot.item = .skipped →
    ∀ (depth : Nat) (items : List Json), ∃ v, readElements slot depth items elements = .ok v
  | [], _, _, _, items => ⟨.array items.reverse, rfl⟩
  | element :: rest, slot, skips, depth, items => by
      obtain ⟨value, read⟩ := read_skipped element depth
      obtain ⟨v, others⟩ := readElements_skipped rest slot skips depth (addItem slot items value)
      exact ⟨v, by rw [readElements, skips, read]; exact others⟩

theorem readMembers_skipped : ∀ (members : List (List Glyph × Document)) (depth : Nat)
    (before : List (String × Json)), ∃ v, readMembers .skipped depth before members = .ok v
  | [], _, before => ⟨.object before.reverse, rfl⟩
  | (glyphs, value) :: rest, depth, before => by
      have key : readKey .skipped before glyphs = .ok "" := rfl
      obtain ⟨v, readAs⟩ := read_skipped value depth
      obtain ⟨w, others⟩ := readMembers_skipped rest depth (addMember .skipped before "" v)
      have value' : read (Slot.skipped.member "") depth value = .ok v := readAs
      exact ⟨w, by rw [readMembers, bind_of_ok key, bind_of_ok value']; exact others⟩

end

/-! ## Values that are kept whole -/

mutual

/-- How deep containers are nested in a document. -/
def height : Document → Nat
  | .array elements => elementsHeight elements + 1
  | .object members => membersHeight members + 1
  | _ => 0

def elementsHeight : List Document → Nat
  | [] => 0
  | element :: rest => max (height element) (elementsHeight rest)

def membersHeight : List (List Glyph × Document) → Nat
  | [] => 0
  | (_, value) :: rest => max (height value) (membersHeight rest)

end

/-- A number or a string that has a value. -/
def HasValue : Document → Prop
  | .number figures => ∃ n, figures.number? = some n
  | .string glyphs => ∃ text, keyText? glyphs = some text
  | _ => True

def HasText (glyphs : List Glyph) : Prop :=
  ∃ text, keyText? glyphs = some text

theorem readKey_setting {before : List (String × Json)} {glyphs : List Glyph} :
    (∃ key, readKey .setting before glyphs = .ok key) ↔ HasText glyphs := by
  simp only [readKey, HasText, keyText?, Slot.kept, Slot.unique, if_true]
  cases glyphText glyphs <;>
    simp [Except.toOption, bind, Except.bind, pure, Except.pure]

theorem exists_bind_ok {ε α β : Type} {x : Except ε α} {f : α → Except ε β} :
    (∃ b, (x >>= f) = .ok b) ↔ ∃ a, x = .ok a ∧ ∃ b, f a = .ok b := by
  cases x with
  | ok a => simp [bind, Except.bind]
  | error e => simp [bind, Except.bind]

mutual

/-- **A kept value can be read exactly if all in it has a value** and it is not
nested too deep for where it stands. -/
theorem read_setting_iff : ∀ (doc : Document) (depth : Nat), depth ≤ maxDepth →
    ((∃ v, doc.read .setting depth = .ok v) ↔
      doc.Each HasValue HasText ∧ depth + doc.height ≤ maxDepth)
  | .null, depth, bound => by simp [read, Each, HasValue, height, bound]
  | .bool _, depth, bound => by simp [read, Each, HasValue, height, bound]
  | .number f, depth, bound => by
      constructor
      · rintro ⟨v, readAs⟩
        obtain ⟨n, known, -⟩ := (readAs_number rfl).mp readAs
        exact ⟨⟨n, known⟩, bound⟩
      · rintro ⟨⟨n, known⟩, -⟩
        exact ⟨_, (readAs_number rfl).mpr ⟨n, known, rfl⟩⟩
  | .string glyphs, depth, bound => by
      constructor
      · rintro ⟨v, readAs⟩
        obtain ⟨text, known, -⟩ := (readAs_string rfl).mp readAs
        exact ⟨⟨text, known⟩, bound⟩
      · rintro ⟨⟨text, known⟩, -⟩
        exact ⟨_, (readAs_string rfl).mpr ⟨text, known, rfl⟩⟩
  | .array elements, depth, bound => by
      constructor
      · rintro ⟨v, readAs⟩
        obtain ⟨room, inside⟩ := (readAs_array rfl).mp readAs
        obtain ⟨each, fits⟩ :=
          (readElements_setting_iff elements (depth + 1) room []).mp ⟨v, inside⟩
        exact ⟨each, by rw [height]; omega⟩
      · rintro ⟨each, fits⟩
        rw [height] at fits
        obtain ⟨v, inside⟩ :=
          (readElements_setting_iff elements (depth + 1) (by omega) []).mpr ⟨each, by omega⟩
        exact ⟨v, (readAs_array rfl).mpr ⟨by omega, inside⟩⟩
  | .object members, depth, bound => by
      constructor
      · rintro ⟨v, readAs⟩
        obtain ⟨room, inside⟩ := (readAs_object rfl).mp readAs
        obtain ⟨each, fits⟩ :=
          (readMembers_setting_iff members (depth + 1) room []).mp ⟨v, inside⟩
        exact ⟨each, by rw [height]; omega⟩
      · rintro ⟨each, fits⟩
        rw [height] at fits
        obtain ⟨v, inside⟩ :=
          (readMembers_setting_iff members (depth + 1) (by omega) []).mpr ⟨each, by omega⟩
        exact ⟨v, (readAs_object rfl).mpr ⟨by omega, inside⟩⟩

theorem readElements_setting_iff : ∀ (elements : List Document) (depth : Nat),
    depth ≤ maxDepth → ∀ (items : List Json),
      ((∃ v, readElements .setting depth items elements = .ok v) ↔
        EachElement HasValue HasText elements ∧ depth + elementsHeight elements ≤ maxDepth)
  | [], depth, bound, items => by simp [readElements, EachElement, elementsHeight, bound]
  | element :: rest, depth, bound, items => by
      have here := read_setting_iff element depth bound
      have there := readElements_setting_iff rest depth bound
      rw [readElements, exists_bind_ok, EachElement, elementsHeight]
      constructor
      · rintro ⟨value, readAs, others⟩
        obtain ⟨each, fits⟩ := here.mp ⟨value, readAs⟩
        obtain ⟨each', fits'⟩ := (there (addItem .setting items value)).mp others
        exact ⟨⟨each, each'⟩, by omega⟩
      · rintro ⟨⟨each, each'⟩, fits⟩
        obtain ⟨value, readAs⟩ := here.mpr ⟨each, by omega⟩
        exact ⟨value, readAs,
          (there (addItem .setting items value)).mpr ⟨each', by omega⟩⟩

theorem readMembers_setting_iff : ∀ (members : List (List Glyph × Document)) (depth : Nat),
    depth ≤ maxDepth → ∀ (before : List (String × Json)),
      ((∃ v, readMembers .setting depth before members = .ok v) ↔
        EachMember HasValue HasText members ∧ depth + membersHeight members ≤ maxDepth)
  | [], depth, bound, before => by simp [readMembers, EachMember, membersHeight, bound]
  | (glyphs, value) :: rest, depth, bound, before => by
      have here := read_setting_iff value depth bound
      have there := readMembers_setting_iff rest depth bound
      rw [readMembers, exists_bind_ok, EachMember, membersHeight]
      constructor
      · rintro ⟨key, named, inside⟩
        obtain ⟨v, readAs, others⟩ := exists_bind_ok.mp inside
        obtain ⟨each, fits⟩ := here.mp ⟨v, readAs⟩
        obtain ⟨each', fits'⟩ := (there (addMember .setting before key v)).mp others
        exact ⟨⟨readKey_setting.mp ⟨key, named⟩, each, each'⟩, by omega⟩
      · rintro ⟨⟨text, each, each'⟩, fits⟩
        obtain ⟨key, named⟩ := readKey_setting.mpr text
        obtain ⟨v, readAs⟩ := here.mpr ⟨each, by omega⟩
        exact ⟨key, named, exists_bind_ok.mpr ⟨v, readAs,
          (there (addMember .setting before key v)).mpr ⟨each', by omega⟩⟩⟩

end

/-! ## Objects that are read for their known keys -/

/-- None of the known keys stands twice. -/
def Unrepeated (known : String → Bool) (members : List (List Glyph × Document)) : Prop :=
  members.Pairwise fun a b =>
    ∀ key, known key = true → keyText? a.1 = some key → keyText? b.1 ≠ some key

/-- The one member with a known key is what is found under it. -/
theorem lookup?_of_mem {known : String → Bool} {members : List (List Glyph × Document)}
    (unrepeated : Unrepeated known members) {glyphs : List Glyph} {value : Document}
    {key : String} (member : (glyphs, value) ∈ members) (text : keyText? glyphs = some key)
    (isKnown : known key = true) : lookup? key members = some value := by
  induction members with
  | nil => cases member
  | cons head rest ih =>
      obtain ⟨first, others⟩ := List.pairwise_cons.mp unrepeated
      rcases List.mem_cons.mp member with rfl | later
      · exact lookup?_cons_of_eq text value rest
      · have other : keyText? head.1 ≠ some key := by
          intro same
          exact first (glyphs, value) later key isKnown same text
        rw [lookup?_cons_of_ne other]
        exact ih others later

theorem readKey_ok {slot : Slot} (kept : slot.kept = true) {before : List (String × Json)}
    {glyphs : List Glyph} {key : String} (text : keyText? glyphs = some key)
    (fresh : slot.unique key = true → before.any (fun member => member.1 = key) = false) :
    readKey slot before glyphs = .ok key := by
  cases spelt : glyphText glyphs with
  | error m => simp [keyText?, spelt, Except.toOption] at text
  | ok text' =>
      simp only [keyText?, spelt, Except.toOption, Option.some.injEq] at text
      subst text
      simp only [readKey, kept, if_true, spelt, mapError_ok, bind, Except.bind]
      cases unique : slot.unique text' with
      | false => rfl
      | true => rw [fresh unique]; rfl

/-- A key that stands once is new to the members after it. -/
theorem fresh_addMember {slot : Slot} {before : List (String × Json)} {glyphs : List Glyph}
    {key : String} {value : Json} {rest : List (List Glyph × Document)}
    (text : keyText? glyphs = some key)
    (once : ∀ m ∈ rest, ∀ other, slot.unique other = true → keyText? glyphs = some other →
      keyText? m.1 ≠ some other)
    (fresh : ∀ m ∈ rest, ∀ other, slot.unique other = true → keyText? m.1 = some other →
      before.any (fun member => member.1 = other) = false) :
    ∀ m ∈ rest, ∀ other, slot.unique other = true → keyText? m.1 = some other →
      (addMember slot before key value).any (fun member => member.1 = other) = false := by
  intro m member other unique text'
  have old := fresh m member other unique text'
  have distinct : key ≠ other := by
    rintro rfl
    exact once m member key unique text text'
  unfold addMember
  split
  · simp [distinct, old]
  · exact old

/-- **An object is read as soon as its keys are**, if the values of its members
are. -/
theorem readMembers_ok {slot : Slot} (kept : slot.kept = true) {depth : Nat}
    {members : List (List Glyph × Document)} {before : List (String × Json)}
    (unrepeated : Unrepeated slot.unique members)
    (fresh : ∀ m ∈ members, ∀ key, slot.unique key = true → keyText? m.1 = some key →
      before.any (fun member => member.1 = key) = false)
    (texts : ∀ m ∈ members, HasText m.1)
    (values : ∀ m ∈ members, ∀ key, keyText? m.1 = some key →
      ∃ v, m.2.read (slot.member key) depth = .ok v) :
    ∃ v, readMembers slot depth before members = .ok v := by
  induction members generalizing before with
  | nil => exact ⟨.object before.reverse, rfl⟩
  | cons head rest ih =>
      obtain ⟨glyphs, value⟩ := head
      obtain ⟨first, others⟩ := List.pairwise_cons.mp unrepeated
      obtain ⟨key, text⟩ := texts (glyphs, value) (by simp)
      obtain ⟨v, readAs⟩ := values (glyphs, value) (by simp) key text
      have named := readKey_ok kept text fun unique =>
        fresh (glyphs, value) (by simp) key unique text
      rw [readMembers, bind_of_ok named, bind_of_ok readAs]
      apply ih others
      · exact fresh_addMember text first fun m member => fresh m (by simp [member])
      · intro m member
        exact texts m (by simp [member])
      · intro m member
        exact values m (by simp [member])

/-- **An object is refused for the value of a known key** if that cannot be read and the
values before it can. -/
theorem readMembers_refused {slot : Slot} (kept : slot.kept = true) {depth : Nat}
    {members : List (List Glyph × Document)} {before : List (String × Json)}
    (unrepeated : Unrepeated slot.unique members)
    (fresh : ∀ m ∈ members, ∀ key, slot.unique key = true → keyText? m.1 = some key →
      before.any (fun member => member.1 = key) = false)
    (texts : ∀ m ∈ members, HasText m.1) {key : String} {value : Document}
    (stands : lookup? key members = some value) {cause : Cause}
    (refused : value.read (slot.member key) depth = .error cause)
    (others : ∀ m ∈ members, ∀ name, keyText? m.1 = some name → name ≠ key →
      ∃ v, m.2.read (slot.member name) depth = .ok v) :
    readMembers slot depth before members = .error cause := by
  induction members generalizing before with
  | nil => cases stands
  | cons head rest ih =>
      obtain ⟨glyphs, here⟩ := head
      obtain ⟨first, later⟩ := List.pairwise_cons.mp unrepeated
      obtain ⟨name, text⟩ := texts (glyphs, here) (by simp)
      have named := readKey_ok kept text fun unique =>
        fresh (glyphs, here) (by simp) name unique text
      rw [readMembers, bind_of_ok named]
      by_cases same : name = key
      · subst same
        obtain rfl : here = value := by
          rw [lookup?_cons_of_eq text] at stands
          exact Option.some.inj stands
        rw [refused]
        rfl
      · have distinct : keyText? glyphs ≠ some key := by
          rw [text]
          exact fun other => same (Option.some.inj other)
        obtain ⟨v, readAs⟩ := others (glyphs, here) (by simp) name text same
        rw [lookup?_cons_of_ne distinct] at stands
        rw [bind_of_ok readAs]
        apply ih later
        · exact fresh_addMember text first fun m member => fresh m (by simp [member])
        · exact fun m member => texts m (by simp [member])
        · exact stands
        · exact fun m member => others m (by simp [member])

end Document

/-! ### Known keys -/

theorem Section.key_of_ofKey? {key : String} {p : Section} (known : ofKey? key = some p) :
    key = p.key := by
  have found := List.find?_some known
  simpa using (decide_eq_true_eq.mp found).symm

theorem Setting.key_of_ofKey? {key : String} {s : Setting} (known : ofKey? key = some s) :
    key = s.key := by
  have found := List.find?_some known
  simpa using (decide_eq_true_eq.mp found).symm

/-- A member of the root is a section, or is skipped. -/
theorem Slot.member_outermost (key : String) :
    Slot.root.member key = .skipped ∨
      ∃ p : Section, Section.ofKey? key = some p ∧ Slot.root.member key = .body p := by
  cases known : Section.ofKey? key with
  | none => exact .inl (by simp [Slot.member, known])
  | some p => exact .inr ⟨p, rfl, by simp [Slot.member, known]⟩

/-- A member of a section is a setting of the network, or is skipped. -/
theorem Slot.member_body (p : Section) (key : String) :
    (Slot.body p).member key = .skipped ∨
      p = .network ∧ ∃ s, Setting.ofKey? key = some s ∧ (Slot.body p).member key = .setting := by
  cases p with
  | execution | storage => exact .inl rfl
  | network =>
      cases known : Setting.ofKey? key with
      | none => exact .inl (by simp [Slot.member, known])
      | some s => exact .inr ⟨rfl, s, rfl, by simp [Slot.member, known]⟩

namespace Document

/-! ## Sections and the root -/

/-- What a section that is no object has to be to be described: a number in range,
a string with its surrogates paired, or anything else. -/
def Describable : Document → Prop
  | .number figures => ∃ n, figures.number? = some n
  | .string glyphs => Paired glyphs
  | _ => True

/-- What a value has to be to be kept whole as a setting. -/
def Buildable (value : Document) : Prop :=
  value.Each Describable (fun _ => True) ∧ value.height ≤ 125

theorem hasValue_of_describable {doc : Document}
    (textual : ∀ glyphs, doc = .string glyphs → TextIfPaired glyphs)
    (describable : doc.Describable) : doc.HasValue := by
  cases doc with
  | string glyphs => exact textual glyphs rfl describable
  | _ => exact describable

theorem describable_of_hasValue {doc : Document} (hasValue : doc.HasValue) : doc.Describable := by
  cases doc with
  | string glyphs =>
      obtain ⟨text, known⟩ := hasValue
      exact paired_of_keyText? known
  | _ => exact hasValue

/-- The value of a setting can be read exactly if it can be built. -/
theorem read_setting_iff_buildable {value : Document} (textual : value.Textual)
    (keys : value.Each (fun _ => True) Paired) :
    (∃ v, value.read .setting 2 = .ok v) ↔ value.Buildable := by
  rw [read_setting_iff value 2 (by decide), Buildable]
  have bound : 2 + value.height ≤ maxDepth ↔ value.height ≤ 125 := by
    unfold maxDepth
    omega
  apply and_congr _ bound
  constructor
  · intro each
    exact each.imp₂ (fun d has _ => describable_of_hasValue has) (fun g _ _ => trivial) each
  · intro each
    have spelt : value.Each (fun d => ∀ glyphs, d = .string glyphs → TextIfPaired glyphs)
        HasText :=
      Each.imp₂ (fun d spells _ => spells) (fun g spells paired => spells paired) textual keys
    exact spelt.imp₂ (fun d spells can => hasValue_of_describable spells can)
      (fun g text _ => text) each

/-- The keys of an object that stands in a text spell texts. -/
theorem hasText_of_mem {members : List (List Glyph × Document)}
    (textual : (Document.object members).Textual)
    (keys : (Document.object members).Each (fun _ => True) Paired) :
    ∀ m ∈ members, HasText m.1 := by
  rintro ⟨glyphs, value⟩ member
  exact (EachMember.of_mem textual member).1 (EachMember.of_mem keys member).1

/-- A section can be read if it can be described, or is an object whose settings
can be read. -/
theorem read_body_ok {p : Section} {value : Document} (textual : value.Textual)
    (keys : value.Each (fun _ => True) Paired) (describable : value.Describable)
    (unrepeated : p = .network → ∀ members, value = .object members →
      Unrepeated (fun key => (Setting.ofKey? key).isSome) members)
    (settings : p = .network → ∀ (s : Setting) inner, value.member? s.key = some inner →
      ∃ v, inner.read .setting 2 = .ok v) :
    ∃ v, value.read (.body p) 1 = .ok v := by
  cases value with
  | null => exact ⟨.null, rfl⟩
  | bool b => exact ⟨.bool b, rfl⟩
  | number f =>
      obtain ⟨n, known⟩ := describable
      exact ⟨_, (readAs_number rfl).mpr ⟨n, known, rfl⟩⟩
  | string glyphs =>
      obtain ⟨text, known⟩ := textual glyphs rfl describable
      exact ⟨_, (readAs_string rfl).mpr ⟨text, known, rfl⟩⟩
  | array elements =>
      obtain ⟨v, inside⟩ := readElements_skipped elements (.body p) rfl 2 []
      exact ⟨v, (readAs_array rfl).mpr ⟨by decide, inside⟩⟩
  | object members =>
      have distinct : Unrepeated (Slot.body p).unique members := by
        cases p with
        | network => exact unrepeated rfl members rfl
        | execution | storage =>
            exact List.pairwise_of_forall fun a b key unique => (nomatch unique)
      have inside : ∃ v, readMembers (.body p) 2 [] members = .ok v := by
        refine readMembers_ok rfl distinct (fun m _ key _ _ => rfl)
          (hasText_of_mem textual keys) ?_
        rintro ⟨glyphs, value⟩ member key text
        rcases Slot.member_body p key with skips | ⟨rfl, s, known, setting⟩
        · rw [skips]
          exact read_skipped value 2
        · rw [setting]
          refine settings rfl s value ?_
          rw [← Setting.key_of_ofKey? known]
          exact lookup?_of_mem distinct member text (by simp [Slot.unique, known])
      obtain ⟨v, inside⟩ := inside
      exact ⟨v, (readAs_object rfl).mpr ⟨by decide, inside⟩⟩

/-- An object can be read as a document if its sections can. -/
theorem read_root_ok {members : List (List Glyph × Document)}
    (textual : (Document.object members).Textual)
    (keys : (Document.object members).Each (fun _ => True) Paired)
    (unrepeated : Unrepeated (fun key => (Section.ofKey? key).isSome) members)
    (sections : ∀ (p : Section) value, lookup? p.key members = some value →
      ∃ v, value.read (.body p) 1 = .ok v) :
    ∃ v, (Document.object members).read .root 0 = .ok v := by
  have inside : ∃ v, readMembers .root 1 [] members = .ok v := by
    refine readMembers_ok rfl unrepeated (fun m _ key _ _ => rfl)
      (hasText_of_mem textual keys) ?_
    rintro ⟨glyphs, value⟩ member key text
    rcases Slot.member_outermost key with skips | ⟨p, known, body⟩
    · rw [skips]
      exact read_skipped value 1
    · rw [body]
      refine sections p value ?_
      rw [← Section.key_of_ofKey? known]
      exact lookup?_of_mem unrepeated member text (by simp [known])
  obtain ⟨v, inside⟩ := inside
  exact ⟨v, (readAs_object rfl).mpr ⟨by decide, inside⟩⟩

end Document

end NodeSettings
