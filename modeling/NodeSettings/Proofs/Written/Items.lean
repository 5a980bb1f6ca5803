/-
# NodeSettings.Proofs.Written.Items -- what a written document says at its items

`Document.at?` says what stands at an item of a document as it is written, and
`Document.Mistyped` which items are of the wrong kind, on figures and glyphs
alone.  A document that is read agrees with its tree item by item
(`at?_rel`): what stands at an item of the tree is what stands there in the
document, read in the slot of the item.
-/
import NodeSettings.Proofs.Items
import NodeSettings.Proofs.Written.Reading

namespace NodeSettings

set_option autoImplicit false

/-- The text of a string or a key, if it spells one. -/
def keyText? (glyphs : List Glyph) : Option String :=
  (glyphText glyphs).toOption

namespace Document

/-! ## What stands at an item -/

/-- The value of the first member with this key. -/
def lookup? (key : String) (members : List (List Glyph × Document)) : Option Document :=
  (members.find? fun member => keyText? member.1 = some key).map Prod.snd

def member? (key : String) : Document → Option Document
  | .object members => lookup? key members
  | _ => none

def element? (index : Nat) : Document → Option Document
  | .array elements => elements[index]?
  | _ => none

def setting? (doc : Document) (s : Setting) : Option Document :=
  (doc.member? Section.network.key).bind (member? s.key)

def at? (doc : Document) : Item → Option Document
  | .root => some doc
  | .part p => doc.member? p.key
  | .setting s => doc.setting? s
  | .topic i => (doc.setting? .topics).bind (element? i)

def text? : Document → Option String
  | .string glyphs => keyText? glyphs
  | _ => none

/-- Only integer literals that fit 64 bits with sign are integers. -/
def integer? : Document → Option Int
  | .number figures => figures.integer64?
  | _ => none

/-- Whether a document is of a kind; null is of none. -/
def fits : Wanted → Document → Bool
  | .object, .object _ => true
  | .string, .string _ => true
  | .list, .array _ => true
  | .integer, doc => doc.integer?.isSome
  | _, _ => false

/-- What a message calls a document that stands where another kind was wanted. -/
def found? : Document → Option Found
  | .null => none
  | .bool value => some (.bool value)
  | .number figures => figures.number?.map .number
  | .string glyphs => (keyText? glyphs).map .string
  | .array _ => some .array
  | .object _ => some .object

def Mistyped (doc : Document) (item : Item) : Prop :=
  ∃ value, doc.at? item = some value ∧ value ≠ .null ∧ fits item.wanted value = false

end Document

/-! ## Members and elements that are kept -/

theorem Slot.kept_of_member {slot : Slot} {key : String} (kept : (slot.member key).kept = true) :
    slot.kept = true := by
  cases slot <;> first | rfl | exact kept

theorem Slot.kept_of_item {slot : Slot} (kept : slot.item.kept = true) : slot.kept = true := by
  cases slot <;> first | rfl | exact kept

namespace Document

/-- Reading in a slot, as a relation. -/
def ReadAs (slot : Slot) (depth : Nat) (doc : Document) (value : Json) : Prop :=
  doc.read slot depth = .ok value

theorem readKey_kept {slot : Slot} (kept : slot.kept = true) {members : List (String × Json)}
    {glyphs : List Glyph} {key : String} (read : readKey slot members glyphs = .ok key) :
    keyText? glyphs = some key := by
  simp only [readKey, kept, if_true] at read
  cases spelt : glyphText glyphs with
  | error m => simp [spelt, bind, Except.bind] at read
  | ok text =>
      simp only [spelt, mapError_ok, bind, Except.bind] at read
      split at read
      · cases read
      · cases read
        simp [keyText?, spelt, Except.toOption]

theorem bind_eq_ok {ε α β : Type} {x : Except ε α} {f : α → Except ε β} {b : β}
    (h : (x >>= f) = .ok b) : ∃ a, x = .ok a ∧ f a = .ok b := by
  cases x with
  | ok a => exact ⟨a, rfl, h⟩
  | error e => cases h

theorem lookup?_cons_of_eq {key : String} {glyphs : List Glyph} (text : keyText? glyphs = some key)
    (doc : Document) (rest : List (List Glyph × Document)) :
    lookup? key ((glyphs, doc) :: rest) = some doc := by
  simp [lookup?, text]

theorem lookup?_cons_of_ne {key : String} {glyphs : List Glyph}
    (other : keyText? glyphs ≠ some key) (doc : Document)
    (rest : List (List Glyph × Document)) :
    lookup? key ((glyphs, doc) :: rest) = lookup? key rest := by
  simp [lookup?, other]

/-- The members an object is read as, key by key: those of the kept keys stand
where they are written. -/
theorem readMembers_rel {slot : Slot} {depth : Nat} {list : List (List Glyph × Document)}
    {before : List (String × Json)} {value : Json}
    (read : readMembers slot depth before list = .ok value) :
    ∃ more, value = .object (before.reverse ++ more) ∧
      ∀ key, (slot.member key).kept = true →
        Option.Rel (ReadAs (slot.member key) depth) (lookup? key list) (more.lookup key) := by
  induction list generalizing before with
  | nil =>
      cases read
      exact ⟨[], by simp, fun key kept => .none⟩
  | cons member rest ih =>
      obtain ⟨glyphs, doc⟩ := member
      rw [readMembers] at read
      obtain ⟨name, named, read⟩ := bind_eq_ok read
      obtain ⟨v, readAs, read⟩ := bind_eq_ok read
      obtain ⟨more, rfl, agree⟩ := ih read
      cases kept : (slot.member name).kept with
      | true =>
          have text := readKey_kept (Slot.kept_of_member kept) named
          refine ⟨(name, v) :: more, by simp [addMember, kept], ?_⟩
          intro key wanted
          by_cases same : key = name
          · subst same
            rw [lookup?_cons_of_eq text, List.lookup_cons_self]
            exact .some readAs
          · have other : keyText? glyphs ≠ some key := by
              rw [text]
              simpa using fun h => same h.symm
            have skipped : (key == name) = false := by simpa using same
            rw [lookup?_cons_of_ne other, List.lookup_cons, skipped]
            exact agree key wanted
      | false =>
          refine ⟨more, by simp [addMember, kept], ?_⟩
          intro key wanted
          have other : keyText? glyphs ≠ some key := by
            rw [readKey_kept (Slot.kept_of_member wanted) named, ne_eq, Option.some.injEq]
            rintro rfl
            rw [kept] at wanted
            cases wanted
          rw [lookup?_cons_of_ne other]
          exact agree key wanted

theorem readElements_rel {slot : Slot} {depth : Nat} (kept : slot.item.kept = true)
    {elements : List Document} {items : List Json} {value : Json}
    (read : readElements slot depth items elements = .ok value) :
    ∃ more : List Json, value = .array (items.reverse ++ more) ∧
      more.length = elements.length ∧
        ∀ i : Nat, Option.Rel (ReadAs slot.item depth) elements[i]? more[i]? := by
  induction elements generalizing items with
  | nil =>
      cases read
      exact ⟨[], by simp, rfl, fun i => .none⟩
  | cons doc rest ih =>
      rw [readElements] at read
      obtain ⟨v, readAs, read⟩ := bind_eq_ok read
      obtain ⟨more, rfl, length, agree⟩ := ih read
      refine ⟨v :: more, by simp [addItem, kept], by simp [length], ?_⟩
      intro i
      cases i with
      | zero => exact .some readAs
      | succ i => exact agree i

/-! ## Documents of each kind -/

section Kept

variable {slot : Slot} {depth : Nat} {value : Json} (kept : slot.kept = true)

include kept

theorem readAs_number {figures : Figures} :
    ReadAs slot depth (.number figures) value ↔
      ∃ n, figures.number? = some n ∧ value = .number n := by
  simp only [ReadAs, read, readNumber, kept, if_true]
  cases figures.number? <;> simp [eq_comm]

theorem readAs_string {glyphs : List Glyph} :
    ReadAs slot depth (.string glyphs) value ↔
      ∃ text, keyText? glyphs = some text ∧ value = .string text := by
  simp only [ReadAs, read, readString, keyText?, kept, if_true]
  cases glyphText glyphs <;>
    simp [Except.toOption, bind, Except.bind, pure, Except.pure, eq_comm]

theorem readAs_array {elements : List Document} :
    ReadAs slot depth (.array elements) value ↔
      depth < maxDepth ∧ readElements slot (depth + 1) [] elements = .ok value := by
  simp only [ReadAs, read, kept, Bool.true_and, decide_eq_true_eq]
  by_cases deep : maxDepth ≤ depth
  · have full : ¬ depth < maxDepth := by omega
    simp [deep, full]
  · have room : depth < maxDepth := by omega
    simp [deep, room]

theorem readAs_object {members : List (List Glyph × Document)} :
    ReadAs slot depth (.object members) value ↔
      depth < maxDepth ∧ readMembers slot (depth + 1) [] members = .ok value := by
  simp only [ReadAs, read, kept, Bool.true_and, decide_eq_true_eq]
  by_cases deep : maxDepth ≤ depth
  · have full : ¬ depth < maxDepth := by omega
    simp [deep, full]
  · have room : depth < maxDepth := by omega
    simp [deep, room]

end Kept

theorem readElements_array {slot : Slot} {depth : Nat} {items : List Json}
    {elements : List Document} {value : Json}
    (read : readElements slot depth items elements = .ok value) : ∃ vs, value = .array vs := by
  induction elements generalizing items with
  | nil =>
      cases read
      exact ⟨_, rfl⟩
  | cons doc rest ih =>
      rw [readElements] at read
      obtain ⟨v, -, read⟩ := bind_eq_ok read
      exact ih read

theorem readMembers_object {slot : Slot} {depth : Nat} {before : List (String × Json)}
    {members : List (List Glyph × Document)} {value : Json}
    (read : readMembers slot depth before members = .ok value) : ∃ ms, value = .object ms :=
  have ⟨more, shape, _⟩ := readMembers_rel read
  ⟨before.reverse ++ more, shape⟩

/-- A document and a value of one kind, and the same if they are scalars. -/
inductive Alike : Document → Json → Prop where
  | null : Alike .null .null
  | bool (value : Bool) : Alike (.bool value) (.bool value)
  | number {figures : Figures} {n : Number} (known : figures.number? = some n) :
      Alike (.number figures) (.number n)
  | string {glyphs : List Glyph} {text : String} (known : keyText? glyphs = some text) :
      Alike (.string glyphs) (.string text)
  | array {elements : List Document} {values : List Json} :
      Alike (.array elements) (.array values)
  | object {members : List (List Glyph × Document)} {values : List (String × Json)} :
      Alike (.object members) (.object values)

namespace ReadAs

variable {slot : Slot} {depth : Nat} {doc : Document} {value : Json} (kept : slot.kept = true)
  (read : doc.ReadAs slot depth value)

include kept read

/-- What a document is read as is of its kind. -/
theorem alike : doc.Alike value := by
  cases doc with
  | null => cases read; exact .null
  | bool b => cases read; exact .bool b
  | number f =>
      obtain ⟨n, known, rfl⟩ := (readAs_number kept).mp read
      exact .number known
  | string glyphs =>
      obtain ⟨text, known, rfl⟩ := (readAs_string kept).mp read
      exact .string known
  | array elements =>
      obtain ⟨values, rfl⟩ := readElements_array ((readAs_array kept).mp read).2
      exact .array
  | object members =>
      obtain ⟨values, rfl⟩ := readMembers_object ((readAs_object kept).mp read).2
      exact .object

theorem found? : Found.of? value = doc.found? := by
  cases read.alike kept with
  | number known => simp [Found.of?, Document.found?, known]
  | string known => simp [Found.of?, Document.found?, known]
  | _ => rfl

theorem text? : value.text? = doc.text? := by
  cases read.alike kept with
  | string known => exact known.symm
  | _ => rfl

theorem integer? : value.int64?.map Int64.toInt = doc.integer? := by
  cases read.alike kept with
  | number known => exact Figures.int64?_number known
  | _ => rfl

theorem fits (wanted : Wanted) : wanted.admits value = Document.fits wanted doc := by
  have integer : value.int64?.isSome = doc.integer?.isSome := by
    rw [← read.integer? kept, Option.isSome_map]
  cases read.alike kept with
  | number known => cases wanted <;> first | rfl | exact integer
  | _ => cases wanted <;> rfl

theorem null_iff : value = .null ↔ doc = .null := by
  cases read.alike kept <;> simp

end ReadAs

/-! ## Items -/

theorem member?_rel {slot : Slot} {depth : Nat} {doc : Document} {value : Json} (key : String)
    (kept : (slot.member key).kept = true) (read : doc.ReadAs slot depth value) :
    Option.Rel (ReadAs (slot.member key) (depth + 1)) (doc.member? key) (value.member? key) := by
  have outer := Slot.kept_of_member kept
  cases read.alike outer with
  | object =>
      obtain ⟨more, same, agree⟩ := readMembers_rel ((readAs_object outer).mp read).2
      cases same
      exact agree key kept
  | _ => exact .none

theorem element?_rel {slot : Slot} {depth : Nat} {doc : Document} {value : Json} (index : Nat)
    (kept : slot.item.kept = true) (read : doc.ReadAs slot depth value) :
    Option.Rel (ReadAs slot.item (depth + 1)) (doc.element? index) (value.element? index) := by
  have outer := Slot.kept_of_item kept
  cases read.alike outer with
  | array =>
      obtain ⟨more, same, -, agree⟩ := readElements_rel kept ((readAs_array outer).mp read).2
      cases same
      exact agree index
  | _ => exact .none

end Document

namespace Item

/-- The slot an item is read in, and the number of containers around it. -/
def slot : Item → Slot
  | root => .root
  | part p => .body p
  | setting _ => .setting
  | topic _ => .setting

def depth : Item → Nat
  | root => 0
  | part _ => 1
  | setting _ => 2
  | topic _ => 3

theorem slot_kept (item : Item) : item.slot.kept = true := by
  cases item <;> rfl

end Item

theorem Slot.member_root (p : Section) : Slot.root.member p.key = .body p := by
  cases p <;> decide

theorem Slot.member_network (s : Setting) : (Slot.body .network).member s.key = .setting := by
  cases s <;> decide

theorem rel_refl {α : Type} {R : α → α → Prop} (refl : ∀ a, R a a) (a : Option α) :
    Option.Rel R a a := by
  cases a with
  | none => exact .none
  | some a => exact .some (refl a)

theorem rel_bind {α β γ δ : Type} {R : α → β → Prop} {S : γ → δ → Prop} {a : Option α}
    {b : Option β} {f : α → Option γ} {g : β → Option δ} (rel : Option.Rel R a b)
    (step : ∀ x y, R x y → Option.Rel S (f x) (g y)) : Option.Rel S (a.bind f) (b.bind g) := by
  cases rel with
  | none => exact .none
  | some related => exact step _ _ related

namespace Document

variable {doc : Document} {root : Json}

theorem setting?_rel (read : doc.ReadAs .root 0 root) (s : Setting) :
    Option.Rel (ReadAs .setting 2) (doc.setting? s) (root.setting? s) := by
  have network := member?_rel Section.network.key (by rw [Slot.member_root]; rfl) read
  rw [Slot.member_root] at network
  apply rel_bind network
  intro d v read
  have setting := member?_rel s.key (by rw [Slot.member_network]; rfl) read
  rwa [Slot.member_network] at setting

/-- **A document and the tree it is read as agree item by item.** -/
theorem at?_rel (read : doc.ReadAs .root 0 root) (item : Item) :
    Option.Rel (ReadAs item.slot item.depth) (doc.at? item) (root.at? item) := by
  cases item with
  | root => exact .some read
  | part p =>
      have rel := member?_rel p.key (by rw [Slot.member_root]; rfl) read
      rwa [Slot.member_root] at rel
  | setting s => exact setting?_rel read s
  | topic i =>
      apply rel_bind (setting?_rel read .topics)
      intro d v read
      exact element?_rel i rfl read

theorem mistyped_iff (read : doc.ReadAs .root 0 root) (item : Item) :
    root.Mistyped item ↔ doc.Mistyped item := by
  have rel := at?_rel read item
  unfold Json.Mistyped Mistyped
  cases stands : doc.at? item with
  | none =>
      rw [stands] at rel
      cases there : root.at? item with
      | none => simp
      | some v => rw [there] at rel; cases rel
  | some d =>
      rw [stands] at rel
      cases there : root.at? item with
      | none => rw [there] at rel; cases rel
      | some v =>
          rw [there] at rel
          cases rel with
          | some read =>
              simp [read.fits item.slot_kept, read.null_iff item.slot_kept]

end Document

end NodeSettings
