/-
# NodeSettings.Proofs.Written.Document -- documents as they are written

A `Document` is a document before anything is made of it: numbers are their
figures, strings and keys their glyphs, and the members of an object stand in the
order of the text, repeated keys included.  `Written` says which bytes write a
document, with white space wherever it may stand; it is the grammar of the
format, and knows nothing of a reader.

`Document.Begins` says that a text starts with a document, whatever follows it.
A number has no end of its own, so what follows one must not go on with it.
-/
import NodeSettings.Proofs.Written.Figures
import NodeSettings.Proofs.Written.Glyphs
import NodeSettings.Reader.Phase

namespace NodeSettings

open Text

set_option autoImplicit false

inductive Document where
  | null
  | bool (value : Bool)
  | number (figures : Figures)
  | string (glyphs : List Glyph)
  | array (elements : List Document)
  | object (members : List (List Glyph × Document))

/-! ## The grammar -/

def Blank (bytes : Bytes) : Prop :=
  ∀ b ∈ bytes, isBlank b = true

/-- What stands before an element or a member: nothing before the first, a comma
before the others. -/
inductive Lead : Place → Bytes → Prop where
  | first : Lead .first []
  | comma {blank : Bytes} (isBlank : Blank blank) : Lead .next (blank ++ [ascii ','])

mutual

inductive Written : Document → Bytes → Prop where
  | null : Written .null [ascii 'n', ascii 'u', ascii 'l', ascii 'l']
  | yes : Written (.bool true) [ascii 't', ascii 'r', ascii 'u', ascii 'e']
  | no : Written (.bool false) [ascii 'f', ascii 'a', ascii 'l', ascii 's', ascii 'e']
  | number (figures : Figures) : Written (.number figures) figures.bytes
  | string (glyphs : List Glyph) : Written (.string glyphs) (inQuoteBytes glyphs)
  | array {elements : List Document} {bytes : Bytes}
      (inside : WrittenElements .first elements bytes) :
      Written (.array elements) (ascii '[' :: bytes)
  | object {members : List (List Glyph × Document)} {bytes : Bytes}
      (inside : WrittenMembers .first members bytes) :
      Written (.object members) (ascii '\x7b' :: bytes)

/-- What follows in an array, up to its closing bracket. -/
inductive WrittenElements : Place → List Document → Bytes → Prop where
  | none {place : Place} {blank : Bytes} (complete : place ≠ .comma) (isBlank : Blank blank) :
      WrittenElements place [] (blank ++ [ascii ']'])
  | more {place : Place} {lead blank body tail : Bytes} {element : Document}
      {rest : List Document} (led : Lead place lead) (isBlank : Blank blank)
      (first : Written element body) (others : WrittenElements .next rest tail) :
      WrittenElements place (element :: rest) (lead ++ (blank ++ (body ++ tail)))

/-- What follows in an object, up to its closing bracket. -/
inductive WrittenMembers : Place → List (List Glyph × Document) → Bytes → Prop where
  | none {place : Place} {blank : Bytes} (complete : place ≠ .comma) (isBlank : Blank blank) :
      WrittenMembers place [] (blank ++ [ascii '\x7d'])
  | more {place : Place} {lead before between after body tail : Bytes} {key : List Glyph}
      {value : Document} {rest : List (List Glyph × Document)} (led : Lead place lead)
      (blankBefore : Blank before) (blankBetween : Blank between) (blankAfter : Blank after)
      (first : Written value body) (others : WrittenMembers .next rest tail) :
      WrittenMembers place ((key, value) :: rest)
        (lead ++ (before ++ (inQuoteBytes key ++
          (between ++ (ascii ':' :: (after ++ (body ++ tail)))))))

end

namespace Document

/-- Whether what follows a document is no part of it. -/
def Apart : Document → Bytes → Prop
  | .number figures, b :: _ => figures.goesOn b = false
  | _, _ => True

/-- The text starts with this document, after white space. -/
def Begins (doc : Document) (text : Bytes) : Prop :=
  ∃ blank body rest, text = blank ++ (body ++ rest) ∧ Blank blank ∧ Written doc body ∧
    doc.Apart rest

end Document

/-! ## Writing -/

def Place.leadBytes : Place → Bytes
  | .next => [ascii ',']
  | .first | .comma => []

namespace Document

mutual

/-- A document without any white space. -/
def compact : Document → Bytes
  | .null => [ascii 'n', ascii 'u', ascii 'l', ascii 'l']
  | .bool true => [ascii 't', ascii 'r', ascii 'u', ascii 'e']
  | .bool false => [ascii 'f', ascii 'a', ascii 'l', ascii 's', ascii 'e']
  | .number figures => figures.bytes
  | .string glyphs => inQuoteBytes glyphs
  | .array elements => ascii '[' :: compactElements .first elements
  | .object members => ascii '\x7b' :: compactMembers .first members

def compactElements : Place → List Document → Bytes
  | _, [] => [ascii ']']
  | place, element :: rest => place.leadBytes ++ (compact element ++ compactElements .next rest)

def compactMembers : Place → List (List Glyph × Document) → Bytes
  | _, [] => [ascii '\x7d']
  | place, (key, value) :: rest =>
      place.leadBytes ++ (inQuoteBytes key ++ (ascii ':' :: (compact value ++
        compactMembers .next rest)))

end

end Document

theorem blank_nil : Blank [] := by
  simp [Blank]

theorem lead_leadBytes {place : Place} (complete : place ≠ .comma) :
    Lead place place.leadBytes := by
  cases place with
  | first => exact .first
  | next => exact .comma blank_nil
  | comma => exact absurd rfl complete

mutual

/-- **Every document can be written.** -/
theorem written_compact : ∀ doc : Document, Written doc doc.compact
  | .null => .null
  | .bool true => .yes
  | .bool false => .no
  | .number figures => .number figures
  | .string glyphs => .string glyphs
  | .array elements => .array (writtenElements_compact elements .first (by decide))
  | .object members => .object (writtenMembers_compact members .first (by decide))

theorem writtenElements_compact : ∀ (elements : List Document) (place : Place),
    place ≠ .comma → WrittenElements place elements (Document.compactElements place elements)
  | [], _, complete => .none complete blank_nil
  | element :: rest, _, complete =>
      .more (lead_leadBytes complete) blank_nil (written_compact element)
        (writtenElements_compact rest .next (by decide))

theorem writtenMembers_compact : ∀ (members : List (List Glyph × Document)) (place : Place),
    place ≠ .comma → WrittenMembers place members (Document.compactMembers place members)
  | [], _, complete => .none complete blank_nil
  | (_, value) :: rest, _, complete =>
      .more (lead_leadBytes complete) blank_nil blank_nil blank_nil (written_compact value)
        (writtenMembers_compact rest .next (by decide))

end

theorem Document.begins_compact (doc : Document) : doc.Begins doc.compact := by
  refine ⟨[], doc.compact, [], ?_, blank_nil, written_compact doc, ?_⟩
  · rw [List.append_nil, List.nil_append]
  · cases doc <;> exact trivial

/-! ## Neighbouring bytes -/

/-- The bytes that may follow a value within a container. -/
def Stopper (b : UInt8) : Prop :=
  isBlank b = true ∨ b = ascii ',' ∨ b = ascii ']' ∨ b = ascii '\x7d'

/-- The bytes a value begins with. -/
def Opener (b : UInt8) : Prop :=
  b = ascii 'n' ∨ b = ascii 't' ∨ b = ascii 'f' ∨ b = ascii '-' ∨ (digit? b).isSome = true ∨
    b = ascii '"' ∨ b = ascii '[' ∨ b = ascii '\x7b'

theorem isBlank_iff {b : UInt8} :
    isBlank b = true ↔ b = 0x20 ∨ b = 0x09 ∨ b = 0x0A ∨ b = 0x0D := by
  simp [isBlank, or_assoc]

theorem Stopper.apart {b : UInt8} (stopper : Stopper b) (figures : Figures) :
    figures.goesOn b = false := by
  have noDigit : digit? b = none := by
    rcases stopper with blank | rfl | rfl | rfl
    · rcases isBlank_iff.mp blank with rfl | rfl | rfl | rfl <;> decide
    all_goals decide
  have noMark : b ≠ ascii 'e' ∧ b ≠ ascii 'E' ∧ b ≠ ascii '.' := by
    rcases stopper with blank | rfl | rfl | rfl
    · rcases isBlank_iff.mp blank with rfl | rfl | rfl | rfl <;> decide
    all_goals decide
  simp [Figures.goesOn, noDigit, noMark.1, noMark.2.1, noMark.2.2]

theorem Opener.plain {b : UInt8} (opener : Opener b) :
    isBlank b = false ∧ b ≠ ascii ']' ∧ b ≠ ascii '\x7d' := by
  rcases opener with rfl | rfl | rfl | rfl | digit | rfl | rfl | rfl
  case inr.inr.inr.inr.inl =>
    obtain ⟨n, known⟩ := Option.isSome_iff_exists.mp digit
    obtain ⟨d, rfl, -⟩ := byte_of_digit? known
    clear digit known
    revert d
    decide
  all_goals decide

theorem Written.opener {doc : Document} {body : Bytes} (written : Written doc body) :
    ∃ b rest, body = b :: rest ∧ Opener b := by
  cases written with
  | number f =>
      obtain ⟨b, rest, shape, first⟩ := f.bytes_first
      refine ⟨b, rest, shape, ?_⟩
      rcases first with rfl | digit
      · simp [Opener]
      · simp [Opener, digit]
  | _ => exact ⟨_, _, rfl, by simp [Opener]⟩

theorem Blank.stopper {blank : Bytes} {b : UInt8} (isBlank : Blank blank) (stopper : Stopper b)
    (more : Bytes) : ∃ c rest, blank ++ b :: more = c :: rest ∧ Stopper c := by
  cases blank with
  | nil => exact ⟨b, more, rfl, stopper⟩
  | cons c rest => exact ⟨c, _, rfl, .inl (isBlank c (by simp))⟩

theorem Lead.stopper {lead : Bytes} (led : Lead .next lead) (more : Bytes) :
    ∃ b rest, lead ++ more = b :: rest ∧ Stopper b := by
  cases led with
  | comma isBlank =>
      rw [List.append_assoc]
      exact isBlank.stopper (by simp [Stopper]) more

theorem WrittenElements.stopper {elements : List Document} {bytes : Bytes}
    (written : WrittenElements .next elements bytes) : ∃ b rest, bytes = b :: rest ∧ Stopper b := by
  cases written with
  | none _ isBlank => exact isBlank.stopper (by simp [Stopper]) []
  | more led => exact led.stopper _

theorem WrittenMembers.stopper {members : List (List Glyph × Document)} {bytes : Bytes}
    (written : WrittenMembers .next members bytes) : ∃ b rest, bytes = b :: rest ∧ Stopper b := by
  cases written with
  | none _ isBlank => exact isBlank.stopper (by simp [Stopper]) []
  | more led => exact led.stopper _

end NodeSettings
