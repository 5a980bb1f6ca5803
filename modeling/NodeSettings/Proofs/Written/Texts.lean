/-
# NodeSettings.Proofs.Written.Texts -- the strings of a written text

A document that stands in a text, in bytes that are UTF-8 throughout, has strings
that are UTF-8 each: every byte of the grammar is ASCII, and a text comes apart
at those (`spells_of_written`).  So its strings and keys spell texts as long as
their surrogates are paired (`keyText?_of_paired`).
-/
import NodeSettings.Proofs.Utf8
import NodeSettings.Proofs.Written.Items

namespace NodeSettings

open Text Utf8

set_option autoImplicit false

/-! ## All there is in a document -/

namespace Document

mutual

/-- Every scalar in a document is `leaf`, and every key is `key`. -/
def Each (leaf : Document → Prop) (key : List Glyph → Prop) : Document → Prop
  | .array elements => EachElement leaf key elements
  | .object members => EachMember leaf key members
  | scalar => leaf scalar

def EachElement (leaf : Document → Prop) (key : List Glyph → Prop) : List Document → Prop
  | [] => True
  | element :: rest => Each leaf key element ∧ EachElement leaf key rest

def EachMember (leaf : Document → Prop) (key : List Glyph → Prop) :
    List (List Glyph × Document) → Prop
  | [] => True
  | (glyphs, value) :: rest => key glyphs ∧ Each leaf key value ∧ EachMember leaf key rest

end

variable {leaf leaf' leaf'' : Document → Prop} {key key' key'' : List Glyph → Prop}

mutual

/-- Two things that are so everywhere give a third everywhere. -/
theorem Each.imp₂ (leaves : ∀ d, leaf d → leaf' d → leaf'' d)
    (keys : ∀ g, key g → key' g → key'' g) :
    ∀ {doc : Document}, doc.Each leaf key → doc.Each leaf' key' → doc.Each leaf'' key''
  | .array _, a, b => EachElement.imp₂ leaves keys a b
  | .object _, a, b => EachMember.imp₂ leaves keys a b
  | .null, a, b => leaves _ a b
  | .bool _, a, b => leaves _ a b
  | .number _, a, b => leaves _ a b
  | .string _, a, b => leaves _ a b

theorem EachElement.imp₂ (leaves : ∀ d, leaf d → leaf' d → leaf'' d)
    (keys : ∀ g, key g → key' g → key'' g) :
    ∀ {elements : List Document}, EachElement leaf key elements →
      EachElement leaf' key' elements → EachElement leaf'' key'' elements
  | [], _, _ => trivial
  | _ :: _, a, b => ⟨Each.imp₂ leaves keys a.1 b.1, EachElement.imp₂ leaves keys a.2 b.2⟩

theorem EachMember.imp₂ (leaves : ∀ d, leaf d → leaf' d → leaf'' d)
    (keys : ∀ g, key g → key' g → key'' g) :
    ∀ {members : List (List Glyph × Document)}, EachMember leaf key members →
      EachMember leaf' key' members → EachMember leaf'' key'' members
  | [], _, _ => trivial
  | (_, _) :: _, a, b =>
      ⟨keys _ a.1 b.1, Each.imp₂ leaves keys a.2.1 b.2.1, EachMember.imp₂ leaves keys a.2.2 b.2.2⟩

end

theorem EachMember.of_mem {members : List (List Glyph × Document)}
    (each : EachMember leaf key members) {glyphs : List Glyph} {value : Document}
    (member : (glyphs, value) ∈ members) : key glyphs ∧ value.Each leaf key := by
  induction members with
  | nil => cases member
  | cons head rest ih =>
      obtain ⟨here, value', others⟩ := each
      rcases List.mem_cons.mp member with rfl | later
      · exact ⟨here, value'⟩
      · exact ih others later

theorem mem_of_lookup? {name : String} {members : List (List Glyph × Document)}
    {value : Document} (found : lookup? name members = some value) :
    ∃ glyphs, (glyphs, value) ∈ members ∧ keyText? glyphs = some name := by
  obtain ⟨⟨glyphs, value'⟩, here, rfl⟩ := Option.map_eq_some_iff.mp found
  exact ⟨glyphs, List.mem_of_find?_eq_some here, by simpa using List.find?_some here⟩

theorem Each.member? {doc : Document} (each : doc.Each leaf key) {name : String}
    {value : Document} (found : doc.member? name = some value) : value.Each leaf key := by
  cases doc with
  | object members =>
      obtain ⟨glyphs, member, -⟩ := mem_of_lookup? found
      exact (EachMember.of_mem each member).2
  | _ => cases found

theorem Each.setting? {doc : Document} (each : doc.Each leaf key) {s : Setting}
    {value : Document} (found : doc.setting? s = some value) : value.Each leaf key := by
  obtain ⟨network, there, inside⟩ := Option.bind_eq_some_iff.mp found
  exact (each.member? there).member? inside

end Document

/-! ## Strings -/

/-- Surrogates stand in pairs only. -/
def Paired (glyphs : List Glyph) : Prop :=
  ∃ bytes, unescaped glyphs = .ok bytes

/-- A string spells a text if its surrogates are paired. -/
def TextIfPaired (glyphs : List Glyph) : Prop :=
  Paired glyphs → ∃ text, keyText? glyphs = some text

theorem paired_of_keyText? {glyphs : List Glyph} {text : String}
    (spelt : keyText? glyphs = some text) : Paired glyphs := by
  cases bytes : unescaped glyphs with
  | ok bytes' => exact ⟨bytes', bytes⟩
  | error m => simp [keyText?, glyphText, bytes, bind, Except.bind, Except.toOption] at spelt

theorem Letter.byte_ascii (l : Letter) : l.byte.toNat < 0x80 ∧ l.meaning.toNat < 0x80 := by
  cases l <;> decide

theorem HexFigure.byte_ascii (h : HexFigure) : h.byte.toNat < 0x80 := by
  obtain ⟨value, capital⟩ := h
  revert value capital
  decide

theorem except_map_eq_ok {ε α β : Type} {x : Except ε α} {f : α → β} {b : β}
    (h : x.map f = .ok b) : ∃ a, x = .ok a ∧ f a = b := by
  cases x with
  | ok a => exact ⟨a, rfl, Except.ok.inj h⟩
  | error e => cases h

/-- What glyphs that are UTF-8 spell is UTF-8, after whatever stands before. -/
theorem unescaped_spells {glyphs : List Glyph} {before bytes : Bytes}
    (spells : Spells (before ++ glyphBytes glyphs)) (spelt : unescaped glyphs = .ok bytes) :
    Spells (before ++ bytes) := by
  have slash : (ascii '\\').toNat < 0x80 := by decide
  have mark : (ascii 'u').toNat < 0x80 := by decide
  have code {before rest : Bytes} {a b c d : HexFigure}
      (spells : Spells (before ++ (Glyph.bytes (.code a b c d) ++ rest))) :
      Spells before ∧ Spells rest := by
    obtain ⟨left, right⟩ := Spells.split slash spells
    refine ⟨left, ?_⟩
    have digits : Plain [ascii 'u', a.byte, b.byte, c.byte, d.byte] := by
      simp [Plain, a.byte_ascii, b.byte_ascii, c.byte_ascii, d.byte_ascii, mark]
    exact Spells.after_ascii digits right
  fun_induction unescaped glyphs generalizing before bytes with
  | case1 =>
      cases spelt
      exact spells
  | case2 b alone rest ih =>
      obtain ⟨bytes', known, rfl⟩ := except_map_eq_ok spelt
      have whole : Spells ((before ++ [b]) ++ glyphBytes rest) := by
        simpa [glyphBytes, Glyph.bytes] using spells
      simpa using ih whole known
  | case3 l rest ih =>
      obtain ⟨bytes', known, rfl⟩ := except_map_eq_ok spelt
      have whole : Spells (before ++ ascii '\\' :: ([l.byte] ++ glyphBytes rest)) := by
        simpa [glyphBytes, Glyph.bytes] using spells
      obtain ⟨left, right⟩ := whole.split slash
      have tail : Spells ([] ++ glyphBytes rest) :=
        right.after_ascii (by simp [Plain, l.byte_ascii])
      exact left.append ((spells_ascii l.byte_ascii.2).append (ih tail known))
  | case4 => cases spelt
  | case5 a b c d high trailing leading a' b' c' d' rest low =>
      rename_i pair ih
      obtain ⟨bytes', known, rfl⟩ := except_map_eq_ok spelt
      obtain ⟨left, right⟩ := code spells
      have second : Spells ([] ++ (Glyph.bytes (.code a' b' c' d') ++ glyphBytes rest)) := right
      have tail : Spells ([] ++ glyphBytes rest) := (code second).2
      exact left.append ((spells_encodeChar _).append (ih tail known))
  | case6 => cases spelt
  | case7 => cases spelt
  | case8 a b c d rest high trailing leading =>
      rename_i ih
      obtain ⟨bytes', known, rfl⟩ := except_map_eq_ok spelt
      obtain ⟨left, right⟩ := code spells
      have tail : Spells ([] ++ glyphBytes rest) := right
      exact left.append ((spells_encodeChar _).append (ih tail known))

theorem textIfPaired {glyphs : List Glyph} (spells : Spells (glyphBytes glyphs)) :
    TextIfPaired glyphs := by
  rintro ⟨bytes, spelt⟩
  have whole : Spells ([] ++ glyphBytes glyphs) := spells
  obtain ⟨text, known⟩ := decode_of_spells (unescaped_spells whole spelt)
  refine ⟨text, ?_⟩
  simp only [List.nil_append] at known
  simp [keyText?, glyphText, spelt, spelledText, known, bind, Except.bind, Except.toOption]

/-! ## Everything else is ASCII -/

theorem Blank.plain {blank : Bytes} (isBlank : Blank blank) : Plain blank := by
  intro b member
  rcases isBlank_iff.mp (isBlank b member) with rfl | rfl | rfl | rfl <;> decide

theorem Lead.plain {place : Place} {lead : Bytes} (led : Lead place lead) : Plain lead := by
  cases led with
  | first => simp [Plain]
  | comma isBlank => exact isBlank.plain.append (by decide)

theorem plain_digits (digits : List Digit) : Plain (digits.map Digit.byte) := by
  intro b member
  obtain ⟨d, -, rfl⟩ := List.mem_map.mp member
  clear member
  revert d
  decide

theorem Figures.plain (f : Figures) : Plain f.bytes := by
  have whole : Plain f.wholeBytes := by
    refine Plain.append ?_ (plain_digits f.whole)
    cases f.negative <;> decide
  have fraction : Plain f.fractionBytes := by
    unfold fractionBytes
    split
    · simp [Plain]
    · have point : Plain [ascii '.'] := by decide
      exact point.append (plain_digits f.fraction)
  have power : Plain (f.power.elim [] Power.bytes) := by
    cases f.power with
    | none => simp [Plain]
    | some p =>
        have mark : Plain [p.mark] := by
          unfold Power.mark
          cases p.capital <;> decide
        have sign : Plain (p.sign.toList.map Sign.byte) := by
          cases p.sign with
          | none => simp [Plain]
          | some s => cases s <;> decide
        exact mark.append (sign.append (plain_digits p.digits))
  exact whole.append (fraction.append power)

/-! ## Documents -/

namespace Document

/-- Every string and key in a document spells a text if its surrogates are
paired. -/
def Textual : Document → Prop :=
  Each (fun d => ∀ glyphs, d = .string glyphs → TextIfPaired glyphs) TextIfPaired

end Document

theorem spells_quoted {glyphs : List Glyph} {rest : Bytes}
    (spells : Spells (inQuoteBytes glyphs ++ rest)) : TextIfPaired glyphs ∧ Spells rest := by
  have quote : (ascii '"').toNat < 0x80 := by decide
  have opened : Spells ([] ++ ascii '"' :: (glyphBytes glyphs ++ ascii '"' :: rest)) := by
    simpa [inQuoteBytes] using spells
  obtain ⟨inside, after⟩ := (opened.split quote).2.split quote
  exact ⟨textIfPaired inside, after⟩

mutual

/-- **The strings of a document that stands in a text spell texts**, and what
follows it is a text again. -/
theorem spells_of_written {doc : Document} {body : Bytes} (written : Written doc body)
    {rest : Bytes} (spells : Spells (body ++ rest)) : doc.Textual ∧ Spells rest := by
  have scalar {d : Document} (other : ∀ glyphs, d ≠ .string glyphs) :
      ∀ glyphs, d = .string glyphs → TextIfPaired glyphs :=
    fun glyphs same => absurd same (other glyphs)
  match written with
  | .null => exact ⟨scalar fun _ h => (nomatch h), spells.after_ascii (by decide)⟩
  | .yes => exact ⟨scalar fun _ h => (nomatch h), spells.after_ascii (by decide)⟩
  | .no => exact ⟨scalar fun _ h => (nomatch h), spells.after_ascii (by decide)⟩
  | .number f => exact ⟨scalar fun _ h => (nomatch h), spells.after_ascii f.plain⟩
  | .string glyphs =>
      obtain ⟨text, after⟩ := spells_quoted spells
      refine ⟨?_, after⟩
      rintro _ ⟨rfl⟩
      exact text
  | .array inside =>
      have opened : Spells ([ascii '['] ++ (_ ++ rest)) := spells
      exact spells_of_elements inside (opened.after_ascii (by decide))
  | .object inside =>
      have opened : Spells ([ascii '\x7b'] ++ (_ ++ rest)) := spells
      exact spells_of_members inside (opened.after_ascii (by decide))

theorem spells_of_elements {place : Place} {elements : List Document} {bytes : Bytes}
    (written : WrittenElements place elements bytes) {rest : Bytes}
    (spells : Spells (bytes ++ rest)) : (Document.array elements).Textual ∧ Spells rest := by
  match written with
  | .none _ isBlank =>
      exact ⟨trivial, spells.after_ascii (isBlank.plain.append (by decide))⟩
  | .more led isBlank first others =>
      rw [List.append_assoc, List.append_assoc, List.append_assoc] at spells
      have begun := (spells.after_ascii led.plain).after_ascii isBlank.plain
      obtain ⟨here, after⟩ := spells_of_written first begun
      obtain ⟨there, after⟩ := spells_of_elements others after
      exact ⟨⟨here, there⟩, after⟩

theorem spells_of_members {place : Place} {members : List (List Glyph × Document)} {bytes : Bytes}
    (written : WrittenMembers place members bytes) {rest : Bytes}
    (spells : Spells (bytes ++ rest)) : (Document.object members).Textual ∧ Spells rest := by
  match written with
  | .none _ isBlank =>
      exact ⟨trivial, spells.after_ascii (isBlank.plain.append (by decide))⟩
  | .more led blankBefore blankBetween blankAfter first others =>
      simp only [List.append_assoc, List.cons_append] at spells
      have named := (spells.after_ascii led.plain).after_ascii blankBefore.plain
      obtain ⟨key, after⟩ := spells_quoted named
      have colon : Spells ([ascii ':'] ++ _) := after.after_ascii blankBetween.plain
      have begun := (colon.after_ascii (by decide)).after_ascii blankAfter.plain
      obtain ⟨here, after⟩ := spells_of_written first begun
      obtain ⟨there, after⟩ := spells_of_members others after
      exact ⟨⟨key, here, there⟩, after⟩

end

theorem textual_of_begins {doc : Document} {text : String}
    (begins : doc.Begins (Utf8.encode text)) : doc.Textual := by
  obtain ⟨blank, body, rest, shape, isBlank, written, -⟩ := begins
  have spells := spells_encode text
  rw [shape] at spells
  exact (spells_of_written written (spells.after_ascii isBlank.plain)).1

end NodeSettings
