/-
# NodeSettings.Proofs.Written.Respelling -- one string, written in another way

A character of a string is written as its bytes, as a letter after a backslash, as
the code of four digits or as the codes of two surrogates (`WritesChar`).  Two
strings are respellings of each other if they write the same characters in any of
these ways (`Respelt`).  What is no character is written the same in both: a
surrogate that stands alone up to the letter case of its digits, a byte that is no
part of a character as it is.

Respellings spell the same text, or neither spells one (`keyText?_respelt`).  The
codes of surrogates are what makes this more than a character-by-character
comparison: a leading one asks what follows it, so the induction has to say of each
rest what it spells there, too (`unescapedAfter`).
-/
import NodeSettings.Proofs.Written.Texts

namespace NodeSettings

open Text

set_option autoImplicit false

/-! ## Respellings -/

/-- The ways to write a character. -/
inductive WritesChar (c : Char) : List Glyph → Prop where
  | plain (bytes : List { b : UInt8 // standsAlone b = true })
      (means : bytes.map Subtype.val = Utf8.encodeChar c) :
      WritesChar c (bytes.map fun b => .plain b.val b.property)
  | letter (l : Letter) (means : l.meaning.toNat = c.toNat) : WritesChar c [.letter l]
  | code (x y z w : HexFigure) (means : Glyph.codeOf x y z w = c.toNat) :
      WritesChar c [.code x y z w]
  | pair (x y z w x' y' z' w' : HexFigure)
      (leading : Spelling.isLeading (Glyph.codeOf x y z w) = true)
      (trailing : Spelling.isTrailing (Glyph.codeOf x' y' z' w') = true)
      (means : Spelling.paired (Glyph.codeOf x y z w) (Glyph.codeOf x' y' z' w') = c.toNat) :
      WritesChar c [.code x y z w, .code x' y' z' w']

/-- Two ways to write one string. -/
inductive Respelt : List Glyph → List Glyph → Prop where
  | nil : Respelt [] []
  | char {c : Char} {one other rest rest' : List Glyph} (left : WritesChar c one)
      (right : WritesChar c other) (onward : Respelt rest rest') :
      Respelt (one ++ rest) (other ++ rest')
  /-- A surrogate that is no half of a character, or any other code. -/
  | code {x y z w x' y' z' w' : HexFigure} {rest rest' : List Glyph}
      (same : Glyph.codeOf x y z w = Glyph.codeOf x' y' z' w') (onward : Respelt rest rest') :
      Respelt (.code x y z w :: rest) (.code x' y' z' w' :: rest')
  /-- A byte that is no part of a character, or any other byte. -/
  | byte (b : UInt8) (alone : standsAlone b = true) {rest rest' : List Glyph}
      (onward : Respelt rest rest') : Respelt (.plain b alone :: rest) (.plain b alone :: rest')

theorem Respelt.refl (glyphs : List Glyph) : Respelt glyphs glyphs := by
  induction glyphs with
  | nil => exact .nil
  | cons glyph rest ih =>
      cases glyph with
      | plain b alone => exact .byte b alone ih
      | code x y z w => exact .code rfl ih
      | letter l =>
          have means : l.meaning.toNat = (Char.ofNat l.meaning.toNat).toNat := by
            cases l <;> decide
          exact .char (.letter l means) (.letter l means) ih

theorem Respelt.append {first first' second second' : List Glyph}
    (front : Respelt first first') (back : Respelt second second') :
    Respelt (first ++ second) (first' ++ second') := by
  induction front with
  | nil => exact back
  | char left right onward ih =>
      rw [List.append_assoc, List.append_assoc]
      exact .char left right ih
  | code same onward ih => exact .code same ih
  | byte b alone onward ih => exact .byte b alone ih

/-! ## What glyphs spell after a leading surrogate -/

theorem not_trailing_of_leading {code : Nat} (leading : Spelling.isLeading code = true) :
    Spelling.isTrailing code = false := by
  simp only [Spelling.isLeading, Bool.and_eq_true, decide_eq_true_eq] at leading
  simp only [Spelling.isTrailing, Bool.and_eq_false_iff, decide_eq_false_iff_not]
  omega

/-- What glyphs spell after the code of a leading surrogate, together with it. -/
def unescapedAfter (high : Nat) : List Glyph → Except Malformation Bytes
  | .code x y z w :: rest =>
      if Spelling.isTrailing (Glyph.codeOf x y z w) then
        (unescaped rest).map
          (Utf8.encodeChar (Char.ofNat (Spelling.paired high (Glyph.codeOf x y z w))) ++ ·)
      else .error .loneSurrogate
  | _ => .error .cutSurrogate

theorem unescaped_code (x y z w : HexFigure) (rest : List Glyph) :
    unescaped (.code x y z w :: rest) =
      if Spelling.isTrailing (Glyph.codeOf x y z w) then .error .loneSurrogate
      else if Spelling.isLeading (Glyph.codeOf x y z w) then
        unescapedAfter (Glyph.codeOf x y z w) rest
      else (unescaped rest).map (Utf8.encodeChar (Char.ofNat (Glyph.codeOf x y z w)) ++ ·) := by
  cases rest with
  | nil => rfl
  | cons glyph rest => cases glyph <;> rfl

/-! ## One character -/

theorem map_map_append (x : Except Malformation Bytes) (first second : Bytes) :
    (x.map (second ++ ·)).map (first ++ ·) = x.map (first ++ second ++ ·) := by
  cases x with
  | ok bytes => exact congrArg Except.ok (List.append_assoc first second bytes).symm
  | error m => rfl

namespace WritesChar

variable {c : Char} {glyphs : List Glyph}

theorem unescaped_plain (bytes : List { b : UInt8 // standsAlone b = true })
    (rest : List Glyph) :
    unescaped (bytes.map (fun b => .plain b.val b.property) ++ rest) =
      (unescaped rest).map (bytes.map Subtype.val ++ ·) := by
  induction bytes with
  | nil => cases spelt : unescaped rest <;> simp [spelt, Except.map]
  | cons b bytes ih =>
      rw [List.map_cons, List.cons_append, unescaped, ih]
      exact map_map_append (unescaped rest) [b.val] (bytes.map Subtype.val)

/-- The code of a character is none of a surrogate. -/
theorem plain_code (c : Char) :
    Spelling.isTrailing c.toNat = false ∧ Spelling.isLeading c.toNat = false := by
  have valid := Utf8.code_valid c
  simp only [Spelling.isTrailing, Spelling.isLeading, Bool.and_eq_false_iff,
    decide_eq_false_iff_not]
  omega

/-- **However a character is written, its bytes are spelt.** -/
theorem unescaped_append (writes : WritesChar c glyphs) (rest : List Glyph) :
    unescaped (glyphs ++ rest) = (unescaped rest).map (Utf8.encodeChar c ++ ·) := by
  obtain ⟨noTrailing, noLeading⟩ := plain_code c
  cases writes with
  | plain bytes means => rw [unescaped_plain, means]
  | letter l means =>
      have bytes : Utf8.encodeChar c = [l.meaning] := by
        have small := l.byte_ascii.2
        simp only [Utf8.encodeChar, ← means, small, if_true, Nat.toUInt8_eq, UInt8.ofNat_toNat]
      rw [bytes]
      rfl
  | code x y z w means =>
      rw [List.cons_append, List.nil_append, unescaped_code, means, noTrailing, noLeading,
        Char.ofNat_toNat]
      rfl
  | pair x y z w x' y' z' w' leading trailing means =>
      have high := not_trailing_of_leading leading
      rw [List.cons_append, unescaped_code, high, leading]
      simp only [Bool.false_eq_true, if_false, if_true, List.cons_append, List.nil_append,
        unescapedAfter, trailing, means, Char.ofNat_toNat]

/-- No character may follow a leading surrogate. -/
theorem unescapedAfter_append (writes : WritesChar c glyphs) (high : Nat) (rest : List Glyph) :
    ∃ m, unescapedAfter high (glyphs ++ rest) = .error m := by
  obtain ⟨noTrailing, -⟩ := plain_code c
  cases writes with
  | plain bytes means =>
      cases bytes with
      | nil =>
          have empty : Utf8.encodeChar c = [] := means.symm
          simp only [Utf8.encodeChar] at empty
          repeat' split at empty
          all_goals cases empty
      | cons b bytes => exact ⟨_, rfl⟩
  | letter l means => exact ⟨_, rfl⟩
  | code x y z w means =>
      rw [List.cons_append, unescapedAfter, means, noTrailing]
      exact ⟨_, rfl⟩
  | pair x y z w x' y' z' w' leading trailing means =>
      have high := not_trailing_of_leading leading
      rw [List.cons_append, unescapedAfter, high]
      exact ⟨_, rfl⟩

end WritesChar

/-! ## Whole strings -/

theorem toOption_map {ε α β : Type} (x : Except ε α) (f : α → β) :
    (x.map f).toOption = x.toOption.map f := by
  cases x <;> rfl

/-- **Respellings spell the same bytes, or neither spells any**, and so they do after
a leading surrogate. -/
theorem unescaped_respelt {glyphs others : List Glyph} (respelt : Respelt glyphs others) :
    (unescaped glyphs).toOption = (unescaped others).toOption ∧
      ∀ high, (unescapedAfter high glyphs).toOption = (unescapedAfter high others).toOption := by
  induction respelt with
  | nil => exact ⟨rfl, fun high => rfl⟩
  | char left right onward ih =>
      refine ⟨?_, fun high => ?_⟩
      · rw [left.unescaped_append, right.unescaped_append, toOption_map, toOption_map, ih.1]
      · -- A leading surrogate is not answered by a character, whatever its bytes are.
        obtain ⟨m, failed⟩ := left.unescapedAfter_append high _
        obtain ⟨m', failed'⟩ := right.unescapedAfter_append high _
        rw [failed, failed']
        rfl
  | code same onward ih =>
      -- Both codes are trailing, or both leading, or neither is a surrogate.
      refine ⟨?_, fun high => ?_⟩
      · rw [unescaped_code, unescaped_code, same]
        split
        · rfl
        split
        · exact ih.2 _
        · rw [toOption_map, toOption_map, ih.1]
      · rw [unescapedAfter, unescapedAfter, same]
        split
        · rw [toOption_map, toOption_map, ih.1]
        · rfl
  | byte b alone onward ih =>
      refine ⟨?_, fun high => rfl⟩
      rw [unescaped, unescaped, toOption_map, toOption_map, ih.1]

theorem keyText?_eq (glyphs : List Glyph) :
    keyText? glyphs = (unescaped glyphs).toOption.bind fun bytes =>
      (spelledText bytes).toOption := by
  rw [keyText?, glyphText]
  cases unescaped glyphs <;> rfl

/-- **Respellings spell the same text**, or neither spells one. -/
theorem keyText?_respelt {glyphs others : List Glyph} (respelt : Respelt glyphs others) :
    keyText? glyphs = keyText? others := by
  rw [keyText?_eq, keyText?_eq, (unescaped_respelt respelt).1]

end NodeSettings
