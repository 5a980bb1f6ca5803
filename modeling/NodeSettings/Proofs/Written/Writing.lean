/-
# NodeSettings.Proofs.Written.Writing -- how texts and integers are written

A text is written character by character, each in any of its ways (`WritesText`),
and the glyphs spell that text and no other (`keyText?_of_writes`).  Every text can
be written: each character has its code, or the codes of two surrogates.

An integer is written in the figures that denote it (`Figures.integer?`), without a
needless zero or sign.  Every integer has such figures (`exists_integer?`), and as
far as they fit 64 bits they are read as that integer
(`number?_of_integer?`).
-/
import NodeSettings.Proofs.Written.Recognition
import NodeSettings.Proofs.Written.Respelling

namespace NodeSettings

open Text

set_option autoImplicit false

/-! ## Texts -/

/-- The ways to write a text, one character after the other. -/
inductive WritesText : List Char → List Glyph → Prop where
  | nil : WritesText [] []
  | cons {c : Char} {chars : List Char} {glyphs rest : List Glyph} (first : WritesChar c glyphs)
      (onward : WritesText chars rest) : WritesText (c :: chars) (glyphs ++ rest)

theorem unescaped_of_writes {chars : List Char} {glyphs : List Glyph}
    (writes : WritesText chars glyphs) :
    unescaped glyphs = .ok (chars.flatMap Utf8.encodeChar) := by
  induction writes with
  | nil => rfl
  | cons first onward ih =>
      rw [first.unescaped_append, ih, List.flatMap_cons]
      rfl

/-- **However a text is written, that text is spelt.** -/
theorem keyText?_of_writes {text : String} {glyphs : List Glyph}
    (writes : WritesText text.toList glyphs) : keyText? glyphs = some text := by
  rw [keyText?_eq, unescaped_of_writes writes]
  show (spelledText (text.toList.flatMap Utf8.encodeChar)).toOption = some text
  rw [spelledText, Utf8.decode_chars, String.ofList_toList]
  rfl

/-! ### Writing with codes -/

/-- Four hexadecimal digits for a code. -/
theorem exists_codeOf {n : Nat} (small : n < 0x10000) :
    ∃ x y z w : HexFigure, Glyph.codeOf x y z w = n := by
  let figure (n : Nat) : HexFigure := ⟨Fin.ofNat 16 n, false⟩
  refine ⟨figure (n / 4096), figure (n / 256), figure (n / 16), figure n, ?_⟩
  simp only [figure, Glyph.codeOf, Fin.val_ofNat]
  omega

/-- The codes of two surrogates for a code past the four digits. -/
theorem exists_pair {n : Nat} (low : 0x10000 ≤ n) (high : n < 0x110000) :
    ∃ leading < 0x10000, ∃ trailing < 0x10000, Spelling.isLeading leading = true ∧
      Spelling.isTrailing trailing = true ∧ Spelling.paired leading trailing = n := by
  refine ⟨0xD800 + (n - 0x10000) / 0x400, by omega, 0xDC00 + (n - 0x10000) % 0x400, by omega,
    ?_, ?_, ?_⟩
  · simp only [Spelling.isLeading, Bool.and_eq_true, decide_eq_true_eq]
    omega
  · simp only [Spelling.isTrailing, Bool.and_eq_true, decide_eq_true_eq]
    omega
  · unfold Spelling.paired
    omega

theorem exists_writesChar (c : Char) : ∃ glyphs, WritesChar c glyphs := by
  have valid := Utf8.code_valid c
  by_cases small : c.toNat < 0x10000
  · obtain ⟨x, y, z, w, means⟩ := exists_codeOf small
    exact ⟨_, .code x y z w means⟩
  · obtain ⟨leading, small, trailing, small', isLeading, isTrailing, means⟩ :=
      @exists_pair c.toNat (by omega) (by omega)
    obtain ⟨x, y, z, w, rfl⟩ := exists_codeOf small
    obtain ⟨x', y', z', w', rfl⟩ := exists_codeOf small'
    exact ⟨_, .pair x y z w x' y' z' w' isLeading isTrailing means⟩

theorem exists_writesText (text : String) : ∃ glyphs, WritesText text.toList glyphs := by
  induction text.toList with
  | nil => exact ⟨[], .nil⟩
  | cons c chars ih =>
      obtain ⟨first, writes⟩ := exists_writesChar c
      obtain ⟨rest, onward⟩ := ih
      exact ⟨first ++ rest, .cons writes onward⟩

/-! ## Integers -/

theorem digitsFrom_append (n : Nat) (first rest : List Digit) :
    digitsFrom n (first ++ rest) = digitsFrom (digitsFrom n first) rest :=
  List.foldl_append

/-- Every number has digits, of which the first is zero only if it stands alone. -/
theorem exists_wholeDigits (n : Nat) : ∃ digits : List Digit, digitsFrom 0 digits = n ∧
    (digits = [0] ∨ ∃ d rest, digits = d :: rest ∧ d ≠ 0) := by
  induction n using Nat.strongRecOn with
  | _ n ih =>
      by_cases single : n < 10
      · refine ⟨[⟨n, single⟩], by simp [digitsFrom], ?_⟩
        by_cases zero : n = 0
        · exact .inl (by simp [zero])
        · exact .inr ⟨⟨n, single⟩, [], rfl, by simpa [Fin.ext_iff] using zero⟩
      · obtain ⟨digits, value, plain⟩ := ih (n / 10) (by omega)
        refine ⟨digits ++ [.ofNat n], ?_, .inr ?_⟩
        · rw [digitsFrom_append, value]
          show n / 10 * 10 + n % 10 = n
          omega
        · rcases plain with rfl | ⟨d, rest, rfl, nonzero⟩
          · have none : n / 10 = 0 := value.symm
            omega
          · exact ⟨d, rest ++ [.ofNat n], rfl, nonzero⟩

namespace Figures

/-- **Every integer can be written.** -/
theorem exists_integer? (n : Int) : ∃ f : Figures, f.integer? = some n := by
  obtain ⟨digits, value, plain⟩ := exists_wholeDigits n.natAbs
  refine ⟨⟨decide (n < 0), digits, [], none, plain⟩, integer?_eq_some.mpr ⟨rfl, rfl, ?_, ?_⟩⟩
  · simp only [decide_eq_true_eq, value]
    omega
  · simp only [value, decide_eq_true_eq]
    split <;> omega

/-- Within 64 bits an integer is read as what it is. -/
theorem number?_of_integer? {f : Figures} {n : Int} (denotes : f.integer? = some n)
    (low : -9223372036854775808 ≤ n) (high : n ≤ 18446744073709551615) :
    f.number? = some (.integer n) := by
  obtain ⟨-, plain, -⟩ := integer?_eq_some.mp denotes
  have numeral : f.numeral.integer? = some n :=
    integer?_numeral.mpr ⟨denotes, low, high⟩
  rw [number?, overflows_of_plain plain, if_neg Bool.false_ne_true, Numeral.number?, numeral]

end Figures

end NodeSettings
