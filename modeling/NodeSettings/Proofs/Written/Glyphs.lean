/-
# NodeSettings.Proofs.Written.Glyphs -- strings as they are written

A string between its quotes is a list of glyphs: a byte that stands for itself, a
letter after a backslash, or a code of four hexadecimal digits.  `unescaped` is
what the glyphs spell: codes of surrogates must come in pairs, each pair spelling
one character; `glyphText` reads that as text.

A spelling takes glyphs the same way.  One that is strict closes on what the
glyphs spell, or meets what is wrong with them (`takes_strict`); one that is not
always closes (`takes_lax`).
-/
import NodeSettings.Reader.Spelling

namespace NodeSettings

open Text

set_option autoImplicit false

/-! ## Glyphs -/

/-- What may follow a backslash, by what it stands for. -/
inductive Letter where
  | quote
  | backslash
  | slash
  | backspace
  | formFeed
  | lineFeed
  | carriageReturn
  | tab
deriving DecidableEq, Repr

namespace Letter

def byte : Letter → UInt8
  | quote => ascii '"'
  | backslash => ascii '\\'
  | slash => ascii '/'
  | backspace => ascii 'b'
  | formFeed => ascii 'f'
  | lineFeed => ascii 'n'
  | carriageReturn => ascii 'r'
  | tab => ascii 't'

def meaning : Letter → UInt8
  | quote => 0x22
  | backslash => 0x5C
  | slash => 0x2F
  | backspace => 0x08
  | formFeed => 0x0C
  | lineFeed => 0x0A
  | carriageReturn => 0x0D
  | tab => 0x09

end Letter

/-- A hexadecimal digit; only the ones past nine tell capitals apart. -/
structure HexFigure where
  value : Fin 16
  capital : Bool
deriving DecidableEq, Repr

def HexFigure.byte (h : HexFigure) : UInt8 :=
  if h.value.val < 10 then (0x30 + h.value.val).toUInt8
  else ((if h.capital then 0x41 else 0x61) + (h.value.val - 10)).toUInt8

/-- The bytes that stand for themselves within a string: no quote, no backslash
and no control character. -/
def standsAlone (b : UInt8) : Bool :=
  b ≠ ascii '"' && b ≠ ascii '\\' && 0x20 ≤ b

inductive Glyph where
  | plain (b : UInt8) (alone : standsAlone b = true)
  | letter (l : Letter)
  | code (a b c d : HexFigure)
deriving DecidableEq

namespace Glyph

def bytes : Glyph → Bytes
  | plain b _ => [b]
  | letter l => [ascii '\\', l.byte]
  | code a b c d => [ascii '\\', ascii 'u', a.byte, b.byte, c.byte, d.byte]

/-- The number four hexadecimal digits spell. -/
def codeOf (a b c d : HexFigure) : Nat :=
  ((a.value.val * 16 + b.value.val) * 16 + c.value.val) * 16 + d.value.val

end Glyph

def glyphBytes (glyphs : List Glyph) : Bytes :=
  glyphs.flatMap Glyph.bytes

/-- A string with its quotes. -/
def inQuoteBytes (glyphs : List Glyph) : Bytes :=
  ascii '"' :: (glyphBytes glyphs ++ [ascii '"'])

/-- The bytes glyphs spell.  The code of a leading surrogate has to be followed at
once by that of a trailing one, and the code of a trailing one stands nowhere
else. -/
def unescaped : List Glyph → Except Malformation Bytes
  | [] => .ok []
  | .plain b _ :: rest => (unescaped rest).map (b :: ·)
  | .letter l :: rest => (unescaped rest).map (l.meaning :: ·)
  | .code a b c d :: rest =>
      let high := Glyph.codeOf a b c d
      if Spelling.isTrailing high then .error .loneSurrogate
      else if Spelling.isLeading high then
        match rest with
        | .code a b c d :: rest =>
            let low := Glyph.codeOf a b c d
            if Spelling.isTrailing low then
              (unescaped rest).map (Utf8.encodeChar (Char.ofNat (Spelling.paired high low)) ++ ·)
            else .error .loneSurrogate
        | _ => .error .cutSurrogate
      else (unescaped rest).map (Utf8.encodeChar (Char.ofNat high) ++ ·)

/-- The text glyphs spell. -/
def glyphText (glyphs : List Glyph) : Except Malformation String := do
  let bytes ← unescaped glyphs
  spelledText bytes

/-! ## Taking glyphs -/

namespace Spelling

/-- What a run of bytes makes of a string, and what is left of the run. -/
def takes (strict : Bool) : Spelling → Bytes → Spelled × Bytes
  | s, [] => (.more s, [])
  | s, b :: rest =>
      match s.take strict b with
      | .more s => takes strict s rest
      | ended => (ended, rest)

end Spelling

/-- Go on with a run of bytes where one byte left a string. -/
def Spelled.onto (strict : Bool) : Spelled → Bytes → Spelled × Bytes
  | .more s, rest => s.takes strict rest
  | ended, rest => (ended, rest)

theorem hexDigit?_byte (h : HexFigure) : hexDigit? h.byte = some h.value.val := by
  obtain ⟨value, capital⟩ := h
  revert value capital
  decide

theorem hexFigure_of_hexDigit? {b : UInt8} {n : Nat} (digit : hexDigit? b = some n) :
    ∃ h : HexFigure, h.byte = b := by
  unfold hexDigit? at digit
  simp only [UInt8.le_iff_toNat_le, UInt8.reduceToNat] at digit
  split at digit
  · refine ⟨⟨⟨b.toNat - 0x30, by omega⟩, false⟩, ?_⟩
    rw [HexFigure.byte, if_pos (by simp only; omega)]
    simp only [show 0x30 + (b.toNat - 0x30) = b.toNat by omega, Nat.toUInt8_eq,
      UInt8.ofNat_toNat]
  · split at digit
    · refine ⟨⟨⟨b.toNat - 0x41 + 10, by omega⟩, true⟩, ?_⟩
      rw [HexFigure.byte, if_neg (by simp only; omega)]
      simp only [if_true, show 0x41 + (b.toNat - 0x41 + 10 - 10) = b.toNat by omega,
        Nat.toUInt8_eq, UInt8.ofNat_toNat]
    · split at digit
      · refine ⟨⟨⟨b.toNat - 0x61 + 10, by omega⟩, false⟩, ?_⟩
        rw [HexFigure.byte, if_neg (by simp only; omega)]
        simp only [Bool.false_eq_true, if_false,
          show 0x61 + (b.toNat - 0x61 + 10 - 10) = b.toNat by omega, Nat.toUInt8_eq,
          UInt8.ofNat_toNat]
      · cases digit

theorem letterByte?_byte (l : Letter) : Spelling.letterByte? l.byte = some l.meaning := by
  cases l <;> decide

theorem letter_of_letterByte? {b m : UInt8} (named : Spelling.letterByte? b = some m) :
    ∃ l : Letter, l.byte = b ∧ l.meaning = m := by
  unfold Spelling.letterByte? at named
  split at named
  · rename_i self
    cases named
    rcases self with rfl | rfl | rfl
    · exact ⟨.quote, rfl, rfl⟩
    · exact ⟨.backslash, rfl, rfl⟩
    · exact ⟨.slash, rfl, rfl⟩
  · repeat' split at named
    all_goals cases named
    · exact ⟨.backspace, by symm; assumption, rfl⟩
    · exact ⟨.formFeed, by symm; assumption, rfl⟩
    · exact ⟨.lineFeed, by symm; assumption, rfl⟩
    · exact ⟨.carriageReturn, by symm; assumption, rfl⟩
    · exact ⟨.tab, by symm; assumption, rfl⟩

theorem hexValue?_bytes (a b c d : HexFigure) :
    Spelling.hexValue? [d.byte, c.byte, b.byte, a.byte] = some (Glyph.codeOf a b c d) := by
  simp [Spelling.hexValue?, hexDigit?_byte, Glyph.codeOf]

namespace Spelling

variable (strict : Bool) (written rest : Bytes)

theorem takes_quote : takes strict (.plain written) (ascii '"' :: rest) =
    (.closed written.reverse, rest) := by
  simp [takes, take]

theorem takes_plain {b : UInt8} (alone : standsAlone b = true) :
    takes strict (.plain written) (b :: rest) = takes strict (.plain (b :: written)) rest := by
  simp only [standsAlone, Bool.and_eq_true, decide_eq_true_eq, ne_eq, UInt8.le_iff_toNat_le]
    at alone
  have control : ¬ b < 0x20 := by
    rw [UInt8.lt_iff_toNat_lt]
    omega
  simp [takes, take, alone.1.1, alone.1.2, control]

theorem takes_letter (l : Letter) :
    takes strict (.plain written) (ascii '\\' :: l.byte :: rest) =
      takes strict (.plain (l.meaning :: written)) rest := by
  have slash : take strict (.plain written) (ascii '\\') = .more (.escape written) := by
    simp [take, show ¬ ascii '\\' = ascii '"' by decide]
  have letter : take strict (.escape written) l.byte = .more (.plain (l.meaning :: written)) := by
    have other : ¬ l.byte = ascii 'u' := by cases l <;> decide
    simp only [take, other, if_false, letterByte?_byte]
  simp only [takes, slash, letter]

/-- After the mark of a code its four digits are taken together. -/
theorem takes_digits (leading : Option Nat) (a b c d : UInt8) :
    takes strict (.hex written leading []) (a :: b :: c :: d :: rest) =
      (escaped strict written leading [d, c, b, a]).onto strict rest := by
  simp only [takes, take, List.length_nil]
  cases ended : escaped strict written leading [d, c, b, a] <;> simp [ended, Spelled.onto]

theorem takes_code (a b c d : HexFigure) :
    takes strict (.plain written)
        (ascii '\\' :: ascii 'u' :: a.byte :: b.byte :: c.byte :: d.byte :: rest) =
      (escaped strict written none [d.byte, c.byte, b.byte, a.byte]).onto strict rest := by
  have slash : take strict (.plain written) (ascii '\\') = .more (.escape written) := by
    simp [take, show ¬ ascii '\\' = ascii '"' by decide]
  have mark : take strict (.escape written) (ascii 'u') = .more (.hex written none []) := rfl
  rw [← takes_digits]
  simp only [takes, slash, mark]

/-- A spelling that is not strict closes at the end of the glyphs, whatever they
are. -/
theorem takes_lax (glyphs : List Glyph) :
    ∃ closed, takes false (.plain written) (glyphBytes glyphs ++ ascii '"' :: rest) =
      (.closed closed, rest) := by
  induction glyphs generalizing written with
  | nil => exact ⟨written.reverse, takes_quote false written rest⟩
  | cons g gs ih =>
      cases g with
      | plain b alone =>
          simpa [glyphBytes, Glyph.bytes, takes_plain false written _ alone] using ih (b :: written)
      | letter l =>
          simpa [glyphBytes, Glyph.bytes, takes_letter] using ih (l.meaning :: written)
      | code a b c d =>
          have lax : escaped false written none [d.byte, c.byte, b.byte, a.byte] =
              .more (.plain written) := by
            simp [escaped, hexValue?_bytes]
          simpa [glyphBytes, Glyph.bytes, takes_code, lax, Spelled.onto] using ih written

/-- How a strict run from what was written before ends, by what the glyphs to come
spell. -/
def Closes (spelt : Except Malformation Bytes) (run : Spelled × Bytes) : Prop :=
  match spelt with
  | .ok bytes => run = (.closed (written.reverse ++ bytes), rest)
  | .error m => ∃ left, run = (.wrong m, left)

variable {written rest} in
theorem Closes.map {spelt : Except Malformation Bytes} {run : Spelled × Bytes} (more : Bytes)
    (closes : Closes (more.reverse ++ written) rest spelt run) :
    Closes written rest (spelt.map (more ++ ·)) run := by
  cases spelt with
  | ok bytes => simpa [Closes, Except.map] using closes
  | error m => exact closes

theorem escaped_strict {a b c d : HexFigure} (leading : Option Nat) :
    escaped true written leading [d.byte, c.byte, b.byte, a.byte] =
      match leading with
      | some high =>
          if isTrailing (Glyph.codeOf a b c d) then
            .more (write written (paired high (Glyph.codeOf a b c d)))
          else .wrong .loneSurrogate
      | none =>
          if isTrailing (Glyph.codeOf a b c d) then .wrong .loneSurrogate
          else if isLeading (Glyph.codeOf a b c d) then
            .more (.pairSlash written (Glyph.codeOf a b c d))
          else .more (write written (Glyph.codeOf a b c d)) := by
  simp only [escaped, hexValue?_bytes]
  rfl

theorem takes_pair (high : Nat) (a b c d : HexFigure) :
    takes true (.pairSlash written high)
        (ascii '\\' :: ascii 'u' :: a.byte :: b.byte :: c.byte :: d.byte :: rest) =
      (escaped true written (some high) [d.byte, c.byte, b.byte, a.byte]).onto true rest := by
  rw [← takes_digits]
  rfl

/-- Where no code follows, a pair is cut short. -/
theorem takes_cut (high : Nat) {glyphs : List Glyph}
    (other : ∀ a b c d gs, glyphs ≠ .code a b c d :: gs) :
    ∃ left, takes true (.pairSlash written high) (glyphBytes glyphs ++ ascii '"' :: rest) =
      (.wrong .cutSurrogate, left) := by
  match glyphs with
  | [] => exact ⟨rest, rfl⟩
  | .plain b alone :: gs =>
      simp only [standsAlone, Bool.and_eq_true, decide_eq_true_eq] at alone
      exact ⟨glyphBytes gs ++ ascii '"' :: rest, by
        simp [glyphBytes, Glyph.bytes, takes, take, alone.1.2]⟩
  | .letter l :: gs =>
      have mark : ¬ l.byte = ascii 'u' := by cases l <;> decide
      exact ⟨glyphBytes gs ++ ascii '"' :: rest, by
        simp [glyphBytes, Glyph.bytes, takes, take, mark]⟩
  | .code a b c d :: gs => exact absurd rfl (other a b c d gs)

/-- **A strict spelling takes glyphs for what they spell**, or meets what is wrong
with them. -/
theorem takes_strict (glyphs : List Glyph) :
    Closes written rest (unescaped glyphs)
      (takes true (.plain written) (glyphBytes glyphs ++ ascii '"' :: rest)) := by
  fun_induction unescaped glyphs generalizing written with
  | case1 => simp [Closes, glyphBytes, takes_quote]
  | case2 b alone gs ih =>
      simpa [glyphBytes, Glyph.bytes, takes_plain true written _ alone] using
        (ih (b :: written)).map [b]
  | case3 l gs ih =>
      simpa [glyphBytes, Glyph.bytes, takes_letter] using
        (ih (l.meaning :: written)).map [l.meaning]
  | case4 a b c d gs high trailing =>
      simp [Closes, glyphBytes, Glyph.bytes, takes_code, escaped_strict, high, trailing,
        Spelled.onto]
  | case5 a b c d high trailing leading a' b' c' d' gs low pair ih =>
      have closes := (ih ((Utf8.encodeChar (Char.ofNat (paired high low))).reverse ++ written)).map
        (Utf8.encodeChar (Char.ofNat (paired high low)))
      simpa [glyphBytes, Glyph.bytes, takes_code, escaped_strict, high, trailing, leading,
        Spelled.onto, takes_pair, low, pair, write] using closes
  | case6 a b c d high trailing leading a' b' c' d' gs low single =>
      simp [Closes, glyphBytes, Glyph.bytes, takes_code, escaped_strict, high, trailing, leading,
        Spelled.onto, takes_pair, low, single]
  | case7 a b c d gs high trailing leading other =>
      obtain ⟨left, cut⟩ := takes_cut written rest high other
      exact ⟨left, by
        simpa [glyphBytes, Glyph.bytes, takes_code, escaped_strict, high, trailing, leading,
          Spelled.onto] using cut⟩
  | case8 a b c d gs high trailing leading ih =>
      simpa [glyphBytes, Glyph.bytes, takes_code, escaped_strict, high, trailing, leading,
        Spelled.onto, write] using
        (ih ((Utf8.encodeChar (Char.ofNat high)).reverse ++ written)).map
          (Utf8.encodeChar (Char.ofNat high))

/-! ## Every string that closes is written in glyphs -/

/-- Where one glyph has ended and the next has not begun. -/
def AtRest : Spelling → Prop
  | .plain _ => True
  | .pairSlash _ _ => True
  | _ => False

theorem atRest_plain (written : Bytes) : AtRest (.plain written) :=
  trivial

theorem hexFigures_of_hexValue? {a b c d : UInt8} {n : Nat}
    (value : hexValue? [d, c, b, a] = some n) :
    ∃ a' b' c' d' : HexFigure, a'.byte = a ∧ b'.byte = b ∧ c'.byte = c ∧ d'.byte = d := by
  simp only [hexValue?, Option.bind_eq_bind, Option.bind_eq_some_iff] at value
  obtain ⟨_, hd, _, ⟨_, hc, _, ⟨_, hb, _, ⟨_, ha, -⟩, -⟩, -⟩, -⟩ := value
  obtain ⟨a', ha⟩ := hexFigure_of_hexDigit? ha
  obtain ⟨b', hb⟩ := hexFigure_of_hexDigit? hb
  obtain ⟨c', hc⟩ := hexFigure_of_hexDigit? hc
  obtain ⟨d', hd⟩ := hexFigure_of_hexDigit? hd
  exact ⟨a', b', c', d', ha, hb, hc, hd⟩

/-- Four digits are taken or wrong; a string that takes them is at rest. -/
theorem escaped_cases (strict : Bool) (written : Bytes) (leading : Option Nat) (digits : Bytes) :
    (∃ m, escaped strict written leading digits = .wrong m) ∨
      ∃ n s, hexValue? digits = some n ∧ escaped strict written leading digits = .more s ∧
        s.AtRest := by
  simp only [escaped]
  split
  · exact .inl ⟨_, rfl⟩
  · rename_i n value
    repeat' split
    all_goals first | exact .inl ⟨_, rfl⟩ | exact .inr ⟨n, _, value, rfl, trivial⟩

/-- The digits of a code, up to what follows them. -/
theorem digits_of_closed {strict : Bool} {written closed : Bytes} {leading : Option Nat}
    {bytes rest : Bytes}
    (closes : takes strict (.hex written leading []) bytes = (.closed closed, rest)) :
    ∃ (a b c d : HexFigure) (s : Spelling) (more : Bytes), s.AtRest ∧
      bytes = a.byte :: b.byte :: c.byte :: d.byte :: more ∧
      s.takes strict more = (.closed closed, rest) := by
  match bytes with
  | [] | [_] | [_, _] | [_, _, _] => simp [takes, take] at closes
  | a :: b :: c :: d :: more =>
      rw [takes_digits] at closes
      rcases escaped_cases strict written leading [d, c, b, a] with
        ⟨m, wrong⟩ | ⟨n, s, value, taken, resting⟩
      · rw [wrong] at closes
        cases closes
      · obtain ⟨a', b', c', d', rfl, rfl, rfl, rfl⟩ := hexFigures_of_hexValue? value
        rw [taken] at closes
        exact ⟨a', b', c', d', s, more, resting, rfl, closes⟩

/-- **A string that closes is a run of glyphs and a quote.** -/
theorem glyphs_of_closed {strict : Bool} {s : Spelling} {bytes closed rest : Bytes}
    (resting : s.AtRest) (closes : s.takes strict bytes = (.closed closed, rest)) :
    ∃ glyphs, bytes = glyphBytes glyphs ++ ascii '"' :: rest := by
  induction length : bytes.length using Nat.strongRecOn generalizing s bytes with
  | _ n ih =>
  -- a code takes its four digits, and what follows is shorter
  have code {leading : Option Nat} {written more : Bytes} (shorter : more.length < n)
      (closes : takes strict (.hex written leading []) more = (.closed closed, rest)) :
      ∃ glyphs, ascii '\\' :: ascii 'u' :: more = glyphBytes glyphs ++ ascii '"' :: rest := by
    obtain ⟨a, b, c, d, s, left, resting, rfl, closed⟩ := digits_of_closed closes
    simp only [List.length_cons] at shorter
    obtain ⟨glyphs, rfl⟩ := ih left.length (by omega) resting closed rfl
    exact ⟨.code a b c d :: glyphs, by simp [glyphBytes, Glyph.bytes]⟩
  match s, bytes with
  | .plain written, [] | .pairSlash written high, [] => simp [takes] at closes
  | .pairSlash written high, [b] =>
      by_cases slash : b = ascii '\\' <;> simp [takes, take, slash] at closes
  | .pairSlash written high, b :: c :: more =>
      by_cases slash : b = ascii '\\'
      · by_cases mark : c = ascii 'u'
        · subst slash mark
          exact code (by simp only [List.length_cons] at length; omega) closes
        · simp [takes, take, slash, mark] at closes
      · simp [takes, take, slash] at closes
  | .plain written, b :: more =>
      by_cases quote : b = ascii '"'
      · subst quote
        rw [takes_quote, Prod.mk.injEq] at closes
        exact ⟨[], by rw [closes.2]; rfl⟩
      by_cases slash : b = ascii '\\'
      · subst slash
        match more with
        | [] => simp [takes, take, quote] at closes
        | c :: more =>
            by_cases mark : c = ascii 'u'
            · subst mark
              exact code (by simp only [List.length_cons] at length; omega) closes
            · cases named : letterByte? c with
              | none => simp [takes, take, quote, mark, named] at closes
              | some byte =>
                  obtain ⟨l, rfl, rfl⟩ := letter_of_letterByte? named
                  rw [takes_letter] at closes
                  simp only [List.length_cons] at length
                  obtain ⟨glyphs, rfl⟩ := ih more.length (by omega) (atRest_plain _) closes rfl
                  exact ⟨.letter l :: glyphs, by simp [glyphBytes, Glyph.bytes]⟩
      · by_cases control : b < 0x20
        · simp [takes, take, quote, slash, control] at closes
        · have alone : standsAlone b = true := by
            simpa [standsAlone, quote, slash] using control
          rw [takes_plain strict written more alone] at closes
          simp only [List.length_cons] at length
          obtain ⟨glyphs, rfl⟩ := ih more.length (by omega) (atRest_plain _) closes rfl
          exact ⟨.plain b alone :: glyphs, by simp [glyphBytes, Glyph.bytes]⟩

end Spelling

end NodeSettings
