/-
# NodeSettings.Proofs.Utf8 -- what is encoded is read back, piece by piece

The bytes of characters are cut into those characters (`cut_encodeChar`), so
bytes that spell a text decode to it (`decode_of_spells`).  No character but an
ASCII one holds an ASCII byte, so a text may be taken apart at any of them
(`Spells.split`): what stands on either side spells a text of its own.

The other way round, a character is read only from the bytes it is encoded as
(`spells_begun`).  So bytes are read as a text exactly if they spell one
(`isSome_decode?`).
-/
import NodeSettings.Text.Utf8

namespace NodeSettings.Text.Utf8

set_option autoImplicit false

/-- The bytes are those of a text. -/
def Spells (bytes : List UInt8) : Prop :=
  ∃ chars : List Char, bytes = chars.flatMap encodeChar

/-! ## Reading back -/

theorem toNat_toUInt8 {n : Nat} (small : n < 256) : n.toUInt8.toNat = n := by
  simp [Nat.toUInt8, small]

theorem cut_last {p : Begun} {b : UInt8} (low : p.low.toNat ≤ b.toNat)
    (high : b.toNat ≤ p.high.toNat) (owed : p.owed = 1) (rest : List UInt8) :
    cut (some p) (b :: rest) =
      .char (Char.ofNat (p.code * 64 + (b.toNat - 0x80))) :: cut none rest := by
  have within : p.low ≤ b ∧ b ≤ p.high :=
    ⟨UInt8.le_iff_toNat_le.mpr low, UInt8.le_iff_toNat_le.mpr high⟩
  simp only [cut, within, owed, and_self, if_true, Nat.le_refl]

theorem cut_more {p : Begun} {b : UInt8} (low : p.low.toNat ≤ b.toNat)
    (high : b.toNat ≤ p.high.toNat) (owed : 1 < p.owed) (rest : List UInt8) :
    cut (some p) (b :: rest) =
      cut (some { bytes := b :: p.bytes, code := p.code * 64 + (b.toNat - 0x80),
                  owed := p.owed - 1 }) rest := by
  have within : p.low ≤ b ∧ b ≤ p.high :=
    ⟨UInt8.le_iff_toNat_le.mpr low, UInt8.le_iff_toNat_le.mpr high⟩
  simp only [cut, within, and_self, if_true, Nat.not_le.mpr owed, if_false]

/-! ### What a character begins with -/

theorem lead_one {n : Nat} (high : n < 0x80) : lead n.toUInt8 = .whole (Char.ofNat n) := by
  have byte := toNat_toUInt8 (Nat.lt_trans high (by decide))
  simp only [lead, UInt8.lt_iff_toNat_lt, UInt8.reduceToNat, byte, high, if_true]

theorem lead_two {n : Nat} (low : 0xC2 ≤ n) (high : n < 0xE0) :
    ∃ p, lead n.toUInt8 = .begun p ∧ p.owed = 1 ∧ p.code = n - 0xC0 ∧ p.low.toNat = 0x80 ∧
      p.high.toNat = 0xBF := by
  have byte := toNat_toUInt8 (Nat.lt_trans high (by decide))
  simp only [lead, UInt8.lt_iff_toNat_lt, UInt8.reduceToNat, byte]
  rw [if_neg (by omega), if_neg (by omega), if_pos high]
  exact ⟨_, rfl, rfl, rfl, rfl, rfl⟩

theorem lead_three {n : Nat} (low : 0xE0 ≤ n) (high : n < 0xF0) :
    ∃ p, lead n.toUInt8 = .begun p ∧ p.owed = 2 ∧ p.code = n - 0xE0 ∧
      p.low.toNat = (if n = 0xE0 then 0xA0 else 0x80) ∧
      p.high.toNat = if n = 0xED then 0x9F else 0xBF := by
  have byte := toNat_toUInt8 (Nat.lt_trans high (by decide))
  simp only [lead, UInt8.lt_iff_toNat_lt, ← UInt8.toNat_inj, UInt8.reduceToNat, byte]
  rw [if_neg (by omega), if_neg (by omega), if_neg (by omega)]
  by_cases first : n = 0xE0
  · subst first
    exact ⟨_, rfl, rfl, rfl, rfl, rfl⟩
  by_cases last : n = 0xED
  · subst last
    exact ⟨_, rfl, rfl, rfl, rfl, rfl⟩
  · rw [if_neg first, if_neg last, if_pos high]
    exact ⟨_, rfl, rfl, rfl, (if_neg first).symm, (if_neg last).symm⟩

theorem lead_four {n : Nat} (low : 0xF0 ≤ n) (high : n ≤ 0xF4) :
    ∃ p, lead n.toUInt8 = .begun p ∧ p.owed = 3 ∧ p.code = n - 0xF0 ∧
      p.low.toNat = (if n = 0xF0 then 0x90 else 0x80) ∧
      p.high.toNat = if n = 0xF4 then 0x8F else 0xBF := by
  have byte := toNat_toUInt8 (Nat.lt_of_le_of_lt high (by decide))
  simp only [lead, UInt8.lt_iff_toNat_lt, ← UInt8.toNat_inj, UInt8.reduceToNat, byte]
  rw [if_neg (by omega), if_neg (by omega), if_neg (by omega), if_neg (by omega),
    if_neg (by omega), if_neg (by omega)]
  by_cases first : n = 0xF0
  · subst first
    exact ⟨_, rfl, rfl, rfl, rfl, rfl⟩
  by_cases last : n = 0xF4
  · subst last
    exact ⟨_, rfl, rfl, rfl, rfl, rfl⟩
  · rw [if_neg first, if_pos (by omega)]
    exact ⟨_, rfl, rfl, rfl, (if_neg first).symm, (if_neg last).symm⟩

/-! ### One character -/

theorem code_valid (c : Char) :
    c.toNat < 0xD800 ∨ 0xDFFF < c.toNat ∧ c.toNat < 0x110000 := by
  have valid := c.valid
  simpa [UInt32.isValidChar, Nat.isValidChar] using valid

theorem cut_begun {b : UInt8} {p : Begun} (begun : lead b = .begun p) (rest : List UInt8) :
    cut none (b :: rest) = cut (some p) rest := by
  simp only [cut, begun]

theorem cut_encodeChar (c : Char) (rest : List UInt8) :
    cut none (encodeChar c ++ rest) = .char c :: cut none rest := by
  have valid := code_valid c
  have same := Char.ofNat_toNat c
  simp only [encodeChar]
  generalize c.toNat = code at *
  split
  · rename_i one
    simp only [List.cons_append, List.nil_append, cut, lead_one one, same]
  split
  · rename_i two
    obtain ⟨p, begun, owed, known, low, high⟩ :=
      lead_two (show 0xC2 ≤ 0xC0 + code / 64 by omega) (by omega)
    have byte := toNat_toUInt8 (show 0x80 + code % 64 < 256 by omega)
    simp only [List.cons_append, List.nil_append]
    rw [cut_begun begun, cut_last (by omega) (by omega) owed, known, byte,
      show (0xC0 + code / 64 - 0xC0) * 64 + (0x80 + code % 64 - 0x80) = code by omega, same]
  split
  · rename_i three
    obtain ⟨p, begun, owed, known, low, high⟩ :=
      lead_three (show 0xE0 ≤ 0xE0 + code / 4096 by omega) (by omega)
    have byte := toNat_toUInt8 (show 0x80 + code / 64 % 64 < 256 by omega)
    have byte' := toNat_toUInt8 (show 0x80 + code % 64 < 256 by omega)
    simp only [List.cons_append, List.nil_append]
    rw [cut_begun begun, cut_more (by rw [low, byte]; split <;> omega)
      (by rw [high, byte]; split <;> omega) (by omega),
      cut_last (by rw [byte']; exact Nat.le_add_right _ _) (by rw [byte']; show _ ≤ 0xBF; omega)
        (by simp only [owed]), known, byte, byte',
      show ((0xE0 + code / 4096 - 0xE0) * 64 + (0x80 + code / 64 % 64 - 0x80)) * 64 +
        (0x80 + code % 64 - 0x80) = code by omega, same]
  · rename_i four
    obtain ⟨p, begun, owed, known, low, high⟩ :=
      lead_four (show 0xF0 ≤ 0xF0 + code / 262144 by omega) (by omega)
    have byte := toNat_toUInt8 (show 0x80 + code / 4096 % 64 < 256 by omega)
    have byte' := toNat_toUInt8 (show 0x80 + code / 64 % 64 < 256 by omega)
    have byte'' := toNat_toUInt8 (show 0x80 + code % 64 < 256 by omega)
    simp only [List.cons_append, List.nil_append]
    rw [cut_begun begun, cut_more (by rw [low, byte]; split <;> omega)
      (by rw [high, byte]; split <;> omega) (by omega),
      cut_more (by rw [byte']; exact Nat.le_add_right _ _) (by rw [byte']; show _ ≤ 0xBF; omega)
        (by simp only [owed]; decide),
      cut_last (by rw [byte'']; exact Nat.le_add_right _ _)
        (by rw [byte'']; show _ ≤ 0xBF; omega) (by simp only [owed]), known, byte, byte', byte'',
      show (((0xF0 + code / 262144 - 0xF0) * 64 + (0x80 + code / 4096 % 64 - 0x80)) * 64 +
        (0x80 + code / 64 % 64 - 0x80)) * 64 + (0x80 + code % 64 - 0x80) = code by omega, same]

/-! ### Texts -/

theorem pieces_of_chars (chars : List Char) :
    pieces (chars.flatMap encodeChar) = chars.map .char := by
  unfold pieces
  induction chars with
  | nil => rfl
  | cons c rest ih => rw [List.flatMap_cons, cut_encodeChar, ih, List.map_cons]

theorem spelled_chars (before : Nat) (chars : List Char) :
    spelled before (chars.map .char) = .ok chars := by
  induction chars generalizing before with
  | nil => rfl
  | cons c rest ih =>
      rw [List.map_cons, spelled, ih]
      rfl

theorem decode_chars (chars : List Char) :
    decode (chars.flatMap encodeChar) = .ok (String.ofList chars) := by
  rw [decode, pieces_of_chars, spelled_chars]
  rfl

theorem decode_of_spells {bytes : List UInt8} (spells : Spells bytes) :
    ∃ text, decode bytes = .ok text := by
  obtain ⟨chars, rfl⟩ := spells
  exact ⟨String.ofList chars, decode_chars chars⟩

theorem spells_encode (text : String) : Spells (encode text) :=
  ⟨text.toList, rfl⟩

/-! ## Taking a text apart -/

theorem spells_nil : Spells [] :=
  ⟨[], rfl⟩

theorem spells_encodeChar (c : Char) : Spells (encodeChar c) :=
  ⟨[c], by simp⟩

theorem Spells.append {first rest : List UInt8} (a : Spells first) (b : Spells rest) :
    Spells (first ++ rest) := by
  obtain ⟨before, rfl⟩ := a
  obtain ⟨after, rfl⟩ := b
  exact ⟨before ++ after, List.flatMap_append.symm⟩

theorem spells_ascii {b : UInt8} (ascii : b.toNat < 0x80) : Spells [b] := by
  have known : ∀ n < 0x80, (Char.ofNat n).toNat = n := by decide
  have small := known b.toNat ascii
  refine ⟨[Char.ofNat b.toNat], ?_⟩
  simp [encodeChar, small, ascii]

/-- A character is one ASCII byte, or holds none. -/
theorem encodeChar_cases (c : Char) :
    (∃ b, encodeChar c = [b]) ∨ ∀ b ∈ encodeChar c, 0x80 ≤ b.toNat := by
  have valid := code_valid c
  simp only [encodeChar]
  generalize c.toNat = code at *
  split
  · exact .inl ⟨_, rfl⟩
  · right
    split
    · intro b member
      simp only [List.mem_cons, List.not_mem_nil, or_false] at member
      rcases member with rfl | rfl <;> rw [toNat_toUInt8 (by omega)] <;> omega
    split
    · intro b member
      simp only [List.mem_cons, List.not_mem_nil, or_false] at member
      rcases member with rfl | rfl | rfl <;> rw [toNat_toUInt8 (by omega)] <;> omega
    · intro b member
      simp only [List.mem_cons, List.not_mem_nil, or_false] at member
      rcases member with rfl | rfl | rfl | rfl <;> rw [toNat_toUInt8 (by omega)] <;> omega

/-- **A text comes apart at every ASCII byte.** -/
theorem Spells.split {before after : List UInt8} {b : UInt8} (ascii : b.toNat < 0x80)
    (spells : Spells (before ++ b :: after)) : Spells before ∧ Spells after := by
  obtain ⟨chars, shape⟩ := spells
  induction chars generalizing before with
  | nil => simp at shape
  | cons c rest ih =>
      rw [List.flatMap_cons, List.append_eq_append_iff] at shape
      rcases shape with ⟨inner, char, tail⟩ | ⟨inner, rfl, tail⟩
      · cases inner with
        | nil =>
            have whole : [] ++ b :: after = rest.flatMap encodeChar := tail
            rw [List.append_nil] at char
            exact ⟨char ▸ spells_encodeChar c, (ih whole).2⟩
        | cons d inner =>
            obtain ⟨rfl, rfl⟩ := List.cons.inj tail
            rcases encodeChar_cases c with ⟨e, one⟩ | none
            · rw [one] at char
              cases before with
              | nil =>
                  simp only [List.nil_append, List.cons.injEq] at char
                  rw [← char.2]
                  exact ⟨spells_nil, ⟨rest, rfl⟩⟩
              | cons f before => simp at char
            · have large := none b (char ▸ by simp)
              omega
      · obtain ⟨left, right⟩ := ih tail.symm
        exact ⟨(spells_encodeChar c).append left, right⟩

/-! ## Writing back -/

/-- Nothing but characters is among the pieces. -/
def Whole (pieces : List Piece) : Prop :=
  ∀ piece ∈ pieces, ∃ c, piece = .char c

theorem whole_of_spelled {before : Nat} {pieces : List Piece} {chars : List Char}
    (spelt : spelled before pieces = .ok chars) : Whole pieces := by
  induction pieces generalizing before chars with
  | nil => simp [Whole]
  | cons piece rest ih =>
      cases piece with
      | bad bytes => cases spelt
      | char c =>
          rw [spelled] at spelt
          cases inner : spelled (before + (encodeChar c).length) rest with
          | error n =>
              rw [inner] at spelt
              cases spelt
          | ok others =>
              rintro piece (_ | ⟨_, member⟩)
              · exact ⟨c, rfl⟩
              · exact ih inner piece member

theorem Whole.tail {piece : Piece} {rest : List Piece} (whole : Whole (piece :: rest)) :
    Whole rest :=
  fun other member => whole other (List.mem_cons_of_mem piece member)

theorem not_whole_bad {bytes : List UInt8} {rest : List Piece} : ¬ Whole (.bad bytes :: rest) := by
  intro whole
  obtain ⟨c, same⟩ := whole _ List.mem_cons_self
  cases same

theorem toNat_ofNat {code : Nat} (valid : code < 0xD800 ∨ 0xDFFF < code ∧ code < 0x110000) :
    (Char.ofNat code).toNat = code := by
  have same : Char.ofNat code = Char.ofNatAux code valid := dif_pos valid
  rw [same]
  rfl

/-- A byte that goes on with a character, or bytes that do. -/
structure Onward (low high : UInt8) (b : UInt8) (more : List UInt8) : Prop where
  low : low.toNat ≤ b.toNat
  high : b.toNat ≤ high.toNat
  more : ∀ c ∈ more, 0x80 ≤ c.toNat ∧ c.toNat ≤ 0xBF

/-- **A character that has begun is made whole by the bytes it is owed.** -/
theorem cut_of_whole {p : Begun} {bytes : List UInt8} {n : Nat} (owed : p.owed = n + 1)
    (whole : Whole (cut (some p) bytes)) :
    ∃ b more rest, bytes = b :: (more ++ rest) ∧ more.length = n ∧
      Onward p.low p.high b more ∧ Whole (cut none rest) := by
  induction n generalizing p bytes with
  | zero =>
      cases bytes with
      | nil => exact absurd whole not_whole_bad
      | cons b rest =>
          rw [cut] at whole
          split at whole
          · rename_i within
            have last : p.owed ≤ 1 := by omega
            simp only [last, if_true] at whole
            exact ⟨b, [], rest, rfl, rfl, ⟨UInt8.le_iff_toNat_le.mp within.1,
              UInt8.le_iff_toNat_le.mp within.2, by simp⟩, whole.tail⟩
          · exact absurd whole not_whole_bad
  | succ n ih =>
      cases bytes with
      | nil => exact absurd whole not_whole_bad
      | cons b rest =>
          rw [cut] at whole
          split at whole
          · rename_i within
            have more : ¬ p.owed ≤ 1 := by omega
            simp only [more, if_false] at whole
            obtain ⟨c, others, left, rfl, length, onward, after⟩ := ih (by simp [owed]) whole
            refine ⟨b, c :: others, left, rfl, by simp [length], ⟨UInt8.le_iff_toNat_le.mp within.1,
              UInt8.le_iff_toNat_le.mp within.2, ?_⟩, after⟩
            rintro d (_ | ⟨_, member⟩)
            · exact ⟨onward.low, onward.high⟩
            · exact onward.more d member
          · exact absurd whole not_whole_bad

theorem toUInt8_eq {n : Nat} (b : UInt8) (same : n = b.toNat) : n.toUInt8 = b := by
  rw [same, Nat.toUInt8_eq, UInt8.ofNat_toNat]

theorem lead_whole {b : UInt8} {c : Char} (led : lead b = .whole c) : b.toNat < 0x80 := by
  unfold lead at led
  split at led
  · rename_i small
    exact UInt8.lt_iff_toNat_lt.mp small
  · repeat' split at led
    all_goals cases led

/-- What a byte begins: the number of bytes owed tells its range, and the narrowed
ranges are those of the four bytes they are for. -/
theorem lead_begun {b : UInt8} {p : Begun} (led : lead b = .begun p) :
    (p.owed = 1 ∧ 0xC2 ≤ b.toNat ∧ b.toNat < 0xE0 ∨
      p.owed = 2 ∧ 0xE0 ≤ b.toNat ∧ b.toNat < 0xF0 ∨
        p.owed = 3 ∧ 0xF0 ≤ b.toNat ∧ b.toNat ≤ 0xF4) ∧
      (0x80 ≤ p.low.toNat ∧ (b.toNat = 0xE0 → 0xA0 ≤ p.low.toNat) ∧
        (b.toNat = 0xF0 → 0x90 ≤ p.low.toNat)) ∧
      p.high.toNat ≤ 0xBF ∧ (b.toNat = 0xED → p.high.toNat ≤ 0x9F) ∧
        (b.toNat = 0xF4 → p.high.toNat ≤ 0x8F) := by
  simp only [lead, UInt8.lt_iff_toNat_lt, ← UInt8.toNat_inj, UInt8.reduceToNat] at led
  repeat' split at led
  all_goals cases led
  all_goals
    simp only [UInt8.reduceToNat, true_and]
    refine ⟨by omega, ⟨?_, ?_, ?_⟩, ?_, ?_, ?_⟩ <;> omega

theorem encodeChar_ofNat {code : Nat}
    (valid : code < 0xD800 ∨ 0xDFFF < code ∧ code < 0x110000) :
    encodeChar (Char.ofNat code) =
      if code < 0x80 then [code.toUInt8]
      else if code < 0x800 then [(0xC0 + code / 64).toUInt8, (0x80 + code % 64).toUInt8]
      else if code < 0x10000 then
        [(0xE0 + code / 4096).toUInt8, (0x80 + code / 64 % 64).toUInt8, (0x80 + code % 64).toUInt8]
      else
        [(0xF0 + code / 262144).toUInt8, (0x80 + code / 4096 % 64).toUInt8,
          (0x80 + code / 64 % 64).toUInt8, (0x80 + code % 64).toUInt8] := by
  rw [encodeChar]
  simp only [toNat_ofNat valid]

/-- **The bytes of a character that was made whole are its own.** -/
theorem spells_begun {b c : UInt8} {p : Begun} (led : lead b = .begun p) {more : List UInt8}
    (length : more.length + 1 = p.owed) (onward : Onward p.low p.high c more) :
    Spells (b :: c :: more) := by
  obtain ⟨owed, least, most⟩ := lead_begun led
  obtain ⟨low, high, others⟩ := onward
  rcases more with _ | ⟨d, _ | ⟨e, _ | ⟨f, more⟩⟩⟩
  · rw [List.length_nil] at length
    refine ⟨[Char.ofNat ((b.toNat - 0xC0) * 64 + (c.toNat - 0x80))], ?_⟩
    rw [List.flatMap_singleton, encodeChar_ofNat (by omega), if_neg (by omega), if_pos (by omega),
      toUInt8_eq b (by omega), toUInt8_eq c (by omega)]
  · rw [List.length_singleton] at length
    have range := others d (by simp)
    refine ⟨[Char.ofNat (((b.toNat - 0xE0) * 64 + (c.toNat - 0x80)) * 64 +
      (d.toNat - 0x80))], ?_⟩
    rw [List.flatMap_singleton, encodeChar_ofNat (by omega), if_neg (by omega), if_neg (by omega),
      if_pos (by omega), toUInt8_eq b (by omega), toUInt8_eq c (by omega), toUInt8_eq d (by omega)]
  · rw [List.length_cons, List.length_singleton] at length
    have range := others d (by simp)
    have range' := others e (by simp)
    refine ⟨[Char.ofNat ((((b.toNat - 0xF0) * 64 + (c.toNat - 0x80)) * 64 +
      (d.toNat - 0x80)) * 64 + (e.toNat - 0x80))], ?_⟩
    rw [List.flatMap_singleton, encodeChar_ofNat (by omega), if_neg (by omega), if_neg (by omega),
      if_neg (by omega), toUInt8_eq b (by omega), toUInt8_eq c (by omega),
      toUInt8_eq d (by omega), toUInt8_eq e (by omega)]
  · simp only [List.length_cons] at length
    omega

theorem spells_of_whole (bytes : List UInt8) (whole : Whole (pieces bytes)) : Spells bytes := by
  match bytes with
  | [] => exact spells_nil
  | b :: rest =>
      rw [pieces, cut] at whole
      cases led : lead b with
      | stray =>
          simp only [led] at whole
          exact absurd whole not_whole_bad
      | whole c =>
          simp only [led] at whole
          exact (spells_ascii (lead_whole led)).append (spells_of_whole rest whole.tail)
      | begun p =>
          simp only [led] at whole
          obtain ⟨n, owed⟩ : ∃ n, p.owed = n + 1 := by
            have := (lead_begun led).1
            exact ⟨p.owed - 1, by omega⟩
          obtain ⟨c, more, left, rfl, length, onward, after⟩ := cut_of_whole owed whole
          have first := spells_begun led (by omega) onward
          exact first.append (spells_of_whole left after)
termination_by bytes.length

/-- **Bytes are read as a text exactly if they spell one.** -/
theorem isSome_decode? {bytes : List UInt8} : (decode? bytes).isSome = true ↔ Spells bytes := by
  constructor
  · intro known
    rw [decode?, decode] at known
    cases spelt : spelled 0 (pieces bytes) with
    | ok chars => exact spells_of_whole bytes (whole_of_spelled spelt)
    | error n =>
        rw [spelt] at known
        cases known
  · intro spells
    obtain ⟨text, known⟩ := decode_of_spells spells
    rw [decode?, known]
    rfl

/-! ## Bytes that are ASCII throughout -/

def Plain (bytes : List UInt8) : Prop :=
  ∀ b ∈ bytes, b.toNat < 0x80

instance (bytes : List UInt8) : Decidable (Plain bytes) :=
  List.decidableBAll (fun b : UInt8 => b.toNat < 0x80) bytes

theorem Plain.append {first rest : List UInt8} (a : Plain first) (b : Plain rest) :
    Plain (first ++ rest) := by
  intro c member
  rcases List.mem_append.mp member with member | member
  · exact a c member
  · exact b c member

/-- ASCII bytes at the beginning may be left out. -/
theorem Spells.after_ascii {first rest : List UInt8} (plain : Plain first)
    (spells : Spells (first ++ rest)) : Spells rest := by
  induction first with
  | nil => exact spells
  | cons b more ih =>
      have whole : Spells ([] ++ b :: (more ++ rest)) := spells
      exact ih (fun c member => plain c (by simp [member])) (whole.split (plain b (by simp))).2

end NodeSettings.Text.Utf8
