/-
# NodeSettings.Proofs.LineFeeds -- the line feeds of a text

How a value becomes text decides whether a line feed in it shows.  Bytes shown
loosely keep every one of theirs and get no other, since no byte of a longer
character is a line feed and no longer character spells one (`lineFeeds_lossy`).  A
quoted text has none, whatever is quoted (`lineFeeds_quoted`), and neither has a
number in any layout.
-/
import NodeSettings.Config
import NodeSettings.Number.Layout
import NodeSettings.Proofs.Utf8

namespace NodeSettings

namespace Text

set_option autoImplicit false

/-- How many line feeds a text has. -/
def lineFeeds (text : String) : Nat :=
  text.toList.count '\n'

@[simp] theorem lineFeeds_append (first rest : String) :
    lineFeeds (first ++ rest) = lineFeeds first + lineFeeds rest := by
  rw [lineFeeds, String.toList_append, List.count_append]
  rfl

theorem lineFeeds_ofList (chars : List Char) :
    lineFeeds (String.ofList chars) = chars.count '\n' := by
  rw [lineFeeds, String.toList_ofList]

/-- Texts set side by side with something between them. -/
theorem lineFeeds_intercalate {mark : String} (plain : lineFeeds mark = 0) {parts : List String}
    (each : ∀ part ∈ parts, lineFeeds part = 0) : lineFeeds (mark.intercalate parts) = 0 := by
  induction parts with
  | nil => rfl
  | cons part rest ih =>
      have here := each part List.mem_cons_self
      have later := ih fun other member => each other (List.mem_cons_of_mem part member)
      cases rest with
      | nil => simpa using here
      | cons next rest =>
          rw [String.intercalate_cons_cons, lineFeeds_append, lineFeeds_append, here, plain, later]

/-! ## Bytes shown loosely -/

namespace Utf8

theorem ofNat_eq_lineFeed {code : Nat} (same : Char.ofNat code = '\n') : code = 0x0A := by
  by_cases valid : code < 0xD800 ∨ 0xDFFF < code ∧ code < 0x110000
  · rw [← toNat_ofNat valid, same]
    rfl
  · have nothing : Char.ofNat code = Char.ofNat 0 := dif_neg valid
    rw [nothing] at same
    exact absurd same (by decide)

/-- The one byte that begins a line feed is a line feed. -/
theorem lead_eq_lineFeed {b : UInt8} : lead b = .whole '\n' ↔ b = 0x0A := by
  constructor
  · intro led
    unfold lead at led
    split at led
    · rw [Lead.whole.injEq] at led
      exact UInt8.toNat_inj.mp (ofNat_eq_lineFeed led)
    · repeat' split at led
      all_goals cases led
  · rintro rfl
    rfl

/-- What has begun spells more than a line feed, whatever byte goes on with it. -/
structure Begun.Past (p : Begun) : Prop where
  low : 0x80 ≤ p.low.toNat
  code : 0x0A < p.code * 64 + (p.low.toNat - 0x80)

theorem lead_past {b : UInt8} {p : Begun} (led : lead b = .begun p) : p.Past := by
  simp only [lead, UInt8.lt_iff_toNat_lt, ← UInt8.toNat_inj, UInt8.reduceToNat] at led
  repeat' split at led
  all_goals cases led
  all_goals
    constructor <;> simp only [UInt8.reduceToNat] <;> omega

section More

variable {p : Begun} {b : UInt8} (past : p.Past) (low : p.low ≤ b)

include past low

theorem Begun.Past.next : 0x0A < p.code * 64 + (b.toNat - 0x80) := by
  have least := past.code
  have within := UInt8.le_iff_toNat_le.mp low
  omega

theorem Begun.Past.ne_lineFeed : b ≠ 0x0A := by
  rintro rfl
  have least := past.low
  have within := UInt8.le_iff_toNat_le.mp low
  simp only [UInt8.reduceToNat] at within
  omega

theorem Begun.Past.more (owed : Nat) :
    Begun.Past { bytes := b :: p.bytes, code := p.code * 64 + (b.toNat - 0x80), owed := owed } where
  low := Nat.le_refl 0x80
  code := by
    have next := past.next low
    simp only [UInt8.reduceToNat]
    omega

end More

/-- The line feeds among the characters that pieces are shown as. -/
def shownFeeds (pieces : List Piece) : Nat :=
  (pieces.map Piece.shown).count '\n'

theorem shownFeeds_char (c : Char) (rest : List Piece) :
    shownFeeds (.char c :: rest) = shownFeeds rest + if c = '\n' then 1 else 0 := by
  simp [shownFeeds, Piece.shown, List.count_cons]

theorem shownFeeds_bad (bytes : List UInt8) (rest : List Piece) :
    shownFeeds (.bad bytes :: rest) = shownFeeds rest := by
  have other : ¬ replacement = '\n' := by decide
  simp [shownFeeds, Piece.shown, other]

/-- **The cut keeps the line feeds of the bytes**, and makes no others. -/
theorem shownFeeds_cut (state : Option Begun) (past : ∀ p, state = some p → p.Past)
    (bytes : List UInt8) : shownFeeds (cut state bytes) = bytes.count 0x0A := by
  induction bytes generalizing state with
  | nil =>
      cases state with
      | none => rfl
      | some p => exact shownFeeds_bad p.bytes.reverse []
  | cons b rest ih =>
      have onward := ih none nofun
      have afresh : shownFeeds (cut none (b :: rest)) = (b :: rest).count 0x0A := by
        cases led : lead b with
        | whole c =>
            have same : c = '\n' ↔ b = 0x0A := by
              rw [← lead_eq_lineFeed, led, Lead.whole.injEq]
            simp only [cut, led, shownFeeds_char, onward, List.count_cons, beq_iff_eq, same]
        | begun p =>
            have other : b ≠ 0x0A := by
              rintro rfl
              cases led
            rw [cut_begun led, ih (some p) (by rintro _ ⟨rfl⟩; exact lead_past led),
              List.count_cons_of_ne other]
        | stray =>
            have other : b ≠ 0x0A := by
              rintro rfl
              cases led
            simp only [cut, led, shownFeeds_bad, onward, List.count_cons_of_ne other]
      cases state with
      | none => exact afresh
      | some p =>
          have past := past p rfl
          by_cases within : p.low ≤ b ∧ b ≤ p.high
          · have next := past.next within.1
            rw [List.count_cons_of_ne (past.ne_lineFeed within.1)]
            by_cases last : p.owed ≤ 1
            · have other : Char.ofNat (p.code * 64 + (b.toNat - 0x80)) ≠ '\n' := fun same =>
                absurd (ofNat_eq_lineFeed same) (Nat.ne_of_gt next)
              simp only [cut, if_pos within, if_pos last, shownFeeds_char, if_neg other, onward,
                Nat.add_zero]
            · simp only [cut, if_pos within, if_neg last]
              apply ih
              rintro _ ⟨rfl⟩
              exact past.more within.1 (p.owed - 1)
          · have ends :
                cut (some p) (b :: rest) = .bad p.bytes.reverse :: cut none (b :: rest) := by
              simp only [cut, if_neg within]
            rw [ends, shownFeeds_bad, afresh]

end Utf8

/-- Bytes shown loosely show their own line feeds and no others. -/
theorem lineFeeds_lossy (bytes : List UInt8) :
    lineFeeds (Utf8.lossy bytes) = bytes.count 0x0A := by
  rw [Utf8.lossy, lineFeeds_ofList]
  exact Utf8.shownFeeds_cut none nofun bytes

/-! ## Digits -/

theorem digitChar_ne_lineFeed : ∀ n < 16, Nat.digitChar n ≠ '\n' := by
  decide

theorem lineFeed_not_mem_toDigits {base : Nat} (low : 1 < base) (high : base ≤ 16) (n : Nat) :
    '\n' ∉ Nat.toDigits base n := by
  induction n using Nat.strongRecOn with
  | ind n ih =>
      by_cases small : n < base
      · rw [Nat.toDigits_of_lt_base small, List.mem_singleton]
        exact (digitChar_ne_lineFeed n (by omega)).symm
      · have fewer : n / base < n := Nat.div_lt_self (by omega) low
        have digit : n % base < base := Nat.mod_lt n (by omega)
        rw [Nat.toDigits_of_base_le low (by omega), List.mem_append, List.mem_singleton]
        rintro (before | last)
        · exact ih (n / base) fewer before
        · exact digitChar_ne_lineFeed (n % base) (by omega) last.symm

theorem lineFeeds_nat (n : Nat) : lineFeeds (toString n) = 0 := by
  rw [Nat.toString_eq_repr, Nat.repr_eq_ofList_toDigits, lineFeeds_ofList]
  exact List.count_eq_zero.mpr (lineFeed_not_mem_toDigits (by decide) (by decide) n)

theorem lineFeeds_int (n : Int) : lineFeeds (toString n) = 0 := by
  have sign : lineFeeds "-" = 0 := rfl
  rw [Int.toString_eq_repr, Int.repr_eq_if]
  split
  · exact lineFeeds_nat n.toNat
  · rw [lineFeeds_append, sign, Nat.zero_add]
    exact lineFeeds_nat (-n).toNat

/-! ## Quoted texts -/

theorem lineFeed_not_mem_escaped (c : Char) : '\n' ∉ escaped c := by
  rw [escaped]
  cases known : letterEscape? c with
  | some letter =>
      have letters : letter ≠ '\n' := by
        unfold letterEscape? at known
        repeat' split at known
        all_goals cases known
        all_goals decide
      simp [letters.symm]
  | none =>
      have other : c ≠ '\n' := by
        rintro rfl
        cases known
      have digits : '\n' ∉ Nat.toDigits 16 c.toNat :=
        lineFeed_not_mem_toDigits (by decide) (by decide) _
      simp only
      split
      · simp [other.symm]
      · simp [digits]

/-- A quoted text stands on one line. -/
theorem lineFeeds_quoted (text : String) : lineFeeds (quoted text) = 0 := by
  rw [quoted, inQuotes, lineFeeds_ofList]
  apply List.count_eq_zero.mpr
  simp [lineFeed_not_mem_escaped]

end Text

open Text

theorem lineFeeds_topics (topics : List String) : lineFeeds (topicsShown topics).inline = 0 := by
  have parts : Shown.inlineParts (topics.map fun topic => .atom (quoted topic)) =
      topics.map quoted := by
    induction topics with
    | nil => rfl
    | cons topic rest ih =>
        rw [List.map_cons, Shown.inlineParts, ih]
        rfl
  have inside : lineFeeds (", ".intercalate (topics.map quoted)) = 0 := by
    apply lineFeeds_intercalate rfl
    intro part member
    obtain ⟨topic, -, rfl⟩ := List.mem_map.mp member
    exact lineFeeds_quoted topic
  have opens : lineFeeds "[" = 0 := rfl
  have closes : lineFeeds "]" = 0 := rfl
  rw [topicsShown, Shown.inline, parts, lineFeeds_append, lineFeeds_append, inside, opens, closes]

/-! ## Numbers -/

theorem lineFeed_not_mem_shortest (tie : Tie) (x : Binary64) :
    '\n' ∉ (x.shortest tie).digits := by
  have digits (c : Nat) (place : Int) : '\n' ∉ (Binary64.decimalOf c place).digits := by
    intro member
    rw [Binary64.decimalOf, List.mem_reverse] at member
    have written := List.mem_reverse.mp ((List.dropWhile_sublist _).subset member)
    exact lineFeed_not_mem_toDigits (by decide) (by decide) c written
  have tried (left count : Nat) :
      '\n' ∉ (Binary64.shortestFrom tie x x.magnitude left count).digits := by
    induction left generalizing count with
    | zero => exact digits _ _
    | succ left ih =>
        rw [Binary64.shortestFrom]
        split
        · exact digits _ _
        · exact ih (count + 1)
  exact tried 17 1

namespace Layout

variable {d : Decimal} (digits : '\n' ∉ d.digits)

include digits

theorem lineFeed_not_mem_positionalText : '\n' ∉ positionalText d := by
  have zeros (n : Nat) : '\n' ∉ Layout.zeros n := by
    simp [Layout.zeros, List.mem_replicate]
  have front : '\n' ∉ d.digits.take d.point.toNat :=
    fun member => digits (List.mem_of_mem_take member)
  have back : '\n' ∉ d.digits.drop d.point.toNat :=
    fun member => digits (List.mem_of_mem_drop member)
  unfold positionalText
  simp only
  repeat' split
  · simp [zeros, digits]
  · simp [zeros, digits]
  · simp [front, back]

theorem lineFeed_not_mem_exponentText : '\n' ∉ exponentText d := by
  have power : '\n' ∉ Nat.toDigits 10 (d.point - 1).natAbs :=
    lineFeed_not_mem_toDigits (by decide) (by decide) _
  have sign : '\n' ≠ if d.point - 1 < 0 then '-' else '+' := by
    split <;> decide
  rw [exponentText]
  -- Which sign it is does not matter, and its condition is better left as it is.
  generalize (if d.point - 1 < 0 then '-' else '+') = mark at sign ⊢
  split
  · rename_i first second rest spelt
    rw [spelt, List.mem_cons, List.mem_cons, not_or, not_or] at digits
    simp [digits, power, sign]
  · simp [digits, power, sign]

omit digits

/-- A number stands on one line in any layout. -/
theorem lineFeeds_text (layout : Layout) (negative : Bool) (x : Binary64) :
    lineFeeds (layout.text negative x) = 0 := by
  have digits := lineFeed_not_mem_shortest layout.tie x
  have magnitude : '\n' ∉ layout.magnitudeText x := by
    unfold magnitudeText
    split
    · decide
    · simp only
      split
      · exact lineFeed_not_mem_positionalText digits
      · exact lineFeed_not_mem_exponentText digits
  rw [text, lineFeeds_ofList]
  apply List.count_eq_zero.mpr
  split <;> simp [magnitude]

end Layout

end NodeSettings
