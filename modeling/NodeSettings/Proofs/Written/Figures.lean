/-
# NodeSettings.Proofs.Written.Figures -- number literals as they are written

`Figures` is a number literal: an optional minus, whole digits without a needless
leading zero, fraction digits if there is a fraction, and an exponent part if
there is one.  `Figures.bytes` writes it, `Figures.numeral` is the numeral it is
read as, and `Figures.integer?` the integer it denotes, with no bound on its
size.

The 64 bits a whole part is collected in lose nothing within their range
(`wholeSignificand_value`), so within 64 bits with sign the numeral is that
integer exactly when the figures denote one (`int64?_number`).
-/
import NodeSettings.Interpretation
import NodeSettings.Reader.Draft

namespace NodeSettings

open Text

set_option autoImplicit false

abbrev Digit := Fin 10

/-- The last digit of a number. -/
def Digit.ofNat (n : Nat) : Digit :=
  Fin.ofNat 10 n

def Digit.byte (d : Digit) : UInt8 :=
  (0x30 + d.val).toUInt8

/-- The number digits spell, going on from `n`. -/
def digitsFrom (n : Nat) (digits : List Digit) : Nat :=
  digits.foldl (fun n d => n * 10 + d.val) n

inductive Sign where
  | plus
  | minus
deriving DecidableEq, Repr

def Sign.byte : Sign → UInt8
  | plus => ascii '+'
  | minus => ascii '-'

/-- An exponent part. -/
structure Power where
  capital : Bool
  sign : Option Sign
  digits : List Digit
  some_digit : digits ≠ []
deriving DecidableEq, Repr

namespace Power

def mark (p : Power) : UInt8 :=
  if p.capital then ascii 'E' else ascii 'e'

def bytes (p : Power) : Bytes :=
  p.mark :: (p.sign.toList.map Sign.byte ++ p.digits.map Digit.byte)

def negative (p : Power) : Bool :=
  p.sign = some .minus

def value (p : Power) : Int :=
  if p.negative then -(digitsFrom 0 p.digits : Int) else digitsFrom 0 p.digits

end Power

/-- A number literal; it has a fraction exactly if it has fraction digits. -/
structure Figures where
  negative : Bool
  whole : List Digit
  fraction : List Digit
  power : Option Power
  whole_plain : whole = [0] ∨ ∃ d rest, whole = d :: rest ∧ d ≠ 0
deriving DecidableEq

namespace Figures

def wholeBytes (f : Figures) : Bytes :=
  (if f.negative then [ascii '-'] else []) ++ f.whole.map Digit.byte

def fractionBytes (f : Figures) : Bytes :=
  if f.fraction = [] then [] else ascii '.' :: f.fraction.map Digit.byte

def bytes (f : Figures) : Bytes :=
  f.wholeBytes ++ (f.fractionBytes ++ (f.power.elim [] Power.bytes))

/-- The integer a literal denotes: only one without fraction and exponent part
does, and `-0` does not. -/
def integer? (f : Figures) : Option Int :=
  let n := digitsFrom 0 f.whole
  if f.fraction ≠ [] ∨ f.power.isSome ∨ (f.negative ∧ n = 0) then none
  else some (if f.negative then -(n : Int) else n)

/-- The same, if it fits 64 bits with sign. -/
def integer64? (f : Figures) : Option Int :=
  f.integer?.filter fun n => -9223372036854775808 ≤ n && n ≤ 9223372036854775807

/-- Whether a byte would go on with a literal, were it to follow it. -/
def goesOn (f : Figures) (b : UInt8) : Bool :=
  (digit? b).isSome ||
    (f.power.isNone && (b = ascii 'e' || b = ascii 'E' || (f.fraction = [] && b = ascii '.')))

def numeral (f : Figures) : Numeral where
  negative := f.negative
  whole := f.whole.map Fin.val
  fraction := f.fraction.map Fin.val
  exponent := f.power.map Power.value

/-- Whether the exponent part alone puts a literal out of range: it does not fit
31 bits, and the number is neither zero nor made small by it. -/
def overflows (f : Figures) : Bool :=
  f.power.any fun p =>
    !p.negative && Int32.maxValue.toInt < digitsFrom 0 p.digits &&
      f.numeral.significand.value ≠ 0

/-- What a literal that is kept is read as; `none` if it is out of range. -/
def number? (f : Figures) : Option Number :=
  if f.overflows then none else f.numeral.number?

end Figures

/-! ## Digits -/

theorem digit?_byte (d : Digit) : digit? d.byte = some d.val := by
  revert d
  decide

theorem byte_of_digit? {b : UInt8} {n : Nat} (digit : digit? b = some n) :
    ∃ d : Digit, d.byte = b ∧ d.val = n := by
  unfold digit? at digit
  split at digit
  · rename_i range
    obtain ⟨low, high⟩ := range
    have low := UInt8.le_iff_toNat_le.mp low
    have high := UInt8.le_iff_toNat_le.mp high
    simp only [UInt8.reduceToNat] at low high
    simp only [Option.some.injEq] at digit
    refine ⟨⟨n, by omega⟩, ?_, rfl⟩
    have sum : 0x30 + n = b.toNat := by omega
    simp only [Digit.byte, sum, Nat.toUInt8_eq, UInt8.ofNat_toNat]
  · cases digit

theorem digitsFrom_cons (n : Nat) (d : Digit) (rest : List Digit) :
    digitsFrom n (d :: rest) = digitsFrom (n * 10 + d.val) rest :=
  rfl

theorem le_digitsFrom (n : Nat) (digits : List Digit) : n ≤ digitsFrom n digits := by
  induction digits generalizing n with
  | nil => exact Nat.le_refl n
  | cons d rest ih =>
      have := ih (n * 10 + d.val)
      rw [digitsFrom_cons]
      omega

/-! ## Collecting whole digits -/

namespace Significand

/-- Once a whole digit has been turned away no more are taken. -/
theorem addWhole_full (s : Significand) (digits : List Digit) (full : s.full = true) :
    ((digits.map Fin.val).foldl addWhole s).full = true ∧
      ((digits.map Fin.val).foldl addWhole s).value = s.value := by
  induction digits generalizing s with
  | nil => exact ⟨full, rfl⟩
  | cons d rest ih =>
      have kept : s.addWhole d.val = { s with scale := s.scale + 1, full := true } := by
        simp [addWhole, full]
      simpa [kept] using ih { s with scale := s.scale + 1, full := true } rfl

/-- Whole digits are collected exactly as long as their number fits 64 bits. -/
theorem addWhole_value (s : Significand) (digits : List Digit) (free : s.full = false)
    (small : s.value < UInt64.size) :
    let after := (digits.map Fin.val).foldl addWhole s
    (after.full = true ↔ UInt64.size ≤ digitsFrom s.value digits) ∧
      (after.full = false → after.value = digitsFrom s.value digits) := by
  induction digits generalizing s with
  | nil =>
      refine ⟨⟨?_, ?_⟩, fun _ => rfl⟩
      · intro full
        exact absurd (full.symm.trans free) (by decide)
      · intro large
        exact absurd large (Nat.not_le.mpr small)
  | cons d rest ih =>
      rw [digitsFrom_cons, List.map_cons, List.foldl_cons]
      by_cases fits : s.value * 10 + d.val < UInt64.size
      · have step : s.addWhole d.val = { s with value := s.value * 10 + d.val } := by
          simp [addWhole, free, Significand.fits, fits]
        rw [step]
        exact ih { s with value := s.value * 10 + d.val } free fits
      · have step : s.addWhole d.val = { s with scale := s.scale + 1, full := true } := by
          simp [addWhole, Significand.fits, fits]
        have full := (addWhole_full { s with scale := s.scale + 1, full := true } rest rfl).1
        have grown := le_digitsFrom (s.value * 10 + d.val) rest
        rw [step]
        have large : UInt64.size ≤ digitsFrom (s.value * 10 + d.val) rest := by omega
        refine ⟨⟨fun _ => large, fun _ => full⟩, ?_⟩
        intro open'
        rw [full] at open'
        cases open'

end Significand

namespace Figures

theorem wholeSignificand_value (f : Figures) :
    (f.numeral.wholeSignificand.full = true ↔ UInt64.size ≤ digitsFrom 0 f.whole) ∧
      (f.numeral.wholeSignificand.full = false →
        f.numeral.wholeSignificand.value = digitsFrom 0 f.whole) :=
  Significand.addWhole_value {} f.whole rfl (by decide)

theorem integer?_eq_some {f : Figures} {n : Int} :
    f.integer? = some n ↔
      f.fraction = [] ∧ f.power = none ∧ (f.negative = true → digitsFrom 0 f.whole ≠ 0) ∧
        n = if f.negative then -(digitsFrom 0 f.whole : Int) else digitsFrom 0 f.whole := by
  simp only [integer?]
  split
  · rename_i refused
    constructor
    · intro same
      cases same
    · rintro ⟨noFraction, noPower, nonzero, -⟩
      rcases refused with h | h | ⟨h, zero⟩
      · exact absurd noFraction h
      · simp [noPower] at h
      · exact absurd zero (nonzero h)
  · rename_i denoting
    simp only [not_or, not_and, ne_eq, Decidable.not_not, Option.not_isSome_iff_eq_none]
      at denoting
    simp only [Option.some.injEq]
    constructor
    · intro same
      exact ⟨denoting.1, denoting.2.1, denoting.2.2, same.symm⟩
    · rintro ⟨-, -, -, same⟩
      exact same.symm

/-- The numeral of a literal is the integer the literal denotes, within 64 bits:
without sign for one that has none, and with sign for one with a minus. -/
theorem integer?_numeral {f : Figures} {n : Int} :
    f.numeral.integer? = some n ↔
      f.integer? = some n ∧ -9223372036854775808 ≤ n ∧ n ≤ 18446744073709551615 := by
  obtain ⟨full, value⟩ := f.wholeSignificand_value
  have low : Int64.minValue.toInt = -9223372036854775808 := by decide
  have size : UInt64.size = 18446744073709551616 := rfl
  have integral : f.numeral.isIntegral = true ↔ f.fraction = [] ∧ f.power = none := by
    simp [numeral, Numeral.isIntegral]
  simp only [integer?_eq_some, Numeral.integer?, low]
  split
  · rename_i refused
    constructor
    · intro same
      cases same
    · rintro ⟨⟨noFraction, noPower, nonzero, rfl⟩, range⟩
      simp only [integral.mpr ⟨noFraction, noPower⟩, Bool.not_true, Bool.false_or] at refused
      have large := full.mp refused
      split at range <;> omega
  · rename_i collected
    simp only [Bool.or_eq_true, not_or, Bool.not_eq_true, Bool.not_eq_false'] at collected
    obtain ⟨noFraction, noPower⟩ := integral.mp collected.1
    have small : ¬ UInt64.size ≤ digitsFrom 0 f.whole := by
      intro large
      rw [full.mpr large] at collected
      cases collected.2
    rw [value collected.2, show f.numeral.negative = f.negative from rfl]
    cases f.negative with
    | false =>
        simp only [Bool.not_false, if_true, Option.some.injEq, noFraction, noPower]
        simp
        omega
    | true =>
        simp only [Bool.not_true, Bool.false_eq_true, if_false, noFraction, noPower]
        split
        · simp
          omega
        · simp
          omega

theorem integer64?_eq_some {f : Figures} {n : Int} :
    f.integer64? = some n ↔
      f.integer? = some n ∧ -9223372036854775808 ≤ n ∧ n ≤ 9223372036854775807 := by
  rw [integer64?, Option.filter_eq_some_iff]
  simp

/-- A literal is read as a 64-bit integer exactly when it denotes one. -/
theorem int64?_number {f : Figures} {n : Number} (read : f.number? = some n) :
    (Json.number n).int64?.map Int64.toInt = f.integer64? := by
  have low : Int64.minValue.toInt = -9223372036854775808 := by decide
  have high : Int64.maxValue.toInt = 9223372036854775807 := by decide
  have numeral : f.numeral.number? = some n := by
    unfold number? at read
    split at read
    · cases read
    · exact read
  cases denoted : f.numeral.integer? with
  | none =>
      have none : f.integer64? = none := by
        apply Option.eq_none_iff_forall_ne_some.mpr
        intro i hi
        obtain ⟨whole, range⟩ := integer64?_eq_some.mp hi
        rw [integer?_numeral.mpr ⟨whole, range.1, by omega⟩] at denoted
        cases denoted
      simp only [Numeral.number?, denoted, Option.map_eq_some_iff] at numeral
      obtain ⟨x, -, rfl⟩ := numeral
      rw [none]
      rfl
  | some i =>
      simp only [Numeral.number?, denoted, Option.some.injEq] at numeral
      subst numeral
      obtain ⟨whole, range⟩ := integer?_numeral.mp denoted
      simp only [Json.int64?, low, high]
      split
      · rename_i fits
        rw [Option.map_some, integer64?_eq_some.mpr ⟨whole, fits⟩,
          Int64.toInt_ofInt_of_le (by omega) (by omega)]
      · rename_i wide
        refine (Option.eq_none_iff_forall_ne_some.mpr fun j hj => ?_).symm
        obtain ⟨whole', range'⟩ := integer64?_eq_some.mp hj
        rw [whole] at whole'
        cases whole'
        exact wide range'

end Figures

/-! ## Taking figures -/

namespace Draft

/-- What a run of bytes makes of a literal. -/
def takes (strict : Bool) : Draft → Bytes → Drafted
  | d, [] => .more d
  | d, b :: rest =>
      match d.take strict b with
      | .more d => takes strict d rest
      | stopped => stopped

theorem takes_append {strict : Bool} {d after : Draft} {first : Bytes}
    (h : takes strict d first = .more after) (rest : Bytes) :
    takes strict d (first ++ rest) = takes strict after rest := by
  induction first generalizing d with
  | nil =>
      simp only [takes, Drafted.more.injEq] at h
      rw [h, List.nil_append]
  | cons b first ih =>
      simp only [takes, List.cons_append] at h ⊢
      cases taken : d.take strict b with
      | more next => simpa [taken] using ih (by simpa [taken] using h)
      | ended => simp [taken] at h
      | wrong m left => simp [taken] at h

theorem takes_whole (strict : Bool) (d : Draft) (whole : d.part = .whole) (digits : List Digit) :
    takes strict d (digits.map Digit.byte) =
      .more { d with whole := (digits.map Fin.val).reverse ++ d.whole } := by
  induction digits generalizing d with
  | nil => rfl
  | cons n rest ih =>
      have step : d.take strict n.byte = .more { d with whole := n.val :: d.whole } := by
        simp [take, whole, digit?_byte]
      simp only [List.map_cons, takes, step]
      rw [ih { d with whole := n.val :: d.whole } whole]
      simp

theorem takes_fraction (strict : Bool) (d : Draft) (fraction : d.part = .fraction)
    (digits : List Digit) :
    takes strict d (digits.map Digit.byte) =
      .more { d with fraction := (digits.map Fin.val).reverse ++ d.fraction } := by
  induction digits generalizing d with
  | nil => rfl
  | cons n rest ih =>
      have step : d.take strict n.byte = .more { d with fraction := n.val :: d.fraction } := by
        simp [take, fraction, digit?_byte]
      simp only [List.map_cons, takes, step]
      rw [ih { d with fraction := n.val :: d.fraction } fraction]
      simp

/-- Whether an exponent of this size puts a literal out of range. -/
def exceeds (strict : Bool) (d : Draft) (exponent : Nat) : Bool :=
  strict && !d.exponentNegative && Int32.maxValue.toInt < (exponent : Int) &&
    d.numeral.significand.value ≠ 0

theorem exceeds_mono {strict : Bool} {d : Draft} {m n : Nat} (le : m ≤ n)
    (h : d.exceeds strict m = true) : d.exceeds strict n = true := by
  simp only [exceeds, Bool.and_eq_true, decide_eq_true_eq] at h ⊢
  exact ⟨⟨h.1.1, by omega⟩, h.2⟩

theorem take_exponent (strict : Bool) (d : Draft)
    (within : d.part = .mark ∨ d.part = .markSign ∨ d.part = .exponent) (n : Digit) :
    d.take strict n.byte =
      if d.exceeds strict (d.exponent * 10 + n.val) then .wrong .numberRange false
      else .more { d with part := .exponent, exponent := d.exponent * 10 + n.val } := by
  have step : d.take strict n.byte = d.addExponent strict n.val := by
    rcases within with h | h | h <;> simp [take, h, digit?_byte]
  rw [step]
  rfl

/-- The digits of an exponent part go on until the exponent no longer fits, where
that matters. -/
theorem takes_exponent (strict : Bool) (d : Draft)
    (within : d.part = .mark ∨ d.part = .markSign ∨ d.part = .exponent) (n : Digit)
    (digits : List Digit) :
    takes strict d ((n :: digits).map Digit.byte) =
      if d.exceeds strict (digitsFrom d.exponent (n :: digits)) then .wrong .numberRange false
      else .more { d with part := .exponent, exponent := digitsFrom d.exponent (n :: digits) } := by
  induction digits generalizing d n with
  | nil =>
      simp only [List.map_cons, List.map_nil, takes, take_exponent strict d within,
        digitsFrom_cons]
      by_cases wide : d.exceeds strict (d.exponent * 10 + n.val) <;>
        simp [wide, digitsFrom]
  | cons m rest ih =>
      rw [List.map_cons, takes, take_exponent strict d within, digitsFrom_cons]
      by_cases wide : d.exceeds strict (d.exponent * 10 + n.val)
      · have final := exceeds_mono (le_digitsFrom (d.exponent * 10 + n.val) (m :: rest)) wide
        simp [wide, final]
      · rw [if_neg wide]
        exact ih { d with part := .exponent, exponent := d.exponent * 10 + n.val }
          (.inr (.inr rfl)) m

end Draft

namespace Figures

/-! ### The stages of a literal -/

def wholeDraft (f : Figures) : Draft where
  part := if f.whole = [0] then .zero else .whole
  negative := f.negative
  whole := (f.whole.map Fin.val).reverse

def fractionDraft (f : Figures) : Draft :=
  if f.fraction = [] then f.wholeDraft
  else { f.wholeDraft with part := .fraction, fraction := (f.fraction.map Fin.val).reverse }

/-- The literal as it stands when all its bytes have been taken. -/
def draft (f : Figures) : Draft :=
  match f.power with
  | none => f.fractionDraft
  | some p =>
      { f.fractionDraft with
        part := .exponent
        exponentNegative := p.negative
        exponent := digitsFrom 0 p.digits }

/-- A literal whose first digit has been taken. -/
def firstDraft (negative : Bool) (n : Digit) : Draft where
  part := if n = 0 then .zero else .whole
  negative := negative
  whole := [n.val]

theorem start_digit (n : Digit) : Draft.start n.byte = firstDraft false n := by
  revert n
  decide

theorem take_firstDigit (strict : Bool) (n : Digit) :
    (Draft.start (ascii '-')).take strict n.byte = .more (firstDraft true n) := by
  revert n strict
  decide

theorem takes_wholeBytes (strict : Bool) (f : Figures) :
    ∃ b rest, f.wholeBytes = b :: rest ∧
      (Draft.start b).takes strict rest = .more f.wholeDraft := by
  obtain ⟨n, digits, shape, others⟩ : ∃ n digits, f.whole = n :: digits ∧
      (firstDraft f.negative n).takes strict (digits.map Digit.byte) = .more f.wholeDraft := by
    rcases f.whole_plain with zero | ⟨n, digits, shape, nonzero⟩
    · exact ⟨0, [], zero, by simp [firstDraft, wholeDraft, zero, Draft.takes]⟩
    · refine ⟨n, digits, shape, ?_⟩
      have first : firstDraft f.negative n =
          { part := .whole, negative := f.negative, whole := [n.val] } := by
        simp [firstDraft, nonzero]
      rw [first, Draft.takes_whole _ _ rfl]
      simp [wholeDraft, shape, nonzero]
  cases negative : f.negative with
  | false =>
      refine ⟨n.byte, digits.map Digit.byte, by simp [wholeBytes, negative, shape], ?_⟩
      rw [start_digit, ← negative]
      exact others
  | true =>
      refine ⟨ascii '-', n.byte :: digits.map Digit.byte,
        by simp [wholeBytes, negative, shape], ?_⟩
      rw [Draft.takes, take_firstDigit, ← negative]
      exact others

theorem wholeDraft_part (f : Figures) : f.wholeDraft.part = .zero ∨ f.wholeDraft.part = .whole := by
  by_cases zero : f.whole = [0] <;> simp [wholeDraft, zero]

theorem takes_fractionBytes (strict : Bool) (f : Figures) :
    f.wholeDraft.takes strict f.fractionBytes = .more f.fractionDraft := by
  cases shape : f.fraction with
  | nil => simp [fractionBytes, fractionDraft, shape, Draft.takes]
  | cons n digits =>
      have point : f.wholeDraft.take strict (ascii '.') =
          .more { f.wholeDraft with part := .point } := by
        have noDigit : digit? (ascii '.') = none := by decide
        rcases f.wholeDraft_part with h | h <;> simp [Draft.take, h, noDigit, Draft.follow]
      have first : Draft.take strict { f.wholeDraft with part := .point } n.byte =
          .more { f.wholeDraft with part := .fraction, fraction := [n.val] } := by
        simp [Draft.take, digit?_byte]
      simp only [fractionBytes, shape, List.map_cons, Draft.takes, point, first, if_false,
        reduceCtorEq]
      rw [Draft.takes_fraction _ _ rfl]
      simp [fractionDraft, shape]

theorem fractionDraft_part (f : Figures) :
    f.fractionDraft.part = .zero ∨ f.fractionDraft.part = .whole ∨
      f.fractionDraft.part = .fraction := by
  by_cases none : f.fraction = []
  · simpa [fractionDraft, none] using f.wholeDraft_part.imp_right Or.inl
  · simp [fractionDraft, none]

theorem take_mark (strict : Bool) (f : Figures) (p : Power) :
    f.fractionDraft.take strict p.mark = .more { f.fractionDraft with part := .mark } := by
  have noDigit : digit? p.mark = none := by
    unfold Power.mark
    cases p.capital <;> decide
  have noPoint : ¬ p.mark = ascii '.' := by
    unfold Power.mark
    cases p.capital <;> decide
  have isMark : p.mark = ascii 'e' ∨ p.mark = ascii 'E' := by
    unfold Power.mark
    cases p.capital <;> simp
  rcases f.fractionDraft_part with h | h | h <;>
    simp [Draft.take, h, noDigit, Draft.follow, noPoint, isMark]

theorem fractionDraft_numeral (f : Figures) (part : Part) (negative : Bool) (exponent : Nat) :
    let d : Draft := { f.fractionDraft with part, exponentNegative := negative, exponent }
    d.negative = f.negative ∧ d.whole.reverse = f.whole.map Fin.val ∧
      d.fraction.reverse = f.fraction.map Fin.val := by
  by_cases none : f.fraction = [] <;> simp [fractionDraft, wholeDraft, none]

/-- A literal with an exponent part, its digits still to come. -/
def signDraft (f : Figures) (p : Power) : Draft :=
  { f.fractionDraft with
    part := if p.sign = none then .mark else .markSign
    exponentNegative := p.negative }

theorem signDraft_exceeds (strict : Bool) (f : Figures) (p : Power) (shape : f.power = some p) :
    (f.signDraft p).exceeds strict (digitsFrom 0 p.digits) = (strict && f.overflows) := by
  obtain ⟨-, whole, fraction⟩ := f.fractionDraft_numeral (f.signDraft p).part p.negative
    f.fractionDraft.exponent
  have significand : (f.signDraft p).numeral.significand = f.numeral.significand := by
    simp only [Numeral.significand, Numeral.wholeSignificand, Draft.numeral, numeral]
    rw [← whole, ← fraction]
    rfl
  simp only [Draft.exceeds, overflows, shape, Option.any_some, significand, Bool.and_assoc]
  rfl

theorem takes_mark (strict : Bool) (f : Figures) (p : Power) (rest : Bytes) :
    f.fractionDraft.takes strict (p.mark :: (p.sign.toList.map Sign.byte ++ rest)) =
      (f.signDraft p).takes strict rest := by
  have plain : f.fractionDraft.exponentNegative = false := by
    by_cases none : f.fraction = [] <;> simp [fractionDraft, wholeDraft, none]
  rw [Draft.takes, take_mark]
  cases sign : p.sign with
  | none =>
      have same : f.signDraft p = { f.fractionDraft with part := .mark } := by
        simp [signDraft, sign, Power.negative, ← plain]
      simp [same]
  | some s =>
      have taken : Draft.take strict { f.fractionDraft with part := .mark } s.byte =
          .more (f.signDraft p) := by
        cases s with
        | plus =>
            have noDigit : digit? (ascii '+') = none := by decide
            simp [Draft.take, noDigit, signDraft, sign, Power.negative, plain, Sign.byte]
        | minus =>
            have noDigit : digit? (ascii '-') = none := by decide
            have other : ¬ ascii '-' = ascii '+' := by decide
            simp [Draft.take, noDigit, signDraft, sign, Power.negative, Sign.byte, other]
      simp [Draft.takes, taken]

/-- A literal begins with a minus or a digit. -/
theorem bytes_first (f : Figures) :
    ∃ b rest, f.bytes = b :: rest ∧ (b = ascii '-' ∨ (digit? b).isSome = true) := by
  obtain ⟨d, digits, shape⟩ : ∃ d digits, f.whole = d :: digits := by
    rcases f.whole_plain with zero | ⟨d, digits, shape, -⟩
    · exact ⟨0, [], zero⟩
    · exact ⟨d, digits, shape⟩
  cases negative : f.negative with
  | false =>
      exact ⟨d.byte, _, by simp only [bytes, wholeBytes, negative, shape]; rfl,
        .inr (by simp [digit?_byte])⟩
  | true =>
      exact ⟨ascii '-', _, by simp only [bytes, wholeBytes, negative]; rfl, .inl rfl⟩

/-- **All bytes of a literal are taken**, unless it is kept and its exponent part
puts it out of range. -/
theorem takes_bytes (strict : Bool) (f : Figures) :
    ∃ b rest, f.bytes = b :: rest ∧ (Draft.start b).takes strict rest =
      if strict && f.overflows then .wrong .numberRange false else .more f.draft := by
  obtain ⟨b, whole, shape, taken⟩ := f.takes_wholeBytes strict
  refine ⟨b, whole ++ (f.fractionBytes ++ f.power.elim [] Power.bytes), ?_, ?_⟩
  · simp [bytes, shape]
  · rw [Draft.takes_append taken, Draft.takes_append (f.takes_fractionBytes strict)]
    cases power : f.power with
    | none => simp [overflows, power, draft, Draft.takes]
    | some p =>
        have within : (f.signDraft p).part = .mark ∨ (f.signDraft p).part = .markSign ∨
            (f.signDraft p).part = .exponent := by
          by_cases none : p.sign = none <;> simp [signDraft, none]
        have fresh : (f.signDraft p).exponent = 0 := by
          by_cases none : f.fraction = [] <;> simp [signDraft, fractionDraft, wholeDraft, none]
        obtain ⟨n, digits, some⟩ := List.exists_cons_of_ne_nil p.some_digit
        rw [Option.elim_some, Power.bytes, takes_mark, some,
          Draft.takes_exponent strict _ within, fresh, ← some, signDraft_exceeds strict f p power]
        simp [draft, power, signDraft]

/-! ### The end of a literal -/

theorem draft_numeral (f : Figures) : f.draft.numeral = f.numeral := by
  cases power : f.power with
  | none =>
      obtain ⟨negative, whole, fraction⟩ := f.fractionDraft_numeral f.fractionDraft.part
        f.fractionDraft.exponentNegative f.fractionDraft.exponent
      have part : f.fractionDraft.part ≠ .exponent := by
        rcases f.fractionDraft_part with h | h | h <;> simp [h]
      simp only [Draft.numeral, draft, power, numeral, part, if_false, Option.map_none]
      rw [← whole, ← fraction, ← negative]
  | some p =>
      obtain ⟨negative, whole, fraction⟩ := f.fractionDraft_numeral .exponent p.negative
        (digitsFrom 0 p.digits)
      simp only [Draft.numeral, draft, power, numeral, if_true, Option.map_some, Power.value]
      rw [← whole, ← fraction, ← negative]

theorem draft_mayEnd (f : Figures) : f.draft.mayEnd = true := by
  cases power : f.power with
  | none =>
      rcases f.fractionDraft_part with h | h | h <;> simp [draft, power, Draft.mayEnd, h]
  | some p => simp [draft, power, Draft.mayEnd]

/-- A byte that does not go on with a literal ends it. -/
theorem take_end (strict : Bool) (f : Figures) {b : UInt8} (apart : f.goesOn b = false) :
    f.draft.take strict b = .ended := by
  simp only [goesOn, Bool.or_eq_false_iff, Bool.and_eq_false_iff, decide_eq_false_iff_not]
    at apart
  have noDigit : digit? b = none := by simpa using apart.1
  cases power : f.power with
  | some p => simp [draft, power, Draft.take, noDigit]
  | none =>
      obtain ⟨noMark, point⟩ : (¬ b = ascii 'e' ∧ ¬ b = ascii 'E') ∧
          (¬ f.fraction = [] ∨ ¬ b = ascii '.') := by
        simpa [power] using apart.2
      by_cases none : f.fraction = []
      · have noPoint : ¬ b = ascii '.' := by simpa [none] using point
        rcases f.wholeDraft_part with h | h <;>
          simp [draft, power, fractionDraft, none, Draft.take, h, noDigit, Draft.follow, noPoint,
            noMark]
      · simp [draft, power, fractionDraft, none, Draft.take, noDigit, Draft.follow, noMark]

end Figures

end NodeSettings
