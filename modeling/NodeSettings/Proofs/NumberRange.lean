/-
# NodeSettings.Proofs.NumberRange -- which number literals are in range

A literal stands for its digits times a power of ten (`Figures.magnitude`), however many
digits it has.  It is read by way of the first of them only, those that fit 64 bits, and
of three roundings.  So next to the greatest magnitude it depends on these whether a
literal is in range.  But one that is well inside is in range (`number?_of_inRange`) and
one that is well outside is not (`number?_of_outOfRange`).  Between the two lies one part
in `10 ^ 15`.

An exponent part of more than 32 bits with sign puts every literal out of range that is
not zero, wherever its point stands.
-/
import NodeSettings.Proofs.Rounding
import NodeSettings.Proofs.Written.Figures

namespace NodeSettings

set_option autoImplicit false

namespace Figures

/-- The digits of a literal, without its point. -/
def digits (f : Figures) : Nat :=
  digitsFrom 0 (f.whole ++ f.fraction)

def exponent (f : Figures) : Int :=
  f.power.elim 0 Power.value

/-- What a literal stands for, but for its sign. -/
def magnitude (f : Figures) : ℚ :=
  f.digits * 10 ^ (f.exponent - f.fraction.length)

/-- A literal is well inside the range. -/
structure InRange (f : Figures) : Prop where
  small : f.magnitude ≤ Binary64.lastInside
  short : f.digits ≠ 0 → f.exponent ≤ 2147483647

/-- A literal is well outside the range. -/
inductive OutOfRange (f : Figures) : Prop
  | large (ge : Binary64.firstOutside ≤ f.magnitude)
  | long (some : f.digits ≠ 0) (exponent : 2147483647 < f.exponent)

end Figures

/-! ## Collecting digits -/

/-- A significand with its scale is what digits come to, exactly or as far as their first
digits go, which are `10 ^ 18` or more. -/
inductive Significand.Leads (value : Nat) (scale : Int) (n : Nat) : Prop
  | exact (same : value = n) (unscaled : scale = 0)
  | rough {first place : Nat} (many : 10 ^ 18 ≤ first) (le : first * 10 ^ place ≤ n)
      (lt : n < (first + 1) * 10 ^ place)
      (leading : (first * 10 ^ place : ℚ) ≤ value * 10 ^ scale)
      (before : ((value + 1) * 10 ^ scale : ℚ) ≤ (first + 1) * 10 ^ place)

theorem lead_longer {first place n d : Nat} (digit : d < 10) (le : first * 10 ^ place ≤ n)
    (lt : n < (first + 1) * 10 ^ place) :
    first * 10 ^ (place + 1) ≤ n * 10 + d ∧ n * 10 + d < (first + 1) * 10 ^ (place + 1) := by
  rw [pow_succ, ← Nat.mul_assoc, ← Nat.mul_assoc]
  omega

namespace Significand.Leads

variable {value n d : Nat} {scale : Int} (leads : Leads value scale n)

include leads

/-- One more digit is taken. -/
theorem taken (digit : d < 10) : Leads (value * 10 + d) scale (n * 10 + d) := by
  cases leads with
  | exact same unscaled => exact .exact (by rw [same]) unscaled
  | @rough first place many le lt leading before =>
      obtain ⟨le', lt'⟩ := lead_longer digit le lt
      have digit_nonneg : (0 : ℚ) ≤ d * 10 ^ scale := by positivity
      have digit_le : (d + 1 : ℚ) * 10 ^ scale ≤ 10 * 10 ^ scale := by
        have : (d + 1 : ℚ) ≤ 10 := by exact_mod_cast digit
        exact mul_le_mul_of_nonneg_right this (by positivity)
      refine @rough _ _ _ first (place + 1) many le' lt' ?_ ?_
      · push_cast
        rw [pow_succ]
        linarith
      · push_cast
        rw [pow_succ]
        linarith

/-- One more digit is turned away. -/
theorem turnedAway (digit : d < 10) (large : 10 ^ 18 ≤ value) :
    Leads value (scale + 1) (n * 10 + d) := by
  have ten : (10 : ℚ) ≠ 0 := by norm_num
  cases leads with
  | exact same unscaled =>
      refine @rough _ _ _ value 1 large ?_ ?_ ?_ ?_
      · omega
      · omega
      · rw [unscaled, zero_add, zpow_one, pow_one]
      · rw [unscaled, zero_add, zpow_one, pow_one]
  | @rough first place many le lt leading before =>
      obtain ⟨le', lt'⟩ := lead_longer digit le lt
      refine @rough _ _ _ first (place + 1) many le' lt' ?_ ?_
      · rw [zpow_add_one₀ ten, pow_succ]
        linarith
      · rw [zpow_add_one₀ ten, pow_succ]
        linarith

/-- What begins with the same digits is close. -/
theorem close : Close Binary64.collecting (value * 10 ^ scale) n := by
  cases leads with
  | exact same unscaled =>
      rw [same, unscaled, zpow_zero, mul_one]
      have : (0 : ℚ) ≤ n := by positivity
      constructor <;> rw [Binary64.collecting] <;> linarith
  | @rough first place many le lt leading before =>
      have many : (10 ^ 18 : ℚ) ≤ first := by exact_mod_cast many
      have le : (first * 10 ^ place : ℚ) ≤ n := by exact_mod_cast le
      have lt : (n : ℚ) ≤ (first + 1) * 10 ^ place := by exact_mod_cast lt.le
      have power : (0 : ℚ) < 10 ^ scale := by positivity
      -- One more at the last of the first digits is little against all of them.
      have next : ((first + 1) * 10 ^ place : ℚ) ≤
          Binary64.collecting * (first * 10 ^ place) := by
        have digits : (10 ^ 18 * 10 ^ place : ℚ) ≤ first * 10 ^ place :=
          mul_le_mul_of_nonneg_right many (by positivity)
        rw [Binary64.collecting]
        linarith
      constructor
      · calc (value * 10 ^ scale : ℚ) ≤ (value + 1) * 10 ^ scale := by linarith
          _ ≤ (first + 1) * 10 ^ place := before
          _ ≤ Binary64.collecting * (first * 10 ^ place) := next
          _ ≤ Binary64.collecting * n :=
              mul_le_mul_of_nonneg_left le Binary64.collecting_pos.le
      · calc (n : ℚ) ≤ (first + 1) * 10 ^ place := lt
          _ ≤ Binary64.collecting * (first * 10 ^ place) := next
          _ ≤ Binary64.collecting * (value * 10 ^ scale) :=
              mul_le_mul_of_nonneg_left leading Binary64.collecting_pos.le

end Significand.Leads

/-- A significand collected from digits of which some stand after the point. -/
structure Significand.Collects (s : Significand) (n points : Nat) : Prop where
  small : s.value < 2 ^ 64
  large : s.full = true → 10 ^ 18 ≤ s.value
  leads : Leads s.value (s.scale + points) n

namespace Significand

theorem fits_iff {s : Significand} {d : Nat} :
    s.fits d = true ↔ s.value * 10 + d < 18446744073709551616 :=
  decide_eq_true_iff

theorem Collects.addWhole {s : Significand} {n d : Nat} (collects : s.Collects n 0)
    (digit : d < 10) : (s.addWhole d).Collects (n * 10 + d) 0 := by
  obtain ⟨small, large, leads⟩ := collects
  unfold Significand.addWhole
  split
  · rename_i takes
    obtain ⟨free, fits⟩ := Bool.and_eq_true_iff.mp takes
    rw [fits_iff] at fits
    refine ⟨fits, ?_, leads.taken digit⟩
    intro full
    rw [full] at free
    cases free
  · rename_i refused
    have many : 10 ^ 18 ≤ s.value := by
      cases full : s.full with
      | true => exact large full
      | false =>
          rw [full, Bool.not_false, Bool.true_and, fits_iff] at refused
          omega
    refine ⟨small, fun _ => many, ?_⟩
    have scale : s.scale + 1 + (0 : Nat) = s.scale + (0 : Nat) + 1 := by omega
    rw [scale]
    exact leads.turnedAway digit many

theorem Collects.addFraction {s : Significand} {n d points : Nat} (collects : s.Collects n points)
    (digit : d < 10) : (s.addFraction d).Collects (n * 10 + d) (points + 1) := by
  obtain ⟨small, large, leads⟩ := collects
  have kept : s.scale + ((points + 1 : Nat) : Int) = s.scale + points + 1 := by omega
  have moved : s.scale - 1 + ((points + 1 : Nat) : Int) = s.scale + points := by omega
  unfold Significand.addFraction
  split
  · rename_i full
    refine ⟨small, large, ?_⟩
    rw [kept]
    exact leads.turnedAway digit (large full)
  · rename_i free
    split
    · rename_i fits
      rw [fits_iff] at fits
      refine ⟨fits, fun full => absurd full free, ?_⟩
      rw [moved]
      exact leads.taken digit
    · rename_i refused
      rw [fits_iff] at refused
      have many : 10 ^ 18 ≤ s.value := by omega
      refine ⟨small, fun _ => many, ?_⟩
      rw [kept]
      exact leads.turnedAway digit many

theorem Collects.wholes {s : Significand} {n : Nat} (collects : s.Collects n 0)
    (digits : List Digit) :
    ((digits.map Fin.val).foldl Significand.addWhole s).Collects (digitsFrom n digits) 0 := by
  induction digits generalizing s n with
  | nil => exact collects
  | cons d rest ih => exact ih (collects.addWhole d.isLt)

theorem Collects.fractions {s : Significand} {n points : Nat} (collects : s.Collects n points)
    (digits : List Digit) :
    ((digits.map Fin.val).foldl Significand.addFraction s).Collects (digitsFrom n digits)
      (points + digits.length) := by
  induction digits generalizing s n points with
  | nil => exact collects
  | cons d rest ih =>
      have longer : points + (d :: rest).length = points + 1 + rest.length := by
        rw [List.length_cons]
        omega
      rw [longer]
      exact ih (collects.addFraction d.isLt)

end Significand

/-! ## Literals in range and out of it -/

namespace Figures

variable {f : Figures}

theorem collects (f : Figures) : f.numeral.significand.Collects f.digits f.fraction.length := by
  have start : Significand.Collects {} 0 0 := ⟨by decide, nofun, .exact rfl rfl⟩
  obtain ⟨small, -, leads⟩ := start.wholes f.whole
  have point : Significand.Collects { f.numeral.wholeSignificand with full := false }
      (digitsFrom 0 f.whole) 0 :=
    ⟨small, nofun, leads⟩
  have all := point.fractions f.fraction
  rw [Nat.zero_add] at all
  rw [digits, digitsFrom, List.foldl_append]
  exact all

/-- **What is read of a literal is close to what it stands for.** -/
theorem close (f : Figures) : Close Binary64.collecting
    (f.numeral.significand.value * 10 ^ (f.numeral.significand.scale + f.exponent))
    f.magnitude := by
  have ten : (10 : ℚ) ≠ 0 := by norm_num
  have power : (0 : ℚ) ≤ 10 ^ (f.exponent - f.fraction.length) := by positivity
  have scale : f.numeral.significand.scale + f.exponent =
      f.numeral.significand.scale + f.fraction.length + (f.exponent - f.fraction.length) := by
    omega
  obtain ⟨le, ge⟩ := f.collects.leads.close
  rw [scale, zpow_add₀ ten, ← mul_assoc, magnitude]
  constructor
  · rw [← mul_assoc]
    exact mul_le_mul_of_nonneg_right le power
  · rw [← mul_assoc]
    exact mul_le_mul_of_nonneg_right ge power

theorem value_eq_zero (f : Figures) : f.numeral.significand.value = 0 ↔ f.digits = 0 := by
  obtain ⟨le, ge⟩ := f.collects.leads.close
  have power : (0 : ℚ) < 10 ^ (f.numeral.significand.scale + f.fraction.length) := by positivity
  constructor
  · intro zero
    rw [zero, Nat.cast_zero, zero_mul, mul_zero] at ge
    exact_mod_cast le_antisymm ge (Nat.cast_nonneg f.digits)
  · intro zero
    rw [zero, Nat.cast_zero, mul_zero] at le
    exact_mod_cast le_antisymm (nonpos_of_mul_nonpos_left le power) (Nat.cast_nonneg _)

theorem overflows_iff : f.overflows = true ↔ f.digits ≠ 0 ∧ 2147483647 < f.exponent := by
  have most : Int32.maxValue.toInt = 2147483647 := by decide
  have zero := f.value_eq_zero
  unfold overflows exponent
  cases f.power with
  | none => simp
  | some p =>
      simp only [Option.any_some, Option.elim_some, Power.value, most]
      cases p.negative with
      | true => simp
      | false => simp [zero]; omega

theorem magnitude?_eq {x : Binary64}
    (same : Binary64.ofNat f.numeral.significand.value = some x) :
    f.numeral.magnitude? = x.scaled (f.numeral.significand.scale + f.exponent) := by
  have exponent : f.numeral.exponent.getD 0 = f.exponent := by
    rw [Figures.exponent, numeral]
    cases f.power <;> rfl
  rw [Numeral.magnitude?, same, exponent]
  rfl

/-- **A literal that is well inside the range is a number.** -/
theorem number?_of_inRange (inside : f.InRange) : ∃ n, f.number? = some n := by
  have short : ¬ f.overflows = true := by
    rw [overflows_iff]
    rintro ⟨some, long⟩
    have := inside.short some
    omega
  obtain ⟨x, same, bounded⟩ := Binary64.ofNat_of_lt f.collects.small
  obtain ⟨z, scaled⟩ := Binary64.scaled_of_le same f.close bounded inside.small
  rw [number?, if_neg short, Numeral.number?]
  cases f.numeral.integer? with
  | some n => exact ⟨_, rfl⟩
  | none => exact ⟨_, by rw [magnitude?_eq same, scaled]; rfl⟩

/-- The magnitude of an integer is that of the integer. -/
theorem magnitude_of_integer? {n : Int} (denotes : f.integer? = some n) :
    f.magnitude = n.natAbs := by
  obtain ⟨noFraction, noPower, -, rfl⟩ := integer?_eq_some.mp denotes
  have digits : f.digits = digitsFrom 0 f.whole := by
    rw [Figures.digits, noFraction, List.append_nil]
  rw [magnitude, exponent, noFraction, noPower, digits]
  cases f.negative <;> simp

/-- **A literal that is well outside it is none.** -/
theorem number?_of_outOfRange (outside : f.OutOfRange) : f.number? = none := by
  rw [number?]
  split
  · rfl
  · rename_i short
    cases outside with
    | long some exponent => exact absurd (overflows_iff.mpr ⟨some, exponent⟩) short
    | large ge =>
        obtain ⟨x, same, -⟩ := Binary64.ofNat_of_lt f.collects.small
        have none := Binary64.scaled_eq_none same f.collects.small f.close ge
        have wide : f.numeral.integer? = Option.none := by
          apply Option.eq_none_iff_forall_ne_some.mpr
          intro n known
          obtain ⟨denotes, low, high⟩ := integer?_numeral.mp known
          obtain ⟨-, -, room, -⟩ := Binary64.margins
          rw [magnitude_of_integer? denotes] at ge
          have ge : Binary64.firstOutside ≤ n.natAbs := by exact_mod_cast ge
          omega
        rw [Numeral.number?, wide, magnitude?_eq same, none]
        rfl

/-! ## Literals by their length -/

theorem digitsFrom_lt (n : Nat) (digits : List Digit) :
    digitsFrom n digits < (n + 1) * 10 ^ digits.length := by
  induction digits generalizing n with
  | nil => simp [digitsFrom]
  | cons d rest ih =>
      calc digitsFrom (n * 10 + d.val) rest < (n * 10 + d.val + 1) * 10 ^ rest.length := ih _
        _ ≤ (n + 1) * 10 * 10 ^ rest.length := Nat.mul_le_mul_right _ (by omega)
        _ = (n + 1) * 10 ^ (d :: rest).length := by rw [List.length_cons, pow_succ]; ring

/-- The whole digits and the exponent bound what a literal stands for. -/
theorem magnitude_le (f : Figures) : f.magnitude ≤ 10 ^ (f.whole.length + f.exponent) := by
  have ten : (10 : ℚ) ≠ 0 := by norm_num
  have bound := digitsFrom_lt 0 (f.whole ++ f.fraction)
  rw [Nat.zero_add, Nat.one_mul] at bound
  have bound : (f.digits : ℚ) ≤ 10 ^ (f.whole ++ f.fraction).length := by exact_mod_cast bound.le
  have length : ((f.whole ++ f.fraction).length : Int) + (f.exponent - f.fraction.length) =
      f.whole.length + f.exponent := by
    rw [List.length_append]
    omega
  rw [magnitude, ← length, zpow_add₀ ten, zpow_natCast]
  exact mul_le_mul_of_nonneg_right bound (by positivity)

/-- **A literal of at most 308 places before the point is in range.** -/
theorem inRange_of_places (few : f.whole.length + f.exponent ≤ 308) : f.InRange := by
  refine ⟨le_trans f.magnitude_le ?_, fun _ => by omega⟩
  cases places : f.whole.length + f.exponent with
  | ofNat n =>
      have few : n ≤ Binary64.maxTenPower := by
        rw [places] at few
        exact Int.ofNat_le.mp few
      rw [Int.ofNat_eq_natCast, zpow_natCast]
      exact_mod_cast Binary64.tenTo_le n few
  | negSucc n =>
      have least : (1 : ℚ) ≤ Binary64.lastInside := by
        exact_mod_cast Nat.le_trans (Nat.one_le_two_pow) Binary64.lastInside_large
      rw [zpow_negSucc]
      exact le_trans (inv_le_one_of_one_le₀ (one_le_pow₀ (by norm_num))) least

/-- **A literal of more than 308 places is out of range**, if it is not zero and its last
digit stands beyond them. -/
theorem outOfRange_of_places (some : f.digits ≠ 0)
    (many : 308 + f.fraction.length < f.exponent) : f.OutOfRange := by
  obtain ⟨n, same⟩ := Int.eq_ofNat_of_zero_le (show 0 ≤ f.exponent - f.fraction.length by omega)
  have large : Binary64.maxTenPower < n := by
    unfold Binary64.maxTenPower
    omega
  have one_le : (1 : ℚ) ≤ f.digits := by exact_mod_cast Nat.one_le_iff_ne_zero.mpr some
  apply OutOfRange.large
  rw [magnitude, same, zpow_natCast]
  calc (Binary64.firstOutside : ℚ) ≤ 10 ^ n := by
        exact_mod_cast Nat.le_trans Binary64.margins.2.2.2 (Binary64.le_tenTo large)
    _ ≤ f.digits * 10 ^ n := le_mul_of_one_le_left (by positivity) one_le

end Figures

end NodeSettings
