/-
# NodeSettings.Proofs.Rounding -- what one rounding can lose

A quotient is rounded to 53 significant bits, so above the least of the gaps the
magnitude and the quotient differ by one part in `2 ^ 53` at most
(`Binary64.rounded_close`).  A quotient that is no more than the greatest magnitude
has one (`ofRatio_of_le`), and one of `2 ^ 1024` or more has none
(`ofRatio_eq_none`).

The bounds are deliberately crude: they do not say which of two neighbours is taken,
only that the roundings of a scaling stay within a factor (`Close`) of what is scaled
without any.
-/
import Mathlib.Algebra.Order.Field.Power
import Mathlib.Data.Rat.Cast.Order
import Mathlib.Tactic.Linarith
import Mathlib.Tactic.Positivity
import Mathlib.Tactic.Ring
import NodeSettings.Number.Binary64

namespace NodeSettings

set_option autoImplicit false

/-- Neither number is more than `factor` times the other. -/
structure Close (factor a b : ℚ) : Prop where
  le : a ≤ factor * b
  ge : b ≤ factor * a

namespace Close

variable {factor factor' a a' b b' c : ℚ}

theorem trans (positive : 0 ≤ factor) (positive' : 0 ≤ factor') (first : Close factor a b)
    (second : Close factor' b c) : Close (factor * factor') a c where
  le :=
    calc a ≤ factor * b := first.le
      _ ≤ factor * (factor' * c) := mul_le_mul_of_nonneg_left second.le positive
      _ = factor * factor' * c := by ring
  ge :=
    calc c ≤ factor' * b := second.ge
      _ ≤ factor' * (factor * a) := mul_le_mul_of_nonneg_left first.ge positive'
      _ = factor * factor' * a := by ring

theorem mul (positive : 0 ≤ factor) (a_nonneg : 0 ≤ a) (a'_nonneg : 0 ≤ a') (b_nonneg : 0 ≤ b)
    (b'_nonneg : 0 ≤ b') (first : Close factor a b) (second : Close factor' a' b') :
    Close (factor * factor') (a * a') (b * b') where
  le :=
    calc a * a' ≤ factor * b * (factor' * b') :=
          mul_le_mul first.le second.le a'_nonneg (mul_nonneg positive b_nonneg)
      _ = factor * factor' * (b * b') := by ring
  ge :=
    calc b * b' ≤ factor * a * (factor' * a') :=
          mul_le_mul first.ge second.ge b'_nonneg (mul_nonneg positive a_nonneg)
      _ = factor * factor' * (a * a') := by ring

end Close

/-! ## The nearest natural -/

theorem nearestEven_near (num : Nat) {den : Nat} (positive : 0 < den) :
    2 * num ≤ 2 * (nearestEven num den * den) + den ∧
      2 * (nearestEven num den * den) ≤ 2 * num + den := by
  have split := Nat.div_add_mod num den
  have small := Nat.mod_lt num positive
  have next : (num / den + 1) * den = den * (num / den) + den := by ring
  have same : num / den * den = den * (num / den) := Nat.mul_comm _ _
  unfold nearestEven
  dsimp only
  split_ifs <;> omega

theorem nearestEven_le {num den n : Nat} (positive : 0 < den) (le : num ≤ n * den) :
    nearestEven num den ≤ n := by
  have near := (nearestEven_near num positive).2
  by_contra above
  have more : (n + 1) * den ≤ nearestEven num den * den :=
    Nat.mul_le_mul_right den (by omega)
  rw [Nat.add_mul, Nat.one_mul] at more
  omega

theorem le_nearestEven {num den n : Nat} (positive : 0 < den) (le : n * den ≤ num) :
    n ≤ nearestEven num den := by
  have near := (nearestEven_near num positive).1
  by_contra below
  have fewer : (nearestEven num den + 1) * den ≤ n * den :=
    Nat.mul_le_mul_right den (by omega)
  rw [Nat.add_mul, Nat.one_mul] at fewer
  omega

namespace Binary64

/-! ## One rounding -/

/-- A quotient in units, rounded. -/
def rounded (num den : Nat) : Nat :=
  nearestEven (num * one) (den * step (num * one / den)) * step (num * one / den)

theorem ofRatio_eq (num den : Nat) :
    ofRatio num den = if rounded num den < limit then some ⟨rounded num den⟩ else none :=
  rfl

theorem step_pos (units : Nat) : 0 < step units :=
  Nat.pow_pos (by decide)

theorem log2_mono {m n : Nat} (le : m ≤ n) : m.log2 ≤ n.log2 := by
  by_cases zero : m = 0
  · rw [zero, Nat.log2_zero]
    exact Nat.zero_le _
  · have some : n ≠ 0 := by omega
    exact (Nat.le_log2 some).mpr (Nat.le_trans (Nat.log2_self_le zero) le)

theorem step_dvd {units more : Nat} (le : units ≤ more) : step units ∣ step more :=
  Nat.pow_dvd_pow 2 (Nat.sub_le_sub_right (log2_mono le) 52)

/-- The leading bit counts `2 ^ 52` gaps. -/
theorem step_log2 {units : Nat} (large : 52 ≤ units.log2) :
    2 ^ 52 * step units = 2 ^ units.log2 := by
  have step : step units = 2 ^ (units.log2 - 52) := rfl
  rw [step, ← Nat.pow_add, Nat.add_sub_cancel' large]

section Rounded

variable {num den : Nat} (positive : 0 < den)

include positive

/-- What is at most a number of gaps is rounded to at most as many. -/
theorem rounded_le {n gap : Nat} (divides : step (num * one / den) ∣ gap)
    (le : num * one ≤ n * gap * den) : rounded num den ≤ n * gap := by
  obtain ⟨k, rfl⟩ := divides
  have many : n * (step (num * one / den) * k) = n * k * step (num * one / den) := by ring
  rw [many, rounded]
  apply Nat.mul_le_mul_right
  apply nearestEven_le (Nat.mul_pos positive (step_pos _))
  calc num * one ≤ n * (step (num * one / den) * k) * den := le
    _ = n * k * (den * step (num * one / den)) := by ring

variable (large : 52 ≤ (num * one / den).log2)

include large

omit positive in
/-- Above the least of the gaps a quotient is at least `2 ^ 52` gaps. -/
theorem gaps_le : 2 ^ 52 * (den * step (num * one / den)) ≤ num * one := by
  have nonzero : num * one / den ≠ 0 := by
    intro zero
    rw [zero, Nat.log2_zero] at large
    omega
  calc 2 ^ 52 * (den * step (num * one / den))
      = den * (2 ^ 52 * step (num * one / den)) := by ring
    _ = den * 2 ^ (num * one / den).log2 := by rw [step_log2 large]
    _ ≤ den * (num * one / den) := Nat.mul_le_mul_left den (Nat.log2_self_le nonzero)
    _ ≤ num * one := Nat.mul_div_le _ den

theorem le_rounded : 2 ^ (num * one / den).log2 ≤ rounded num den := by
  rw [rounded, ← step_log2 large]
  apply Nat.mul_le_mul_right
  exact le_nearestEven (Nat.mul_pos positive (step_pos _)) (gaps_le large)

/-- **One rounding loses one part in `2 ^ 53` at most.** -/
theorem rounded_close :
    2 ^ 53 * (rounded num den * den) ≤ (2 ^ 53 + 1) * (num * one) ∧
      2 ^ 53 * (num * one) ≤ (2 ^ 53 + 1) * (rounded num den * den) := by
  have gap_pos := Nat.mul_pos positive (step_pos (num * one / den))
  have gaps := gaps_le large
  have same : nearestEven (num * one) (den * step (num * one / den)) *
      (den * step (num * one / den)) = rounded num den * den := by
    rw [rounded]
    ring
  have most : 2 ^ 52 * (den * step (num * one / den)) ≤ rounded num den * den := by
    rw [← same]
    exact Nat.mul_le_mul_right _ (le_nearestEven gap_pos gaps)
  have near := nearestEven_near (num * one) gap_pos
  rw [same] at near
  omega

end Rounded

/-- A power of two that counts whole gaps. -/
structure Leading (n : Nat) : Prop where
  power : 2 ^ n.log2 = n
  large : 52 ≤ n.log2

/-- Such a power below the quotient stays below it. -/
theorem Leading.le_rounded {num den n : Nat} (leading : Leading n) (positive : 0 < den)
    (le : n ≤ num * one / den) : n ≤ rounded num den := by
  have log : n.log2 ≤ (num * one / den).log2 := log2_mono le
  calc n = 2 ^ n.log2 := leading.power.symm
    _ ≤ 2 ^ (num * one / den).log2 := Nat.pow_le_pow_right (by decide) log
    _ ≤ rounded num den := Binary64.le_rounded positive (Nat.le_trans leading.large log)

theorem leading_one : Leading one :=
  have ⟨power, large⟩ : 2 ^ one.log2 = one ∧ 52 ≤ one.log2 := by decide +kernel
  ⟨power, large⟩

theorem leading_limit : Leading limit :=
  have ⟨power, large⟩ : 2 ^ limit.log2 = limit ∧ 52 ≤ limit.log2 := by decide +kernel
  ⟨power, large⟩

theorem one_pos : 0 < one :=
  leading_one.power ▸ Nat.two_pow_pos _

/-! ## Quotients in range and out of it -/

/-- The greatest of the gaps. -/
def topStep : Nat := step (limit - 1)

/-- The greatest magnitude, which is a natural. -/
def greatest : Nat := (2 ^ 53 - 1) * Nat.pow 2 971

/-- The least natural that is too large for a magnitude, however it is rounded. -/
def tooLarge : Nat := Nat.pow 2 1024

/-- How these compare in units. -/
theorem sizes : greatest * one = (2 ^ 53 - 1) * topStep ∧ (2 ^ 53 - 1) * topStep < limit ∧
    tooLarge * one = limit := by
  decide +kernel

/-- **A quotient that is no more than the greatest magnitude is in range.** -/
theorem ofRatio_of_le {num den : Nat} (positive : 0 < den) (le : num ≤ greatest * den) :
    ∃ x, ofRatio num den = some x ∧ x.units ≤ greatest * one := by
  obtain ⟨steps, room, -⟩ := sizes
  have units_le : num * one ≤ (2 ^ 53 - 1) * topStep * den := by
    rw [← steps, Nat.mul_right_comm]
    exact Nat.mul_le_mul_right one le
  have small : num * one / den < limit :=
    Nat.lt_of_le_of_lt (Nat.div_le_of_le_mul (by rwa [Nat.mul_comm den])) room
  have most : rounded num den ≤ (2 ^ 53 - 1) * topStep :=
    rounded_le positive (step_dvd (Nat.le_sub_one_of_lt small)) units_le
  refine ⟨⟨rounded num den⟩, ?_, by rwa [steps]⟩
  rw [ofRatio_eq, if_pos (Nat.lt_of_le_of_lt most room)]

/-- **A quotient that is too large is not.** -/
theorem ofRatio_eq_none {num den : Nat} (positive : 0 < den) (ge : tooLarge * den ≤ num) :
    ofRatio num den = none := by
  obtain ⟨-, -, units⟩ := sizes
  have units_ge : limit ≤ num * one / den := by
    rw [Nat.le_div_iff_mul_le positive, ← units, Nat.mul_right_comm]
    exact Nat.mul_le_mul_right one ge
  have large : limit ≤ rounded num den := leading_limit.le_rounded positive units_ge
  rw [ofRatio_eq, if_neg (Nat.not_lt.mpr large)]

/-! ## Naturals as magnitudes -/

/-- What a magnitude stands for. -/
def value (x : Binary64) : ℚ := x.units / one

theorem value_nonneg (x : Binary64) : 0 ≤ x.value := by
  unfold value
  positivity

/-- How much a literal can change in one rounding. -/
def slack : ℚ := 1 + 1 / 2 ^ 53

theorem ofNat_eq_some {n : Nat} {x : Binary64} (same : ofNat n = some x) :
    x.units = rounded n 1 := by
  rw [ofNat, ofRatio_eq] at same
  split at same
  · cases same
    rfl
  · cases same

theorem rounded_zero : rounded 0 1 = 0 := by
  have none := rounded_le Nat.one_pos (Nat.dvd_refl (step (0 * one / 1)))
    (show 0 * one ≤ 0 * step (0 * one / 1) * 1 by rw [Nat.zero_mul]; exact Nat.zero_le _)
  rw [Nat.zero_mul (step _)] at none
  exact Nat.le_zero.mp none

/-- **A natural is met to one part in `2 ^ 53`.** -/
theorem ofNat_close {n : Nat} {x : Binary64} (same : ofNat n = some x) :
    Close slack x.value n := by
  have positive : (0 : ℚ) < one := by exact_mod_cast one_pos
  have units := ofNat_eq_some same
  by_cases zero : n = 0
  · have none : x.value = 0 := by
      rw [value, units, zero, rounded_zero, Nat.cast_zero, zero_div]
    rw [none, zero, Nat.cast_zero]
    exact ⟨by rw [mul_zero], by rw [mul_zero]⟩
  · have large : 52 ≤ (n * one / 1).log2 := by
      have many : one ≤ n * one := Nat.le_mul_of_pos_left one (by omega)
      rw [Nat.div_one]
      exact Nat.le_trans leading_one.large (log2_mono many)
    obtain ⟨above, below⟩ := rounded_close Nat.one_pos large
    rw [← units, Nat.mul_one] at above below
    have above : (2 : ℚ) ^ 53 * x.units ≤ (2 ^ 53 + 1) * (n * one) := by exact_mod_cast above
    have below : (2 : ℚ) ^ 53 * (n * one) ≤ (2 ^ 53 + 1) * x.units := by exact_mod_cast below
    constructor
    · rw [value, slack, div_le_iff₀ positive]
      linarith
    · rw [value, slack, ← mul_div_assoc, le_div_iff₀ positive]
      linarith

theorem isZero_iff {x : Binary64} : x.isZero = true ↔ x.value = 0 := by
  have some : (one : ℚ) ≠ 0 := by exact_mod_cast one_pos.ne'
  constructor
  · intro zero
    rw [value, of_decide_eq_true zero, Nat.cast_zero, zero_div]
  · intro zero
    exact decide_eq_true (Nat.cast_eq_zero.mp ((div_eq_zero_iff.mp zero).resolve_right some))

/-! ## Products -/

theorem mul_of_le {x y : Binary64} (le : x.value * y.value ≤ greatest) :
    ∃ z, x.mul y = some z := by
  have positive : (0 : ℚ) < one * one := by exact_mod_cast Nat.mul_pos one_pos one_pos
  have le : x.units * y.units ≤ greatest * (one * one) := by
    rw [value, value, div_mul_div_comm, div_le_iff₀ positive] at le
    exact_mod_cast le
  obtain ⟨z, product, -⟩ := ofRatio_of_le (Nat.mul_pos one_pos one_pos) le
  exact ⟨z, product⟩

theorem mul_eq_none {x y : Binary64} (ge : tooLarge ≤ x.value * y.value) : x.mul y = none := by
  have positive : (0 : ℚ) < one * one := by exact_mod_cast Nat.mul_pos one_pos one_pos
  have ge : tooLarge * (one * one) ≤ x.units * y.units := by
    rw [value, value, div_mul_div_comm, le_div_iff₀ positive] at ge
    exact_mod_cast ge
  exact ofRatio_eq_none (Nat.mul_pos one_pos one_pos) ge

/-- Dividing by one or more stays in range. -/
theorem div_of_le {x y : Binary64} (small : x.units ≤ greatest * one)
    (atLeast : one ≤ y.units) : ∃ z, x.div y = some z ∧ z.units ≤ greatest * one :=
  ofRatio_of_le (Nat.lt_of_lt_of_le one_pos atLeast)
    (Nat.le_trans small (Nat.mul_le_mul_left greatest atLeast))

/-! ## Powers of ten -/

/-- What is no larger than this is in range, however it is rounded on the way. -/
def lastInside : Nat := 1797693134862315 * Nat.pow 10 293

/-- What is no smaller than this is out of range, however it is rounded on the way. -/
def firstOutside : Nat := 1797693134862317 * Nat.pow 10 293

/-- The margins they have for three roundings. -/
theorem margins :
    (2 ^ 53 + 1) ^ 2 * (10 ^ 18 + 1) * lastInside ≤ 2 ^ 106 * 10 ^ 18 * greatest ∧
      (2 ^ 53 + 1) ^ 2 * (10 ^ 18 + 1) * tooLarge ≤ 2 ^ 106 * 10 ^ 18 * firstOutside ∧
      2 ^ 65 ≤ firstOutside ∧ firstOutside ≤ 2 * lastInside := by
  decide +kernel

theorem tenTo_le : ∀ n ≤ maxTenPower, Nat.pow 10 n ≤ lastInside := by
  decide +kernel

theorem lastInside_le : lastInside ≤ greatest := by
  obtain ⟨below, -⟩ := margins
  omega

theorem lastInside_large : 2 ^ 64 ≤ lastInside := by
  obtain ⟨-, -, large, near⟩ := margins
  omega

theorem tenTo_eq {n : Nat} (le : n ≤ maxTenPower) :
    ∃ y, tenTo n = some y ∧ one ≤ y.units ∧ Close slack y.value (10 ^ n) := by
  have small : Nat.pow 10 n ≤ greatest * 1 := by
    rw [Nat.mul_one]
    exact Nat.le_trans (tenTo_le n le) lastInside_le
  obtain ⟨y, power, -⟩ := ofRatio_of_le Nat.one_pos small
  have many : one ≤ Nat.pow 10 n * one := Nat.le_mul_of_pos_left one (Nat.pow_pos (by decide))
  have close := ofNat_close power
  refine ⟨y, power, ?_, by simpa using close⟩
  rw [ofNat_eq_some power]
  exact leading_one.le_rounded Nat.one_pos (by rwa [Nat.div_one])

/-- Dividing by powers of ten stays in range. -/
theorem lowered_of_le {rounds n : Nat} {x : Binary64} (small : x.units ≤ greatest * one)
    (enough : n ≤ maxTenPower * (rounds + 1)) : ∃ z, lowered rounds x n = some z := by
  induction rounds generalizing x n with
  | zero =>
      obtain ⟨y, power, atLeast, -⟩ := tenTo_eq (Nat.mul_one maxTenPower ▸ enough)
      obtain ⟨z, quotient, -⟩ := div_of_le small atLeast
      refine ⟨z, ?_⟩
      rw [lowered, power, Option.bind_some]
      exact quotient
  | succ rounds ih =>
      rw [lowered]
      split
      · exact ⟨x, rfl⟩
      · obtain ⟨y, power, atLeast, -⟩ := tenTo_eq (Nat.le_refl maxTenPower)
        obtain ⟨z, quotient, still⟩ := div_of_le small atLeast
        have fewer : n - maxTenPower ≤ maxTenPower * (rounds + 1) := by
          rw [Nat.mul_succ] at enough
          omega
        rw [power, Option.bind_some, quotient, Option.bind_eq_bind, Option.bind_some]
        exact ih still fewer

theorem scaled_negSucc {x : Binary64} (small : x.units ≤ greatest * one) (n : Nat) :
    ∃ z, x.scaled (Int.negSucc n) = some z := by
  have negative : Int.negSucc n < 0 := Int.negSucc_lt_zero n
  have enough : n + 1 ≤ maxTenPower * (n / maxTenPower + 1) := by
    have split := Nat.div_add_mod n maxTenPower
    have rest := Nat.mod_lt n (show 0 < maxTenPower by decide)
    rw [Nat.mul_succ]
    omega
  obtain ⟨z, quotient⟩ := lowered_of_le small enough
  exact ⟨z, by rw [scaled, if_pos negative]; exact quotient⟩

theorem scaled_natCast {x : Binary64} {n : Nat} (le : n ≤ maxTenPower) :
    ∃ y, x.scaled n = x.mul y ∧ Close slack y.value (10 ^ n) := by
  obtain ⟨y, power, -, close⟩ := tenTo_eq le
  refine ⟨y, ?_, close⟩
  have natural : ¬ (n : Int) < 0 := by omega
  rw [scaled, if_neg natural, Int.natAbs_natCast, if_pos le, power, Option.bind_some]

theorem scaled_large {x : Binary64} {n : Nat} (large : maxTenPower < n) :
    x.scaled n = if x.isZero then some x else none := by
  have natural : ¬ (n : Int) < 0 := by omega
  rw [scaled, if_neg natural, Int.natAbs_natCast, if_neg (Nat.not_le.mpr large)]

/-! ## Scaling a natural -/

/-- How far a significand may be from the digits it is collected from. -/
def collecting : ℚ := 1 + 1 / 10 ^ 18

/-- The factor all roundings come to: of the digits, of the significand and of the power
of ten. -/
def spread : ℚ := slack * slack * collecting

theorem spread_mul_lastInside : spread * lastInside ≤ greatest := by
  have below : ((2 : ℚ) ^ 53 + 1) ^ 2 * (10 ^ 18 + 1) * lastInside ≤
      2 ^ 106 * 10 ^ 18 * greatest := by
    exact_mod_cast margins.1
  rw [spread, slack, collecting]
  linarith

theorem spread_mul_tooLarge : spread * tooLarge ≤ firstOutside := by
  have above : ((2 : ℚ) ^ 53 + 1) ^ 2 * (10 ^ 18 + 1) * tooLarge ≤
      2 ^ 106 * 10 ^ 18 * firstOutside := by
    exact_mod_cast margins.2.1
  rw [spread, slack, collecting]
  linarith

theorem ten_mul_tenTo :
    ∀ n ≤ maxTenPower, maxTenPower ≤ n → 2 * lastInside ≤ Nat.pow 10 n * 10 := by
  decide +kernel

theorem le_tenTo {n : Nat} (large : maxTenPower < n) : 2 * lastInside ≤ Nat.pow 10 n := by
  induction n with
  | zero => cases large
  | succ n ih =>
      rcases Nat.lt_or_eq_of_le (Nat.le_of_lt_succ large) with before | last
      · exact Nat.le_trans (ih before) (Nat.pow_le_pow_right (by decide) (Nat.le_succ n))
      · exact ten_mul_tenTo n last.ge last.le

theorem ofNat_of_lt {m : Nat} (small : m < 2 ^ 64) :
    ∃ x, ofNat m = some x ∧ x.units ≤ greatest * one := by
  have room := lastInside_large
  have inside := lastInside_le
  exact ofRatio_of_le Nat.one_pos (by omega)

theorem slack_pos : 0 < slack := by
  norm_num [slack]

theorem collecting_pos : 0 < collecting := by
  norm_num [collecting]

theorem spread_pos : 0 < spread :=
  mul_pos (mul_pos slack_pos slack_pos) collecting_pos

section Scaled

variable {m : Nat} {e : Int} {v : ℚ} {x : Binary64} (same : ofNat m = some x)
  (small : m < 2 ^ 64) (close : Close collecting (m * 10 ^ e) v)

include same close

/-- The product of the two roundings is as near as all of them allow. -/
theorem product_close {n : Nat} {y : Binary64} (power : Close slack y.value (10 ^ n))
    (natural : e = n) : Close spread (x.value * y.value) v := by
  have product : Close (slack * slack) (x.value * y.value) (m * 10 ^ n) :=
    (ofNat_close same).mul slack_pos.le x.value_nonneg y.value_nonneg (by positivity)
      (by positivity) power
  rw [natural, zpow_natCast] at close
  exact product.trans (mul_pos slack_pos slack_pos).le collecting_pos.le close

theorem isZero_of_large {n : Nat} (large : maxTenPower < n) (natural : e = n)
    (le : v ≤ lastInside) : x.isZero = true := by
  have close' := ofNat_close same
  have least : 2 * (lastInside : ℚ) ≤ 10 ^ n := by exact_mod_cast le_tenTo large
  have some : (0 : ℚ) < lastInside := by
    exact_mod_cast Nat.lt_of_lt_of_le (Nat.two_pow_pos 64) lastInside_large
  have none : m = 0 := by
    by_contra nonzero
    have one_le : (1 : ℚ) ≤ m := by exact_mod_cast Nat.one_le_iff_ne_zero.mpr nonzero
    have above : (10 : ℚ) ^ n ≤ m * 10 ^ n := le_mul_of_one_le_left (by positivity) one_le
    have below := close.le
    rw [natural, zpow_natCast, collecting] at below
    linarith
  have zero := close'.le
  rw [none, Nat.cast_zero, mul_zero] at zero
  exact isZero_iff.mpr (le_antisymm zero x.value_nonneg)

/-- **A product well inside the range is in range.** -/
theorem scaled_of_le (bounded : x.units ≤ greatest * one) (le : v ≤ lastInside) :
    ∃ z, x.scaled e = some z := by
  cases natural : e with
  | negSucc n => exact scaled_negSucc bounded n
  | ofNat n =>
      rcases Nat.lt_or_ge maxTenPower n with large | fits
      · refine ⟨x, ?_⟩
        rw [Int.ofNat_eq_natCast, scaled_large large,
          if_pos (isZero_of_large same close large natural le)]
      · obtain ⟨y, scaled, power⟩ := @scaled_natCast x n fits
        rw [Int.ofNat_eq_natCast, scaled]
        apply mul_of_le
        calc x.value * y.value ≤ spread * v := (product_close same close power natural).le
          _ ≤ spread * lastInside := mul_le_mul_of_nonneg_left le spread_pos.le
          _ ≤ greatest := spread_mul_lastInside

include small

/-- **A product well outside is not.** -/
theorem scaled_eq_none (ge : firstOutside ≤ v) : x.scaled e = none := by
  have room : (2 : ℚ) ^ 65 ≤ firstOutside := by exact_mod_cast margins.2.2.1
  cases natural : e with
  | negSucc n =>
      have least : (m : ℚ) < 2 ^ 64 := by exact_mod_cast small
      have shrunk : (m : ℚ) * 10 ^ e ≤ m := by
        rw [natural, zpow_negSucc]
        exact mul_le_of_le_one_right (by positivity)
          (inv_le_one_of_one_le₀ (one_le_pow₀ (by norm_num)))
      have above := close.ge
      rw [collecting] at above
      linarith
  | ofNat n =>
      rcases Nat.lt_or_ge maxTenPower n with large | fits
      · have some : ¬ x.isZero = true := by
          intro zero
          have none := (ofNat_close same).ge
          rw [isZero_iff.mp zero, mul_zero] at none
          have below : (m : ℚ) * 10 ^ e ≤ 0 := mul_nonpos_of_nonpos_of_nonneg none (by positivity)
          have far := close.ge
          rw [collecting] at far
          linarith
        rw [Int.ofNat_eq_natCast, scaled_large large, if_neg some]
      · obtain ⟨y, scaled, power⟩ := @scaled_natCast x n fits
        rw [Int.ofNat_eq_natCast, scaled]
        apply mul_eq_none
        have far : spread * tooLarge ≤ spread * (x.value * y.value) :=
          calc spread * tooLarge ≤ firstOutside := spread_mul_tooLarge
            _ ≤ v := ge
            _ ≤ spread * (x.value * y.value) := (product_close same close power natural).ge
        exact le_of_mul_le_mul_left far spread_pos

end Scaled

end Binary64

end NodeSettings
