/-
# NodeSettings.Number.Shortest -- the fewest digits that name a magnitude

A decimal names a binary64 magnitude when it lies among the reals that round to
it: from halfway to the magnitude below to halfway to the one above, the ends
included when the significand is even (`Binary64.readsBack`).  `shortest` tries
grids of 1, 2, ... 17 digits.  On each the value has two neighbours; the first
grid with a neighbour that reads back wins, and of two the nearer one.  A tie
between them is for the format that asks to settle.
-/
import NodeSettings.Number.Binary64

namespace NodeSettings

set_option autoImplicit false

/-- The decimal `0.d₁d₂… × 10 ^ point`, without trailing zeros. -/
structure Decimal where
  digits : List Char
  point : Int
deriving DecidableEq, Repr

inductive Tie where
  | even
  | up
deriving DecidableEq

namespace Binary64

/-- `c × 10 ^ place` as a ratio of units. -/
def gridRatio (c : Nat) (place : Int) : Nat × Nat :=
  if 0 ≤ place then (c * Nat.pow 10 place.natAbs * one, 1)
  else (c * one, Nat.pow 10 place.natAbs)

/-- Four times the ends of the interval that rounds to `x`.  Below a power of two
the gap is half the gap above. -/
def fourfoldEnds (x : Binary64) : Nat × Nat :=
  let gap := step x.units
  let below := if gap ≠ 1 ∧ x.units = Nat.pow 2 x.units.log2 then gap else 2 * gap
  (4 * x.units - below, 4 * x.units + 2 * gap)

def readsBack (x : Binary64) (c : Nat) (place : Int) : Bool :=
  let (num, den) := gridRatio (4 * c) place
  let (low, high) := x.fourfoldEnds
  if x.units / step x.units % 2 = 0 then low * den ≤ num && num ≤ high * den
  else low * den < num && num < high * den

/-- The least `k` with `x < 10 ^ k`, for `x` not zero: the length of the whole
part once `x` is enlarged enough to have one. -/
def magnitude (x : Binary64) : Int :=
  (Nat.toDigits 10 (x.units * Nat.pow 10 400 / one)).length - 400

/-- The neighbour of `x` on the grid of `10 ^ place` that names it. -/
def named? (tie : Tie) (x : Binary64) (place : Int) : Option Nat :=
  let (num, den) := gridRatio 1 place
  let below := x.units * den / num
  match x.readsBack below place, x.readsBack (below + 1) place with
  | false, false => none
  | true, false => some below
  | false, true => some (below + 1)
  | true, true =>
      let twice := 2 * (x.units * den - below * num)
      if twice < num then some below
      else if num < twice then some (below + 1)
      else match tie with
        | .up => some (below + 1)
        | .even => if below % 2 = 0 then some below else some (below + 1)

def decimalOf (c : Nat) (place : Int) : Decimal :=
  let digits := Nat.toDigits 10 c
  ⟨(digits.reverse.dropWhile (· = '0')).reverse, digits.length + place⟩

/-- Grids of `count` and more digits, at most `left` of them. -/
def shortestFrom (tie : Tie) (x : Binary64) (top : Int) : Nat → Nat → Decimal
  | 0, count => decimalOf (x.units * Nat.pow 10 count / one) (-count)
  | left + 1, count =>
      let place := top - count
      match x.named? tie place with
      | some c => decimalOf c place
      | none => shortestFrom tie x top left (count + 1)

/-- The digits of a magnitude that is not zero. -/
def shortest (tie : Tie) (x : Binary64) : Decimal :=
  shortestFrom tie x x.magnitude 17 1

end Binary64

end NodeSettings
