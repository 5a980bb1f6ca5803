/-
# NodeSettings.Number.Binary64 -- magnitudes with 53 significant bits, exactly

Every finite binary64 magnitude is a whole number of units of `2 ^ -1074`, so
that is how one is held: `units`, and nothing else.  An operation computes the
exact quotient of two naturals and rounds once (`ofRatio`): to the nearest
magnitude, a tie going to the even significand, and to `none` where the result
would be as large as `2 ^ 1024`.

`scaled` multiplies by a power of ten the way number literals are read: the power
is itself rounded to a magnitude, and powers past `10 ^ 308` are divided out in
several steps, each rounded on its own.  So what a literal denotes is fixed here
digit for digit, and it is not always the nearest magnitude to the literal.

Powers are taken with `Nat.pow`, the one power that is the same term whatever
algebra is in scope.
-/

namespace NodeSettings

set_option autoImplicit false

/-- The natural nearest to `num / den`; a tie goes to the even one. -/
def nearestEven (num den : Nat) : Nat :=
  let quotient := num / den
  let twice := 2 * (num % den)
  if twice < den then quotient
  else if den < twice then quotient + 1
  else if quotient % 2 = 0 then quotient else quotient + 1

structure Binary64 where
  units : Nat
deriving DecidableEq, Repr

namespace Binary64

/-- Units in one. -/
def one : Nat := Nat.pow 2 1074

/-- The least number of units that is out of range. -/
def limit : Nat := Nat.pow 2 2098

/-- The gap to the next magnitude above: one unit below `2 ^ 53` units, and twice
as much each time the units double from there on. -/
def step (units : Nat) : Nat :=
  Nat.pow 2 (units.log2 - 52)

def zero : Binary64 := ⟨0⟩

def isZero (x : Binary64) : Bool :=
  x.units = 0

/-- The magnitude nearest to `num / den`, if there is one in range. -/
def ofRatio (num den : Nat) : Option Binary64 :=
  let exact := num * one
  let gap := step (exact / den)
  let units := nearestEven exact (den * gap) * gap
  if units < limit then some ⟨units⟩ else none

def ofNat (n : Nat) : Option Binary64 :=
  ofRatio n 1

def mul (x y : Binary64) : Option Binary64 :=
  ofRatio (x.units * y.units) (one * one)

def div (x y : Binary64) : Option Binary64 :=
  ofRatio x.units y.units

def tenTo (n : Nat) : Option Binary64 :=
  ofNat (Nat.pow 10 n)

/-! ## Powers of ten -/

/-- The largest power of ten that is a magnitude. -/
def maxTenPower : Nat := 308

/-- Divide by `10 ^ n` in `rounds` steps of the largest power and one more; zero
is left alone. -/
def lowered : Nat → Binary64 → Nat → Option Binary64
  | 0, x, n => (tenTo n).bind x.div
  | rounds + 1, x, n =>
      if x.isZero then some x
      else do
        let x ← (tenTo maxTenPower).bind x.div
        lowered rounds x (n - maxTenPower)

/-- Multiply by `10 ^ exponent`; `none` where the product is out of range. -/
def scaled (x : Binary64) (exponent : Int) : Option Binary64 :=
  let n := exponent.natAbs
  if exponent < 0 then lowered ((n - 1) / maxTenPower) x n
  else if n ≤ maxTenPower then (tenTo n).bind x.mul
  else if x.isZero then some x
  else none

end Binary64

end NodeSettings
