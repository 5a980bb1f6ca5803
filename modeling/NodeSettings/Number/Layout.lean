/-
# NodeSettings.Number.Layout -- how the digits of a number are set on the page

A layout says which decimals are written positionally, by the power of ten of
their first digit; the others are written with one digit before the point and a
signed exponent.  A positional text always has a digit on both sides of its
point.
-/
import NodeSettings.Number.Shortest

namespace NodeSettings

set_option autoImplicit false

structure Layout where
  tie : Tie
  /-- Whether a decimal whose first digit counts `10 ^ power` is positional. -/
  positional : Int → Bool

namespace Layout

/-- Every number is positional, whatever its size. -/
def plain : Layout where
  tie := .up
  positional _ := true

/-- From `10 ^ -5` up to, not including, `10 ^ 16` positional; otherwise with an
exponent. -/
def compact : Layout where
  tie := .even
  positional power := -5 ≤ power && power < 16

def zeros (n : Nat) : List Char :=
  List.replicate n '0'

/-- The point stands before the digits, after them, or among them. -/
def positionalText (d : Decimal) : List Char :=
  let whole := d.point.toNat
  if d.point ≤ 0 then '0' :: '.' :: (zeros d.point.natAbs ++ d.digits)
  else if d.digits.length ≤ whole then d.digits ++ zeros (whole - d.digits.length) ++ ['.', '0']
  else d.digits.take whole ++ '.' :: d.digits.drop whole

def exponentText (d : Decimal) : List Char :=
  let power := d.point - 1
  let mantissa := match d.digits with
    | first :: second :: rest => first :: '.' :: second :: rest
    | digits => digits
  mantissa ++ ['e', if power < 0 then '-' else '+'] ++ Nat.toDigits 10 power.natAbs

def magnitudeText (layout : Layout) (x : Binary64) : List Char :=
  if x.isZero then ['0', '.', '0']
  else
    let d := x.shortest layout.tie
    if layout.positional (d.point - 1) then positionalText d else exponentText d

def text (layout : Layout) (negative : Bool) (x : Binary64) : String :=
  String.ofList ((if negative then ['-'] else []) ++ layout.magnitudeText x)

end Layout

end NodeSettings
