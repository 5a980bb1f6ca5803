/-
# NodeSettings.Number.Numeral -- number literals and what they denote

A literal without fraction and exponent denotes an integer when that integer
fits 64 bits -- unsigned for a literal without sign, two's complement for one
with a minus -- and is not `-0`.  Every other literal denotes a floating point
number, unless that is out of range (`Numeral.number?`).

The digits of a floating point number are collected into a significand of 64
bits.  A whole digit that no longer fits, and every whole digit after it, only
raises the scale; a fraction digit that no longer fits ends the collecting.
-/
import NodeSettings.Number.Binary64

namespace NodeSettings

set_option autoImplicit false

/-- A literal: its digits, most significant first, and the value of its exponent
part if it has one.  A literal has a fraction exactly if it has fraction
digits. -/
structure Numeral where
  negative : Bool := false
  whole : List Nat := []
  fraction : List Nat := []
  exponent : Option Int := none
deriving DecidableEq, Repr

inductive Number where
  | integer (n : Int)
  | float (negative : Bool) (magnitude : Binary64)
deriving DecidableEq, Repr

/-- Digits collected so far: `value × 10 ^ scale`, and whether a digit has been
turned away. -/
structure Significand where
  value : Nat := 0
  scale : Int := 0
  full : Bool := false
deriving DecidableEq, Repr

namespace Significand

def fits (s : Significand) (digit : Nat) : Bool :=
  s.value * 10 + digit < UInt64.size

def addWhole (s : Significand) (digit : Nat) : Significand :=
  if !s.full && s.fits digit then { s with value := s.value * 10 + digit }
  else { s with scale := s.scale + 1, full := true }

def addFraction (s : Significand) (digit : Nat) : Significand :=
  if s.full then s
  else if s.fits digit then { s with value := s.value * 10 + digit, scale := s.scale - 1 }
  else { s with full := true }

end Significand

namespace Numeral

def wholeSignificand (n : Numeral) : Significand :=
  n.whole.foldl Significand.addWhole {}

/-- At the point collecting starts again, even after whole digits were turned
away. -/
def significand (n : Numeral) : Significand :=
  n.fraction.foldl Significand.addFraction { n.wholeSignificand with full := false }

def isIntegral (n : Numeral) : Bool :=
  n.fraction.isEmpty && n.exponent.isNone

/-- The integer a literal denotes, if it denotes one. -/
def integer? (n : Numeral) : Option Int :=
  let s := n.wholeSignificand
  if !n.isIntegral || s.full then none
  else if !n.negative then some s.value
  else if s.value = 0 ∨ -(s.value : Int) < Int64.minValue.toInt then none
  else some (-(s.value : Int))

/-- The magnitude of a literal read as a floating point number. -/
def magnitude? (n : Numeral) : Option Binary64 := do
  let s := n.significand
  let x ← Binary64.ofNat s.value
  x.scaled (s.scale + n.exponent.getD 0)

/-- What a literal denotes; `none` if it is out of range. -/
def number? (n : Numeral) : Option Number :=
  match n.integer? with
  | some i => some (.integer i)
  | none => n.magnitude?.map (.float n.negative)

end Numeral

end NodeSettings
