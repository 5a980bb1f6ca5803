/-
# NodeSettings.Reader.Draft -- a number literal, one byte at a time

A literal is an optional minus, whole digits without a needless leading zero, an
optional fraction of at least one digit, and an optional exponent of at least
one digit.  Nothing marks its end: it ends at the first byte that cannot go on
with it, and that byte belongs to what follows.

A kept literal whose exponent grows past 31 bits is out of range as soon as it
does, unless the number is zero or the exponent is negative.

Whether a literal is over is asked at more than one place: whether another digit
follows, and then whether a point or an exponent does.  So after the end of the source
has been reported once, a literal may still go on (`Draft.takeAgain`), only not with
another digit of the same kind.
-/
import NodeSettings.Number.Numeral
import NodeSettings.Reader.Fault
import NodeSettings.Text.Ascii

namespace NodeSettings

open Text

set_option autoImplicit false

/-- What of a literal was read last. -/
inductive Part where
  | minus
  | zero
  | whole
  | point
  | fraction
  | mark
  | markSign
  | exponent
deriving DecidableEq, Repr

/-- A literal under way; digits stand last first. -/
structure Draft where
  part : Part
  negative : Bool := false
  whole : List Nat := []
  fraction : List Nat := []
  exponentNegative : Bool := false
  exponent : Nat := 0
deriving DecidableEq, Repr

/-- What one more byte makes of a literal.  A byte that is wrong may be the
literal's own or be left for what follows. -/
inductive Drafted where
  | more (draft : Draft)
  | ended
  | wrong (m : Malformation) (left : Bool)
deriving DecidableEq, Repr

namespace Draft

/-- Whether a literal may end after this part. -/
def mayEnd (d : Draft) : Bool :=
  match d.part with
  | .zero | .whole | .fraction | .exponent => true
  | _ => false

def numeral (d : Draft) : Numeral where
  negative := d.negative
  whole := d.whole.reverse
  fraction := d.fraction.reverse
  exponent :=
    if d.part = .exponent then
      some (if d.exponentNegative then -(d.exponent : Int) else d.exponent)
    else none

/-- The literal after a first digit or a minus. -/
def start (b : UInt8) : Draft :=
  match digit? b with
  | none => { part := .minus, negative := true }
  | some 0 => { part := .zero, whole := [0] }
  | some digit => { part := .whole, whole := [digit] }

def addExponent (strict : Bool) (d : Draft) (digit : Nat) : Drafted :=
  let d := { d with part := .exponent, exponent := d.exponent * 10 + digit }
  if strict && !d.exponentNegative && Int32.maxValue.toInt < d.exponent &&
      d.numeral.significand.value ≠ 0 then
    .wrong .numberRange false
  else .more d

/-- What may follow the whole digits, or the fraction once `fractional`. -/
def follow (d : Draft) (fractional : Bool) (b : UInt8) : Drafted :=
  if b = ascii '.' ∧ !fractional then .more { d with part := .point }
  else if b = ascii 'e' ∨ b = ascii 'E' then .more { d with part := .mark }
  else .ended

def take (strict : Bool) (d : Draft) (b : UInt8) : Drafted :=
  match d.part, digit? b with
  | .minus, some 0 => .more { d with part := .zero, whole := [0] }
  | .minus, some digit => .more { d with part := .whole, whole := [digit] }
  | .minus, none => .wrong .badNumber false
  | .zero, some _ => .wrong .badNumber true
  | .zero, none => d.follow false b
  | .whole, some digit => .more { d with whole := digit :: d.whole }
  | .whole, none => d.follow false b
  | .point, some digit => .more { d with part := .fraction, fraction := [digit] }
  | .point, none => .wrong .badNumber true
  | .fraction, some digit => .more { d with fraction := digit :: d.fraction }
  | .fraction, none => d.follow true b
  | .mark, some digit => d.addExponent strict digit
  | .mark, none =>
      if b = ascii '+' then .more { d with part := .markSign }
      else if b = ascii '-' then .more { d with part := .markSign, exponentNegative := true }
      else .wrong .badNumber false
  | .markSign, some digit => d.addExponent strict digit
  | .markSign, none => .wrong .badNumber false
  | .exponent, some digit => d.addExponent strict digit
  | .exponent, none => .ended

/-- Whether a literal is not over yet when an end is reported after this part, and asks
its source once more.  Whole digits that have been turned away already are counted in
one go with what may follow them. -/
def asksAgain (strict : Bool) (d : Draft) : Bool :=
  match d.part with
  | .zero | .fraction | .mark => true
  | .whole => !strict || !d.numeral.wholeSignificand.full
  | .point => strict
  | .minus | .markSign | .exponent => false

/-- What a byte makes of a literal that an end was reported after. -/
def takeAgain (strict : Bool) (d : Draft) (b : UInt8) : Drafted :=
  match d.part, digit? b with
  | .point, _ => .wrong .badNumber true
  | .mark, some digit => d.addExponent strict digit
  | .mark, none => .wrong .badNumber false
  | .fraction, _ => d.follow true b
  | _, _ => d.follow false b

end Draft

end NodeSettings
