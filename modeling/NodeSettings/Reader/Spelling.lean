/-
# NodeSettings.Reader.Spelling -- a quoted string, one byte at a time

A string runs from its opening quote to the next quote that no backslash
escapes.  `Spelling.take` says what one more byte makes of it.

A string that is kept is read strictly: a `\u` escape of a surrogate must be the
leading half of a pair and be followed at once by the escape of a trailing half.
A skipped string only needs four hexadecimal digits after `\u`.
-/
import NodeSettings.Reader.Fault
import NodeSettings.Text.Ascii
import NodeSettings.Text.Utf8

namespace NodeSettings

open Text

set_option autoImplicit false

/-- How far a string has been read; `written` is what it spells so far, last byte
first. -/
inductive Spelling where
  | plain (written : Bytes)
  /-- After a backslash. -/
  | escape (written : Bytes)
  /-- After `\u`, with the digits so far, last first, and the leading surrogate
  that waits for its other half. -/
  | hex (written : Bytes) (leading : Option Nat) (digits : Bytes)
  /-- After a leading surrogate: the backslash of the other half is next. -/
  | pairSlash (written : Bytes) (leading : Nat)
  /-- ... and then its `u`. -/
  | pairMark (written : Bytes) (leading : Nat)
deriving DecidableEq, Repr

/-- What one more byte makes of a string. -/
inductive Spelled where
  | more (spelling : Spelling)
  | closed (written : Bytes)
  | wrong (m : Malformation)
deriving DecidableEq, Repr

namespace Spelling

def start : Spelling :=
  .plain []

/-- The byte a letter after a backslash stands for. -/
def letterByte? (b : UInt8) : Option UInt8 :=
  if b = ascii '"' ∨ b = ascii '\\' ∨ b = ascii '/' then some b
  else if b = ascii 'b' then some 0x08
  else if b = ascii 'f' then some 0x0C
  else if b = ascii 'n' then some 0x0A
  else if b = ascii 'r' then some 0x0D
  else if b = ascii 't' then some 0x09
  else none

def isTrailing (code : Nat) : Bool :=
  0xDC00 ≤ code && code < 0xE000

def isLeading (code : Nat) : Bool :=
  0xD800 ≤ code && code < 0xDC00

/-- The code of a surrogate pair. -/
def paired (leading trailing : Nat) : Nat :=
  0x10000 + (leading - 0xD800) * 0x400 + (trailing - 0xDC00)

def write (written : Bytes) (code : Nat) : Spelling :=
  .plain ((Utf8.encodeChar (Char.ofNat code)).reverse ++ written)

/-- The value of hexadecimal digits, last first. -/
def hexValue? : Bytes → Option Nat
  | [] => some 0
  | b :: rest => do
      let digit ← hexDigit? b
      let above ← hexValue? rest
      pure (above * 16 + digit)

/-- The four digits of an escape are there. -/
def escaped (strict : Bool) (written : Bytes) (leading : Option Nat) (digits : Bytes) : Spelled :=
  match hexValue? digits with
  | none => .wrong .badEscape
  | some code =>
      if !strict then .more (.plain written)
      else match leading with
        | some high =>
            if isTrailing code then .more (write written (paired high code))
            else .wrong .loneSurrogate
        | none =>
            if isTrailing code then .wrong .loneSurrogate
            else if isLeading code then .more (.pairSlash written code)
            else .more (write written code)

def take (strict : Bool) : Spelling → UInt8 → Spelled
  | .plain written, b =>
      if b = ascii '"' then .closed written.reverse
      else if b = ascii '\\' then .more (.escape written)
      else if b < 0x20 then .wrong .controlCharacter
      else .more (.plain (b :: written))
  | .escape written, b =>
      if b = ascii 'u' then .more (.hex written none [])
      else match letterByte? b with
        | some byte => .more (.plain (byte :: written))
        | none => .wrong .badEscape
  | .hex written leading digits, b =>
      if digits.length < 3 then .more (.hex written leading (b :: digits))
      else escaped strict written leading (b :: digits)
  | .pairSlash written leading, b =>
      if b = ascii '\\' then .more (.pairMark written leading) else .wrong .cutSurrogate
  | .pairMark written leading, b =>
      if b = ascii 'u' then .more (.hex written (some leading) []) else .wrong .cutSurrogate

end Spelling

/-- The text a finished string spells, or how it fails to be one. -/
def spelledText (written : Bytes) : Except Malformation String :=
  match Utf8.decode written with
  | .ok text => .ok text
  | .error before => .error (.notText (written.length - before))

end NodeSettings
