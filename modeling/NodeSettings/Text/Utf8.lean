/-
# NodeSettings.Text.Utf8 -- bytes read as text, one maximal piece at a time

File names, command-line arguments and quoted strings all arrive as bytes that
ought to be UTF-8 and may not be.  `pieces` cuts any byte sequence into the
characters it spells and the stretches that spell none.  A stretch is maximal: a
character that is cut short is one stretch, and a byte that no character can
begin with is a stretch of its own.

Every reading of bytes as text is a reading of that one cut:

* `decode` insists that every piece is a character, and otherwise says how many
  bytes stand before the first stretch that is none;
* `lossy` shows each stretch as one replacement character.

`encode` is the other direction.
-/

namespace NodeSettings.Text.Utf8

set_option autoImplicit false

/-! ## Writing -/

/-- The bytes of one character: one to four, by the size of its code. -/
def encodeChar (c : Char) : List UInt8 :=
  let code := c.toNat
  if code < 0x80 then [code.toUInt8]
  else if code < 0x800 then [(0xC0 + code / 64).toUInt8, (0x80 + code % 64).toUInt8]
  else if code < 0x10000 then
    [(0xE0 + code / 4096).toUInt8, (0x80 + code / 64 % 64).toUInt8, (0x80 + code % 64).toUInt8]
  else
    [(0xF0 + code / 262144).toUInt8, (0x80 + code / 4096 % 64).toUInt8,
      (0x80 + code / 64 % 64).toUInt8, (0x80 + code % 64).toUInt8]

def encode (text : String) : List UInt8 :=
  text.toList.flatMap encodeChar

/-! ## Reading -/

/-- A character that has begun: its bytes so far (last first), the code they
spell, how many bytes it still needs, and the range its next byte must lie in. -/
structure Begun where
  bytes : List UInt8
  code : Nat
  owed : Nat
  low : UInt8 := 0x80
  high : UInt8 := 0xBF

/-- What a byte is when no character has begun. -/
inductive Lead where
  | whole (c : Char)
  | begun (b : Begun)
  | stray

/-- The narrowed ranges after `E0`, `ED`, `F0` and `F4` shut out overlong forms,
surrogates and codes beyond the last character. -/
def lead (b : UInt8) : Lead :=
  if b < 0x80 then .whole (Char.ofNat b.toNat)
  else if b < 0xC2 then .stray
  else if b < 0xE0 then .begun { bytes := [b], code := b.toNat - 0xC0, owed := 1 }
  else if b = 0xE0 then .begun { bytes := [b], code := 0, owed := 2, low := 0xA0 }
  else if b = 0xED then .begun { bytes := [b], code := 0xD, owed := 2, high := 0x9F }
  else if b < 0xF0 then .begun { bytes := [b], code := b.toNat - 0xE0, owed := 2 }
  else if b = 0xF0 then .begun { bytes := [b], code := 0, owed := 3, low := 0x90 }
  else if b < 0xF4 then .begun { bytes := [b], code := b.toNat - 0xF0, owed := 3 }
  else if b = 0xF4 then .begun { bytes := [b], code := 4, owed := 3, high := 0x8F }
  else .stray

/-- A character, or a maximal stretch of bytes that spells none. -/
inductive Piece where
  | char (c : Char)
  | bad (bytes : List UInt8)
deriving DecidableEq, Repr

/-- Cut the bytes that follow a character that may have begun.  A byte that
cannot go on with it ends it as a bad stretch and begins afresh. -/
def cut : Option Begun → List UInt8 → List Piece
  | none, [] => []
  | some p, [] => [.bad p.bytes.reverse]
  | none, b :: rest =>
      match lead b with
      | .whole c => .char c :: cut none rest
      | .begun p => cut (some p) rest
      | .stray => .bad [b] :: cut none rest
  | some p, b :: rest =>
      if p.low ≤ b ∧ b ≤ p.high then
        let code := p.code * 64 + (b.toNat - 0x80)
        if p.owed ≤ 1 then .char (Char.ofNat code) :: cut none rest
        else cut (some { bytes := b :: p.bytes, code := code, owed := p.owed - 1 }) rest
      else
        .bad p.bytes.reverse ::
          match lead b with
          | .whole c => .char c :: cut none rest
          | .begun q => cut (some q) rest
          | .stray => .bad [b] :: cut none rest

def pieces (bytes : List UInt8) : List Piece :=
  cut none bytes

/-- The characters the pieces spell, or how many bytes stand before the first
stretch that spells none. -/
def spelled : Nat → List Piece → Except Nat (List Char)
  | _, [] => .ok []
  | before, .char c :: rest => (spelled (before + (encodeChar c).length) rest).map (c :: ·)
  | before, .bad _ :: _ => .error before

def decode (bytes : List UInt8) : Except Nat String :=
  (spelled 0 (pieces bytes)).map String.ofList

def decode? (bytes : List UInt8) : Option String :=
  (decode bytes).toOption

/-- The character a bad stretch is shown as. -/
def replacement : Char := '\uFFFD'

def Piece.shown : Piece → Char
  | .char c => c
  | .bad _ => replacement

def lossy (bytes : List UInt8) : String :=
  String.ofList ((pieces bytes).map Piece.shown)

end NodeSettings.Text.Utf8
