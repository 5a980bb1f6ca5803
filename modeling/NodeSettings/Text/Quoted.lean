/-
# NodeSettings.Text.Quoted -- text in double quotes

A quoted text is meant for a reader of messages: it stands on one line, and what
cannot be seen is written by its code.  A quote and a backslash are escaped by a
backslash; tab, newline, carriage return and the zero character have letters of
their own; any other character that is not printable is written `\u` with its
code in braces, in lower-case digits.  Bytes that spell no character are written
`\x` with two upper-case digits each.
-/
import NodeSettings.Text.Printable
import NodeSettings.Text.Utf8

namespace NodeSettings.Text

set_option autoImplicit false

/-- The escape of a character that has a letter of its own. -/
def letterEscape? : Char → Option Char
  | '"' => some '"'
  | '\\' => some '\\'
  | '\t' => some 't'
  | '\n' => some 'n'
  | '\r' => some 'r'
  | c => if c.toNat = 0 then some '0' else none

def escaped (c : Char) : List Char :=
  match letterEscape? c with
  | some letter => ['\\', letter]
  | none =>
      if isPrintable c then [c]
      else ['\\', 'u', '\x7b'] ++ Nat.toDigits 16 c.toNat ++ ['\x7d']

def inQuotes (body : List Char) : String :=
  String.ofList ('"' :: (body ++ ['"']))

def quoted (text : String) : String :=
  inQuotes (text.toList.flatMap escaped)

def upperHex (b : UInt8) : List Char :=
  [Nat.digitChar (b.toNat / 16), Nat.digitChar (b.toNat % 16)].map Char.toUpper

def escapedPiece : Utf8.Piece → List Char
  | .char c => escaped c
  | .bad bytes => bytes.flatMap fun b => '\\' :: 'x' :: upperHex b

def quotedBytes (bytes : List UInt8) : String :=
  inQuotes ((Utf8.pieces bytes).flatMap escapedPiece)

end NodeSettings.Text
