/-
# NodeSettings.Reader.Fault -- why a document could not be read, and where

A document is malformed, or it is cut short, or it repeats a key that may stand
only once, or its source failed.  A fault is a cause with the place it was met
at; a source that fails outside every container leaves a fault without a place.
-/
import NodeSettings.Source

namespace NodeSettings

set_option autoImplicit false

/-- Lines count from one; a column is the number of bytes taken from its line. -/
structure Position where
  line : Nat := 1
  column : Nat := 0
deriving DecidableEq, Repr

namespace Position

def after (p : Position) (b : UInt8) : Position :=
  if b = 0x0A then ⟨p.line + 1, 0⟩ else ⟨p.line, p.column + 1⟩

def back (p : Position) (columns : Nat) : Position :=
  ⟨p.line, p.column - columns⟩

end Position

inductive Malformation where
  | noValue
  | badWord
  | badNumber
  | numberRange
  | controlCharacter
  | badEscape
  | loneSurrogate
  | cutSurrogate
  /-- A string whose bytes are not UTF-8, met `back` bytes after they went wrong. -/
  | notText (back : Nat)
  | noListEnd
  | noObjectEnd
  | noColon
  | noKey
  | trailingComma
  | tooDeep
deriving DecidableEq, Repr

/-- What was being read when the source ended. -/
inductive Truncation where
  | value
  | quote
  | list
  | object
deriving DecidableEq, Repr

inductive Cause where
  | malformed (m : Malformation)
  | truncated (t : Truncation)
  | repeated (key : String)
  | unreadable (failure : ReadFailure)
deriving DecidableEq, Repr

/-- The four classes a reader of messages tells apart: the form of the document,
its ending, its content, and the stream it came from. -/
inductive Category where
  | form
  | ending
  | content
  | stream
deriving DecidableEq, Repr

namespace Malformation

def text : Malformation → String
  | noValue => "expected value"
  | badWord => "expected ident"
  | badNumber => "invalid number"
  | numberRange => "number out of range"
  | controlCharacter => "control character (\\u0000-\\u001F) found while parsing a string"
  | badEscape => "invalid escape"
  | loneSurrogate => "lone leading surrogate in hex escape"
  | cutSurrogate => "unexpected end of hex escape"
  | notText _ => "invalid unicode code point"
  | noListEnd => "expected `,` or `]`"
  | noObjectEnd => "expected `,` or `\x7d`"
  | noColon => "expected `:`"
  | noKey => "key must be a string"
  | trailingComma => "trailing comma"
  | tooDeep => "recursion limit exceeded"

/-- How far before the reader's place the document went wrong. -/
def back : Malformation → Nat
  | notText back => back
  | _ => 0

end Malformation

namespace Truncation

def text : Truncation → String
  | value => "EOF while parsing a value"
  | quote => "EOF while parsing a string"
  | list => "EOF while parsing a list"
  | object => "EOF while parsing an object"

end Truncation

namespace Cause

def text : Cause → String
  | malformed m => m.text
  | truncated t => t.text
  | repeated key => "duplicate field `" ++ key ++ "`"
  | unreadable failure => failure.message

def category : Cause → Category
  | malformed _ => .form
  | truncated _ => .ending
  | repeated _ => .content
  | unreadable _ => .stream

/-- Where a fault with this cause lies when the reader stands at `p`.  A repeated
key and a failing source are placed only when the container around them has been
left (`Fault.settle`). -/
def position (p : Position) : Cause → Option Position
  | malformed m => some (p.back m.back)
  | truncated _ => some p
  | repeated _ => none
  | unreadable _ => none

end Cause

structure Fault where
  cause : Cause
  position : Option Position
deriving DecidableEq, Repr

namespace Fault

def settle (fault : Fault) (p : Position) : Fault :=
  { fault with position := some (fault.position.getD p) }

def text (fault : Fault) : String :=
  match fault.position with
  | none => fault.cause.text
  | some p => s!"{fault.cause.text} at line {p.line} column {p.column}"

end Fault

end NodeSettings
