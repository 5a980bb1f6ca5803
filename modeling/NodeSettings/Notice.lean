/-
# NodeSettings.Notice -- a message and the place it speaks of

A message that is put together from others is handed on as text.  Where that text
ends in a place, as in `... at line 7 column 3`, the place is taken off it and
kept apart (`Notice.ofText`); a notice is written out with its place again
(`Notice.text`).  Only an ending counts: the same words further inside, say
within a quoted string, are part of the message.

A place on line zero is no place, and is not written out.
-/
import NodeSettings.Reader.Fault

namespace NodeSettings

set_option autoImplicit false

structure Notice where
  message : String
  place : Option Position := none
deriving DecidableEq, Repr

namespace Notice

/-! ## Places at the end of a text -/

/-- What stands before and after the last occurrence of `mark`. -/
def cutLast? (mark : List Char) : List Char → Option (List Char × List Char)
  | [] => none
  | c :: rest =>
      match cutLast? mark rest with
      | some (before, after) => some (c :: before, after)
      | none => (mark.isPrefixOf? (c :: rest)).map fun after => ([], after)

/-- The number decimal digits spell, if there are any and it fits 64 bits. -/
def count? (digits : List Char) : Option Nat :=
  let n := digits.foldl (fun n c => n * 10 + (c.toNat - '0'.toNat)) 0
  if digits.isEmpty || UInt64.size ≤ n then none else some n

def lineMark : List Char :=
  " at line ".toList

def columnMark : List Char :=
  " column ".toList

/-- The text before a place at the end, and that place. -/
def placed? (text : List Char) : Option (List Char × Position) := do
  let (before, after) ← cutLast? lineMark text
  let column ← columnMark.isPrefixOf? (after.dropWhile Char.isDigit)
  if column.all Char.isDigit then
    let line ← count? (after.takeWhile Char.isDigit)
    let column ← count? column
    pure (before, ⟨line, column⟩)
  else none

def ofText (text : String) : Notice :=
  match placed? text.toList with
  | none => ⟨text, none⟩
  | some (before, place) => ⟨String.ofList before, some place⟩

/-! ## Writing out -/

def text (notice : Notice) : String :=
  match notice.place with
  | none => notice.message
  | some p =>
      if p.line = 0 then notice.message
      else s!"{notice.message} at line {p.line} column {p.column}"

end Notice

end NodeSettings
