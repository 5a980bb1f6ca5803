/-
# NodeSettings.Reader.Run -- reading the first document of a source

A reader takes bytes until its document is complete or a fault is met, and never
takes one byte more: what follows stays in the source for the next reader.

Where it meets an end it may ask its source once more, and goes on with what it gets.

After a fault the kept containers are *left*, innermost first.  Leaving one skips
white space and takes the closing bracket if that is next -- in an array also a
comma and the white space after it; any other byte stays for the container
around.  A failing read or the end of the source cuts the leaving of one
container short, and is forgotten.  A fault without a place gets the reader's
place when the innermost container has been left.
-/
import NodeSettings.Reader.Phase

namespace NodeSettings

open Text

set_option autoImplicit false

abbrev Verdict := Except Fault Json

inductive ReaderState where
  | reading (phase : Phase) (stack : List Frame)
  /-- An end was reported, and the source is asked once more. -/
  | asking (phase : Phase) (stack : List Frame)
  /-- Leaving containers after a fault; `comma` once an array's comma is taken. -/
  | leaving (fault : Fault) (comma : Bool) (around : List Bracket)

structure Reader where
  position : Position := {}
  state : ReaderState := .reading (.value .root) []

inductive Progress where
  | more (reader : Reader)
  | finished (verdict : Verdict)

namespace Reader

/-! ## Leaving -/

def leave (p : Position) (fault : Fault) : List Bracket → Progress
  | [] => .finished (.error fault)
  | around => .more ⟨p, .leaving fault false around⟩

/-- Leave containers at a byte that has been counted already. -/
def leaveAt (p : Position) (b : UInt8) : Fault → Bool → List Bracket → Progress
  | fault, _, [] => .finished (.error fault)
  | fault, comma, bracket :: around =>
      if isBlank b then .more ⟨p, .leaving fault comma (bracket :: around)⟩
      else if !comma && b = bracket.closer then leave p (fault.settle p) around
      else if !comma && bracket = .square && b = ascii ',' then
        .more ⟨p, .leaving fault true (bracket :: around)⟩
      else leaveAt p b (fault.settle p) false around

/-! ## What a source can do to a reader -/

/-- A reader that stood in `phase` makes a move at a byte that has been counted
already. -/
def moved (p : Position) (b : UInt8) (phase : Phase) (stack : List Frame) : Move → Progress
  | .go phase stack => .more ⟨p, .reading phase stack⟩
  | .done document => .finished (.ok document)
  | .fail cause left =>
      let fault : Fault := ⟨cause, cause.position p⟩
      let around := bracketsAround phase stack
      if left then leaveAt p b fault false around else leave p fault around

def take (r : Reader) (b : UInt8) : Progress :=
  let p := r.position.after b
  match r.state with
  | .leaving fault comma around => leaveAt p b fault comma around
  | .reading phase stack => moved p b phase stack (step phase stack b)
  | .asking phase stack =>
      if phase.passes b then .more ⟨p, .asking phase stack⟩
      else moved p b phase stack (stepAgain phase stack b)

def fail (r : Reader) (failure : ReadFailure) : Progress :=
  match r.state with
  | .leaving fault _ around => leave r.position (fault.settle r.position) around.tail
  | .reading phase stack | .asking phase stack =>
      leave r.position ⟨.unreadable failure, none⟩ (bracketsAround phase stack)

/-- The end counts. -/
def concluded (p : Position) (phase : Phase) (stack : List Frame) : Progress :=
  match conclude phase stack with
  | .go phase stack => .more ⟨p, .reading phase stack⟩
  | .done document => .finished (.ok document)
  | .fail cause _ => leave p ⟨cause, cause.position p⟩ (bracketsAround phase stack)

/-- One read is told of an end. -/
def ended (r : Reader) : Progress :=
  match r.state with
  | .leaving fault _ around => leave r.position (fault.settle r.position) around.tail
  | .reading phase stack =>
      if phase.asksAgain stack then .more { r with state := .asking phase stack }
      else concluded r.position phase stack
  | .asking phase stack => concluded r.position phase stack

/-- What a reader makes of a source that has nothing left. -/
def ending (r : Reader) : Verdict :=
  match r.state with
  | .leaving fault _ _ => .error (fault.settle r.position)
  | .reading phase stack | .asking phase stack =>
      match stop phase stack with
      | .done document => .ok document
      | .fail cause => .error ⟨cause, cause.position r.position⟩

/-! ## Running -/

/-- Take bytes until the reader is finished; the rest is what it did not take. -/
def takeAll : Reader → Bytes → Progress × Bytes
  | r, [] => (.more r, [])
  | r, b :: rest =>
      match r.take b with
      | .more r => takeAll r rest
      | .finished verdict => (.finished verdict, rest)

/-- Run a reader over a source.  A source with nothing left ends every read, so
that the leaving of all containers ends at once. -/
def run : Reader → Source → Verdict × Source
  | r, [] => (r.ending, [])
  | r, .data bytes :: rest =>
      match r.takeAll bytes with
      | (.more r, _) => run r rest
      | (.finished verdict, left) => (verdict, .data left :: rest)
  | r, .failure failure :: rest =>
      if failure.kind = .interrupted then run r rest
      else match r.fail failure with
        | .more r => run r rest
        | .finished verdict => (verdict, rest)
  | r, .ended :: rest =>
      match r.ended with
      | .more r => run r rest
      | .finished verdict => (verdict, rest)

end Reader

/-- The first document of a source, or the fault that was met, and the source as
it is left behind. -/
def readDocument (source : Source) : Verdict × Source :=
  Reader.run {} source

end NodeSettings
