/-
# NodeSettings.Reader.Phase -- reading a document, one byte at a time

Between two bytes a reader stands in a *phase*: what it is in the middle of.  The
containers around that wait on a stack of *frames*, innermost first, each ready
to take the value under way.  A byte makes a *move* (`step`): to another phase,
to the end of the document, or to a fault.  The end of the source, once there is
nothing else, makes an *ending* (`stop`).

A value that is complete goes to the innermost frame (`deliver`), or is the
document if there is none.  Number literals end only at a byte that is not
theirs; that byte then moves the container around the number.  A number at the
root has none, and the byte is lost.

Containers nest without limit where they are skipped, and to a fixed depth where
they are kept.

An end that is only reported once is not final everywhere.  Where a value may be
missing, and after most parts of a number, the source is asked once more
(`Phase.asksAgain`), and what it hands out then is read on with (`stepAgain`).
Everywhere else, and if the answer is an end again, the end counts (`conclude`).  It
completes a number, which is delivered; so the container around it goes on too.
-/
import NodeSettings.Json
import NodeSettings.Reader.Draft
import NodeSettings.Reader.Slot
import NodeSettings.Reader.Spelling

namespace NodeSettings

open Text

set_option autoImplicit false

/-! ## Phases and frames -/

/-- How far a container has been read: just opened, after an element or member,
or after a comma. -/
inductive Place where
  | first
  | next
  | comma
deriving DecidableEq, Repr

/-- A container that waits for the value under way.  Contents stand last first,
and only those that are kept. -/
inductive Frame where
  | item (slot : Slot) (items : List Json)
  | member (slot : Slot) (members : List (String × Json)) (key : String)

/-- What a reader is in the middle of; a container under way carries its own
contents. -/
inductive Phase where
  /-- White space, then a value. -/
  | value (slot : Slot)
  /-- A word, with the letters still to come. -/
  | word (next : UInt8) (left : Bytes) (meaning : Json)
  | numeral (slot : Slot) (draft : Draft)
  | quote (slot : Slot) (spelling : Spelling)
  | array (slot : Slot) (items : List Json) (place : Place)
  | object (slot : Slot) (members : List (String × Json)) (place : Place)
  | key (slot : Slot) (members : List (String × Json)) (spelling : Spelling)
  | colon (slot : Slot) (members : List (String × Json)) (key : String)

/-- Where a byte leads.  At a fault the byte that showed it was taken, or is
`left` for what follows. -/
inductive Move where
  | go (phase : Phase) (stack : List Frame)
  | done (document : Json)
  | fail (cause : Cause) (left : Bool)

/-- A fault at a byte that is left for what follows. -/
def failAt (m : Malformation) : Move :=
  .fail (.malformed m) true

/-- A fault at a byte that was taken. -/
def failAfter (m : Malformation) : Move :=
  .fail (.malformed m) false

/-! ## Delivering values -/

def addItem (slot : Slot) (items : List Json) (value : Json) : List Json :=
  if slot.item.kept then value :: items else items

def addMember (slot : Slot) (members : List (String × Json)) (key : String) (value : Json) :
    List (String × Json) :=
  if (slot.member key).kept then (key, value) :: members else members

def deliver (value : Json) : List Frame → Move
  | [] => .done value
  | .item slot items :: stack => .go (.array slot (addItem slot items value) .next) stack
  | .member slot members key :: stack =>
      .go (.object slot (addMember slot members key value) .next) stack

/-! ## Beginning values -/

/-- How many kept containers may stand inside one another. -/
def maxDepth : Nat := 127

/-- All containers around a kept value are kept, so the stack counts them. -/
def tooDeep (slot : Slot) (stack : List Frame) : Bool :=
  slot.kept && maxDepth ≤ stack.length

def begin (slot : Slot) (stack : List Frame) (b : UInt8) : Move :=
  if b = ascii 'n' then .go (.word (ascii 'u') [ascii 'l', ascii 'l'] .null) stack
  else if b = ascii 't' then
    .go (.word (ascii 'r') [ascii 'u', ascii 'e'] (.bool true)) stack
  else if b = ascii 'f' then
    .go (.word (ascii 'a') [ascii 'l', ascii 's', ascii 'e'] (.bool false)) stack
  else if b = ascii '-' ∨ (digit? b).isSome then .go (.numeral slot (Draft.start b)) stack
  else if b = ascii '"' then .go (.quote slot .start) stack
  else if b = ascii '[' then
    if tooDeep slot stack then failAt .tooDeep else .go (.array slot [] .first) stack
  else if b = ascii '\x7b' then
    if tooDeep slot stack then failAt .tooDeep else .go (.object slot [] .first) stack
  else failAt .noValue

/-! ## Containers -/

/-- After a comma a kept array names the comma that should not be there; a
skipped one misses a value. -/
def stepArray (slot : Slot) (items : List Json) (place : Place) (stack : List Frame)
    (b : UInt8) : Move :=
  if isBlank b then .go (.array slot items place) stack
  else if b = ascii ']' ∧ place ≠ .comma then deliver (.array items.reverse) stack
  else if b = ascii ']' ∧ slot.kept then failAt .trailingComma
  else if place = .next then
    if b = ascii ',' then .go (.array slot items .comma) stack else failAt .noListEnd
  else begin slot.item (.item slot items :: stack) b

def stepObject (slot : Slot) (members : List (String × Json)) (place : Place)
    (stack : List Frame) (b : UInt8) : Move :=
  if isBlank b then .go (.object slot members place) stack
  else if b = ascii '\x7d' ∧ place ≠ .comma then deliver (.object members.reverse) stack
  else if b = ascii '\x7d' ∧ slot.kept then failAt .trailingComma
  else if place = .next then
    if b = ascii ',' then .go (.object slot members .comma) stack else failAt .noObjectEnd
  else if b = ascii '"' then .go (.key slot members .start) stack
  else failAt .noKey

/-- A key has been read.  Whether it repeats an earlier one is asked before its
colon; the text of a key in a skipped object is not looked at. -/
def closeKey (slot : Slot) (members : List (String × Json)) (stack : List Frame)
    (written : Bytes) : Move :=
  if !slot.kept then .go (.colon slot members "") stack
  else match spelledText written with
    | .error m => failAfter m
    | .ok key =>
        if slot.unique key && members.any (fun member => member.1 = key) then
          .fail (.repeated key) false
        else .go (.colon slot members key) stack

/-! ## Scalars -/

def closeText (slot : Slot) (stack : List Frame) (written : Bytes) : Move :=
  if !slot.kept then deliver .null stack
  else match spelledText written with
    | .error m => failAfter m
    | .ok text => deliver (.string text) stack

/-- The value of a finished literal; skipped literals have none to miss. -/
def literal? (slot : Slot) (d : Draft) : Option Json :=
  if slot.kept then d.numeral.number?.map .number else some .null

/-- A value is complete, and a byte that is not its own follows it. -/
def deliverBefore (value : Json) (b : UInt8) : List Frame → Move
  | [] => .done value
  | .item slot items :: stack => stepArray slot (addItem slot items value) .next stack b
  | .member slot members key :: stack =>
      stepObject slot (addMember slot members key value) .next stack b

/-- Where a literal leads, by what the byte `b` makes of it. -/
def stepNumeral (slot : Slot) (draft : Draft) (stack : List Frame) (b : UInt8) :
    Drafted → Move
  | .more draft => .go (.numeral slot draft) stack
  | .wrong m left => .fail (.malformed m) left
  | .ended => match literal? slot draft with
      | some value => deliverBefore value b stack
      | none => failAt .numberRange

/-! ## One byte -/

def step : Phase → List Frame → UInt8 → Move
  | .value slot, stack, b => if isBlank b then .go (.value slot) stack else begin slot stack b
  | .word next left meaning, stack, b =>
      if b = next then
        match left with
        | [] => deliver meaning stack
        | letter :: rest => .go (.word letter rest meaning) stack
      else failAfter .badWord
  | .numeral slot draft, stack, b => stepNumeral slot draft stack b (draft.take slot.kept b)
  | .quote slot spelling, stack, b =>
      match spelling.take slot.kept b with
      | .more spelling => .go (.quote slot spelling) stack
      | .closed written => closeText slot stack written
      | .wrong m => failAfter m
  | .array slot items place, stack, b => stepArray slot items place stack b
  | .object slot members place, stack, b => stepObject slot members place stack b
  | .key slot members spelling, stack, b =>
      match spelling.take slot.kept b with
      | .more spelling => .go (.key slot members spelling) stack
      | .closed written => closeKey slot members stack written
      | .wrong m => failAfter m
  | .colon slot members key, stack, b =>
      if isBlank b then .go (.colon slot members key) stack
      else if b = ascii ':' then .go (.value (slot.member key)) (.member slot members key :: stack)
      else failAt .noColon

/-! ## The end of the source -/

/-- How reading ends when its source does. -/
inductive Ending where
  | done (document : Json)
  | fail (cause : Cause)

/-- What is cut short when the source ends after a value in a container. -/
def Frame.cut : Frame → Truncation
  | .item _ _ => .list
  | .member _ _ _ => .object

def stop : Phase → List Frame → Ending
  | .value _, _ => .fail (.truncated .value)
  | .word _ _ _, _ => .fail (.truncated .value)
  | .numeral slot draft, stack =>
      if draft.mayEnd then
        match literal? slot draft, stack with
        | none, _ => .fail (.malformed .numberRange)
        | some value, [] => .done value
        | some _, frame :: _ => .fail (.truncated frame.cut)
      else if slot.kept then .fail (.truncated .value)
      else .fail (.malformed .badNumber)
  | .quote _ _, _ => .fail (.truncated .quote)
  | .array _ _ place, _ => .fail (.truncated (if place = .comma then .value else .list))
  | .object slot _ place, _ =>
      .fail (.truncated (if place = .comma ∧ slot.kept then .value else .object))
  | .key _ _ _, _ => .fail (.truncated .quote)
  | .colon _ _ _, _ => .fail (.truncated .object)

/-! ## An end that is reported once -/

/-- Whether a value standing here may be missing: the root, a section, and a setting
itself, not what is nested in it. -/
def mayBeMissing : Slot → List Frame → Bool
  | .root, _ => true
  | .body _, _ => true
  | .setting, .member (.body _) _ _ :: _ => true
  | _, _ => false

/-- Whether the source is asked once more when it reports an end here. -/
def Phase.asksAgain (stack : List Frame) : Phase → Bool
  | .value slot => mayBeMissing slot stack
  | .numeral slot draft => draft.asksAgain slot.kept
  | _ => false

/-- What a null comes to that is met when the source has been asked once more. -/
def lateNull : Slot → Json
  | .setting => .null
  | _ => .unit

/-- A byte where the source has been asked once more.  White space before a value is
passed over as ever, and does not make up for the end. -/
def stepAgain : Phase → List Frame → UInt8 → Move
  | .value slot, stack, b =>
      if b = ascii 'n' then
        .go (.word (ascii 'u') [ascii 'l', ascii 'l'] (lateNull slot)) stack
      else begin slot stack b
  | .numeral slot draft, stack, b =>
      stepNumeral slot draft stack b (draft.takeAgain slot.kept b)
  | phase, stack, b => step phase stack b

def Phase.passes : Phase → UInt8 → Bool
  | .value _, b => isBlank b
  | _, _ => false

/-- The value an end completes. -/
def Phase.completed? : Phase → Option Json
  | .numeral slot draft => if draft.mayEnd then literal? slot draft else none
  | _ => none

def Ending.move : Ending → Move
  | .done document => .done document
  | .fail cause => .fail cause true

/-- Where an end leads that is not asked about again. -/
def conclude (phase : Phase) (stack : List Frame) : Move :=
  match phase.completed? with
  | some value => deliver value stack
  | none => (stop phase stack).move

/-! ## The containers around a phase -/

inductive Bracket where
  | square
  | curly
deriving DecidableEq, Repr

def Bracket.closer : Bracket → UInt8
  | square => ascii ']'
  | curly => ascii '\x7d'

/-- A container that is kept has a bracket to be left by; skipped ones are
forgotten. -/
def bracketOf (slot : Slot) (bracket : Bracket) : List Bracket :=
  if slot.kept then [bracket] else []

def Frame.brackets : Frame → List Bracket
  | .item slot _ => bracketOf slot .square
  | .member slot _ _ => bracketOf slot .curly

def Phase.ownBrackets : Phase → List Bracket
  | .array slot _ _ => bracketOf slot .square
  | .object slot _ _ => bracketOf slot .curly
  | .key slot _ _ => bracketOf slot .curly
  | .colon slot _ _ => bracketOf slot .curly
  | _ => []

/-- The kept containers a phase stands in, innermost first. -/
def bracketsAround (phase : Phase) (stack : List Frame) : List Bracket :=
  phase.ownBrackets ++ stack.flatMap Frame.brackets

end NodeSettings
