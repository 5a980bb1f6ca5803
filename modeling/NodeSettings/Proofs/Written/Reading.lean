/-
# NodeSettings.Proofs.Written.Reading -- what a reader makes of a written document

`Document.read` says what reading a document in a slot gives: its tree, or the
cause that ends the reading.  It follows the document and not its bytes, so white
space and the steps of the reader have no part in it.

A reader that takes the bytes of a document ends where `Document.read` says
(`onto_written`): it delivers the tree to the containers around, or it fails
with the cause.  The three parts of that theorem go by recursion on how the
document, its elements and its members are written.
-/
import NodeSettings.Proofs.Written.Document

namespace NodeSettings

open Text

set_option autoImplicit false

/-! ## Errors that are renamed -/

section Renamed

variable {ε ε' α : Type} (rename : ε → ε')

@[simp]
theorem mapError_ok (a : α) : (Except.ok a : Except ε α).mapError rename = .ok a :=
  rfl

@[simp]
theorem mapError_error (e : ε) :
    (Except.error e : Except ε α).mapError rename = .error (rename e) :=
  rfl

end Renamed

/-! ## Reading a document -/

namespace Document

/-- Read a key in an object that holds `members` already, last first. -/
def readKey (slot : Slot) (members : List (String × Json)) (glyphs : List Glyph) :
    Except Cause String :=
  if slot.kept then do
    let key ← (glyphText glyphs).mapError Cause.malformed
    if slot.unique key && members.any (fun member => member.1 = key) then .error (.repeated key)
    else pure key
  else pure ""

def readNumber (slot : Slot) (figures : Figures) : Except Cause Json :=
  if slot.kept then
    match figures.number? with
    | some n => .ok (.number n)
    | none => .error (.malformed .numberRange)
  else .ok .null

def readString (slot : Slot) (glyphs : List Glyph) : Except Cause Json :=
  if slot.kept then do
    let text ← (glyphText glyphs).mapError Cause.malformed
    pure (.string text)
  else .ok .null

mutual

/-- What a document is read as in a slot, inside `depth` containers. -/
def read : Slot → Nat → Document → Except Cause Json
  | _, _, .null => .ok .null
  | _, _, .bool value => .ok (.bool value)
  | slot, _, .number figures => readNumber slot figures
  | slot, _, .string glyphs => readString slot glyphs
  | slot, depth, .array elements =>
      if slot.kept && maxDepth ≤ depth then .error (.malformed .tooDeep)
      else readElements slot (depth + 1) [] elements
  | slot, depth, .object members =>
      if slot.kept && maxDepth ≤ depth then .error (.malformed .tooDeep)
      else readMembers slot (depth + 1) [] members

/-- Read the elements that follow `items`, which stand last first. -/
def readElements : Slot → Nat → List Json → List Document → Except Cause Json
  | _, _, items, [] => .ok (.array items.reverse)
  | slot, depth, items, element :: rest => do
      let value ← read slot.item depth element
      readElements slot depth (addItem slot items value) rest

def readMembers : Slot → Nat → List (String × Json) → List (List Glyph × Document) →
    Except Cause Json
  | _, _, members, [] => .ok (.object members.reverse)
  | slot, depth, members, (glyphs, value) :: rest => do
      let key ← readKey slot members glyphs
      let value ← read (slot.member key) depth value
      readMembers slot depth (addMember slot members key value) rest

end

end Document

/-! ## Taking a run of bytes -/

namespace Move

def next : Move → UInt8 → Move
  | .go phase stack, b => step phase stack b
  | ended, _ => ended

def onto (move : Move) (bytes : Bytes) : Move :=
  bytes.foldl next move

theorem onto_append (move : Move) (first rest : Bytes) :
    move.onto (first ++ rest) = (move.onto first).onto rest :=
  List.foldl_append

@[simp] theorem onto_nil (move : Move) : move.onto [] = move :=
  rfl

@[simp] theorem onto_go (phase : Phase) (stack : List Frame) (b : UInt8) (rest : Bytes) :
    (Move.go phase stack).onto (b :: rest) = (step phase stack b).onto rest :=
  rfl

@[simp] theorem onto_done (document : Json) (bytes : Bytes) :
    (Move.done document).onto bytes = .done document := by
  induction bytes with
  | nil => rfl
  | cons b rest ih => exact ih

@[simp] theorem onto_fail (cause : Cause) (left : Bool) (bytes : Bytes) :
    (Move.fail cause left).onto bytes = .fail cause left := by
  induction bytes with
  | nil => rfl
  | cons b rest ih => exact ih

end Move

/-- A move that a reading has led to: what it gives is delivered before `rest` is
taken, or its cause ends everything. -/
def Leads (stack : List Frame) (rest : Bytes) (move : Move) : Except Cause Json → Prop
  | .ok value => move = (deliver value stack).onto rest
  | .error cause => ∃ left, move = .fail cause left

/-! ## White space -/

/-- The phases that white space leaves as they are. -/
def Phase.Idle (phase : Phase) : Prop :=
  ∀ stack b, isBlank b = true → step phase stack b = .go phase stack

namespace Phase

theorem idle_value (slot : Slot) : Idle (.value slot) := by
  intro stack b blank
  simp [step, blank]

theorem idle_array (slot : Slot) (items : List Json) (place : Place) :
    Idle (.array slot items place) := by
  intro stack b blank
  simp [step, stepArray, blank]

theorem idle_object (slot : Slot) (members : List (String × Json)) (place : Place) :
    Idle (.object slot members place) := by
  intro stack b blank
  simp [step, stepObject, blank]

theorem idle_colon (slot : Slot) (members : List (String × Json)) (key : String) :
    Idle (.colon slot members key) := by
  intro stack b blank
  simp [step, blank]

theorem Idle.onto_blank {phase : Phase} (idle : phase.Idle) (stack : List Frame) {blank : Bytes}
    (isBlank : Blank blank) (rest : Bytes) :
    (Move.go phase stack).onto (blank ++ rest) = (Move.go phase stack).onto rest := by
  induction blank with
  | nil => rfl
  | cons b more ih =>
      rw [List.cons_append, Move.onto_go, idle stack b (isBlank b (by simp))]
      exact ih fun c member => isBlank c (by simp [member])

end Phase

/-! ## Strings and keys -/

/-- A phase that is in the middle of a string takes bytes as the string does, and
leaves it the way `close` says. -/
theorem onto_spelling (phase : Spelling → Phase) (strict : Bool) (stack : List Frame)
    (close : Bytes → Move)
    (steps : ∀ s b, step (phase s) stack b =
      match s.take strict b with
      | .more s => .go (phase s) stack
      | .closed written => close written
      | .wrong m => failAfter m)
    (s : Spelling) (bytes : Bytes) :
    (Move.go (phase s) stack).onto bytes =
      match s.takes strict bytes with
      | (.more s, _) => .go (phase s) stack
      | (.closed written, rest) => (close written).onto rest
      | (.wrong m, _) => failAfter m := by
  induction bytes generalizing s with
  | nil => rfl
  | cons b rest ih =>
      rw [Move.onto_go, steps]
      cases taken : s.take strict b with
      | more next => simpa [Spelling.takes, taken] using ih next
      | closed written => simp [Spelling.takes, taken]
      | wrong m => simp [Spelling.takes, taken, failAfter]

theorem onto_string (slot : Slot) (stack : List Frame) (glyphs : List Glyph) (rest : Bytes) :
    Leads stack rest
      ((Move.go (.quote slot .start) stack).onto (glyphBytes glyphs ++ ascii '"' :: rest))
      (Document.readString slot glyphs) := by
  rw [onto_spelling (.quote slot) slot.kept stack (closeText slot stack) fun _ _ => rfl]
  cases kept : slot.kept with
  | false =>
      obtain ⟨written, closed⟩ := Spelling.takes_lax [] rest glyphs
      simp only [Spelling.start, closed, closeText, Document.readString, kept, Leads]
      rfl
  | true =>
      have closes := Spelling.takes_strict [] rest glyphs
      simp only [Document.readString, glyphText, kept, if_true]
      cases spelt : unescaped glyphs with
      | error m =>
          rw [spelt] at closes
          obtain ⟨left, wrong⟩ := closes
          simp only [Spelling.start, wrong]
          exact ⟨false, rfl⟩
      | ok bytes =>
          rw [spelt] at closes
          have closed : Spelling.takes true _ _ = (.closed bytes, rest) := closes
          simp only [Spelling.start, closed, closeText, kept, bind, Except.bind]
          cases text : spelledText bytes with
          | error m => exact ⟨false, Move.onto_fail _ _ rest⟩
          | ok value => rfl

/-- After a key comes its colon, whatever follows it. -/
theorem onto_key (slot : Slot) (members : List (String × Json)) (stack : List Frame)
    (glyphs : List Glyph) (rest : Bytes) :
    (Move.go (.key slot members .start) stack).onto (glyphBytes glyphs ++ ascii '"' :: rest) =
      match Document.readKey slot members glyphs with
      | .ok key => (Move.go (.colon slot members key) stack).onto rest
      | .error cause => .fail cause false := by
  rw [onto_spelling (.key slot members) slot.kept stack (closeKey slot members stack)
    fun _ _ => rfl]
  cases kept : slot.kept with
  | false =>
      obtain ⟨written, closed⟩ := Spelling.takes_lax [] rest glyphs
      simp only [Spelling.start, closed, closeKey, Document.readKey, kept]
      rfl
  | true =>
      have closes := Spelling.takes_strict [] rest glyphs
      simp only [Document.readKey, glyphText, kept, if_true]
      cases spelt : unescaped glyphs with
      | error m =>
          rw [spelt] at closes
          obtain ⟨left, wrong⟩ := closes
          simp only [Spelling.start, wrong]
          rfl
      | ok bytes =>
          rw [spelt] at closes
          have closed : Spelling.takes true _ _ = (.closed bytes, rest) := closes
          simp only [Spelling.start, closed, closeKey, kept, bind, Except.bind]
          cases text : spelledText bytes with
          | error m => exact Move.onto_fail _ _ rest
          | ok key =>
              simp only [mapError_ok, Bool.not_true, Bool.false_eq_true, if_false]
              by_cases repeated :
                  (slot.unique key && members.any fun member => member.1 = key) = true
              · simp [repeated]
              · simp [repeated, pure, Except.pure]

/-! ## Numbers -/

theorem onto_numeral {slot : Slot} {stack : List Frame} {d after : Draft} {bytes : Bytes}
    (taken : d.takes slot.kept bytes = .more after) (rest : Bytes) :
    (Move.go (.numeral slot d) stack).onto (bytes ++ rest) =
      (Move.go (.numeral slot after) stack).onto rest := by
  induction bytes generalizing d with
  | nil =>
      cases taken
      rfl
  | cons b more ih =>
      rw [List.cons_append, Move.onto_go]
      cases one : d.take slot.kept b with
      | more next => simpa [step, stepNumeral, one] using ih (by simpa [Draft.takes, one] using taken)
      | ended => simp [Draft.takes, one] at taken
      | wrong m left => simp [Draft.takes, one] at taken

theorem onto_numeral_wrong {slot : Slot} {stack : List Frame} {d : Draft} {bytes : Bytes}
    {m : Malformation} {left : Bool} (wrong : d.takes slot.kept bytes = .wrong m left)
    (rest : Bytes) :
    (Move.go (.numeral slot d) stack).onto (bytes ++ rest) = .fail (.malformed m) left := by
  induction bytes generalizing d with
  | nil => cases wrong
  | cons b more ih =>
      rw [List.cons_append, Move.onto_go]
      cases one : d.take slot.kept b with
      | more next => simpa [step, stepNumeral, one] using ih (by simpa [Draft.takes, one] using wrong)
      | ended => simp [Draft.takes, one] at wrong
      | wrong m' left' =>
          simp only [Draft.takes, one, Drafted.wrong.injEq] at wrong
          simp [step, stepNumeral, one, wrong.1, wrong.2]

/-- A minus or a digit begins a number. -/
theorem step_number (slot : Slot) (stack : List Frame) {b : UInt8}
    (first : b = ascii '-' ∨ (digit? b).isSome = true) :
    step (.value slot) stack b = .go (.numeral slot (Draft.start b)) stack := by
  rcases first with rfl | digit
  · rfl
  · obtain ⟨n, known⟩ := Option.isSome_iff_exists.mp digit
    obtain ⟨d, rfl, -⟩ := byte_of_digit? known
    have plain : isBlank d.byte = false ∧ d.byte ≠ ascii 'n' ∧ d.byte ≠ ascii 't' ∧
        d.byte ≠ ascii 'f' := by
      clear digit known
      revert d
      decide
    simp [step, begin, plain, digit?_byte]

/-- The figures of a number have been taken; where it ends is still open. -/
theorem onto_figures (slot : Slot) (stack : List Frame) (f : Figures) (rest : Bytes) :
    (Move.go (.value slot) stack).onto (f.bytes ++ rest) =
      if slot.kept && f.overflows then .fail (.malformed .numberRange) false
      else (Move.go (.numeral slot f.draft) stack).onto rest := by
  obtain ⟨b, more, shape, first⟩ := f.bytes_first
  obtain ⟨b', more', shape', taken⟩ := f.takes_bytes slot.kept
  rw [shape, List.cons.injEq] at shape'
  obtain ⟨rfl, rfl⟩ := shape'
  rw [shape, List.cons_append, Move.onto_go, step_number slot stack first]
  split at taken
  · rename_i wide
    rw [if_pos wide, onto_numeral_wrong taken]
  · rename_i fits
    rw [if_neg fits, onto_numeral taken]

theorem onto_deliverBefore (value : Json) (stack : List Frame) (b : UInt8) (rest : Bytes) :
    (deliverBefore value b stack).onto rest = (deliver value stack).onto (b :: rest) := by
  match stack with
  | [] => exact (Move.onto_done _ _).trans (Move.onto_done _ _).symm
  | .item slot items :: stack => rfl
  | .member slot members key :: stack => rfl

theorem literal?_draft (slot : Slot) (f : Figures) (fits : (slot.kept && f.overflows) = false) :
    literal? slot f.draft = (Document.readNumber slot f).toOption := by
  simp only [literal?, f.draft_numeral, Document.readNumber, Figures.number?]
  cases kept : slot.kept with
  | false => rfl
  | true =>
      rw [kept, Bool.true_and] at fits
      simp only [fits, Bool.false_eq_true, if_false, if_true]
      cases f.numeral.number? <;> rfl

theorem readNumber_error {slot : Slot} {f : Figures} {cause : Cause}
    (failed : Document.readNumber slot f = .error cause) : cause = .malformed .numberRange := by
  simp only [Document.readNumber] at failed
  split at failed
  · split at failed
    · cases failed
    · cases failed
      rfl
  · cases failed

theorem onto_number (slot : Slot) (stack : List Frame) (f : Figures) {b : UInt8}
    (apart : f.goesOn b = false) (rest : Bytes) :
    Leads stack (b :: rest) ((Move.go (.value slot) stack).onto (f.bytes ++ b :: rest))
      (Document.readNumber slot f) := by
  rw [onto_figures]
  cases wide : slot.kept && f.overflows with
  | true =>
      obtain ⟨kept, tooLarge⟩ := Bool.and_eq_true_iff.mp wide
      simp only [Document.readNumber, Figures.number?, kept, tooLarge, if_true]
      exact ⟨false, rfl⟩
  | false =>
      have ended : step (.numeral slot f.draft) stack b =
          (literal? slot f.draft).elim (failAt .numberRange) fun value =>
            deliverBefore value b stack := by
        have whole := f.take_end slot.kept apart
        cases known : literal? slot f.draft <;> simp [step, stepNumeral, whole, known]
      rw [literal?_draft slot f wide] at ended
      simp only [Bool.false_eq_true, if_false, Move.onto_go, ended]
      cases read : Document.readNumber slot f with
      | ok value => exact onto_deliverBefore value stack b rest
      | error cause =>
          rw [readNumber_error read]
          exact ⟨true, Move.onto_fail _ _ rest⟩

/-! ## Documents -/

/-- Whether what follows a document shows that it has ended: for a number, that
something follows which does not go on with it. -/
def Document.Ends : Document → Bytes → Prop
  | .number _, [] => False
  | .number figures, b :: _ => figures.goesOn b = false
  | _, _ => True

theorem Document.ends_of_stopper (doc : Document) {b : UInt8} (stopper : Stopper b)
    (rest : Bytes) : doc.Ends (b :: rest) := by
  cases doc with
  | number figures => exact stopper.apart figures
  | _ => trivial

namespace Leads

/-- A reading that goes on with what a first reading gave. -/
theorem bind {stack : List Frame} {rest : Bytes} {move : Move} {first : Except Cause Json}
    {next : Json → Except Cause Json} {inner : List Frame} {middle : Bytes}
    (leads : Leads inner middle move first)
    (goes : ∀ value, Leads stack rest ((deliver value inner).onto middle) (next value)) :
    Leads stack rest move (first >>= next) := by
  cases first with
  | ok value =>
      have arrived : move = (deliver value inner).onto middle := leads
      rw [arrived]
      exact goes value
  | error cause => exact leads

end Leads

/-- A container is opened unless it stands too deep. -/
theorem onto_open {slot : Slot} {stack : List Frame} {phase : Phase} {bytes rest : Bytes}
    {result : Except Cause Json}
    (inside : Leads stack rest ((Move.go phase stack).onto bytes) result) :
    Leads stack rest
      ((if tooDeep slot stack then failAt .tooDeep else .go phase stack).onto bytes)
      (if slot.kept && maxDepth ≤ stack.length then .error (.malformed .tooDeep) else result) := by
  rw [← tooDeep]
  cases tooDeep slot stack with
  | true => exact ⟨true, Move.onto_fail _ _ bytes⟩
  | false => exact inside

/-- An element begins where an array may hold one. -/
theorem step_element {slot : Slot} {items : List Json} {place : Place} {stack : List Frame}
    (room : place ≠ .next) {b : UInt8} (opener : Opener b) :
    step (.array slot items place) stack b =
      step (.value slot.item) (.item slot items :: stack) b := by
  obtain ⟨solid, noSquare, -⟩ := opener.plain
  simp [step, stepArray, solid, noSquare, room]

theorem onto_element {slot : Slot} {items : List Json} {place : Place} {stack : List Frame}
    {body : Bytes} {element : Document} (written : Written element body)
    (room : place ≠ .next) (rest : Bytes) :
    (Move.go (.array slot items place) stack).onto (body ++ rest) =
      (Move.go (.value slot.item) (.item slot items :: stack)).onto (body ++ rest) := by
  obtain ⟨b, more, rfl, opener⟩ := written.opener
  rw [List.cons_append, Move.onto_go, Move.onto_go, step_element room opener]

theorem onto_lead_elements {slot : Slot} {items : List Json} {place : Place}
    {stack : List Frame} {lead : Bytes} (led : Lead place lead) (rest : Bytes) :
    ∃ after : Place, after ≠ .next ∧
      (Move.go (.array slot items place) stack).onto (lead ++ rest) =
        (Move.go (.array slot items after) stack).onto rest := by
  cases led with
  | first => exact ⟨.first, by decide, rfl⟩
  | comma isBlank =>
      refine ⟨.comma, by decide, ?_⟩
      rw [List.append_assoc, (Phase.idle_array slot items .next).onto_blank stack isBlank]
      have solid : Text.isBlank (ascii ',') = false := by decide
      have noSquare : ascii ',' ≠ ascii ']' := by decide
      simp [step, stepArray, solid, noSquare]

theorem onto_lead_members {slot : Slot} {members : List (String × Json)} {place : Place}
    {stack : List Frame} {lead : Bytes} (led : Lead place lead) (rest : Bytes) :
    ∃ after : Place, after ≠ .next ∧
      (Move.go (.object slot members place) stack).onto (lead ++ rest) =
        (Move.go (.object slot members after) stack).onto rest := by
  cases led with
  | first => exact ⟨.first, by decide, rfl⟩
  | comma isBlank =>
      refine ⟨.comma, by decide, ?_⟩
      rw [List.append_assoc, (Phase.idle_object slot members .next).onto_blank stack isBlank]
      have solid : Text.isBlank (ascii ',') = false := by decide
      have noCurly : ascii ',' ≠ ascii '\x7d' := by decide
      simp [step, stepObject, solid, noCurly]

/-- A key begins where an object may hold one. -/
theorem step_key {slot : Slot} {members : List (String × Json)} {place : Place}
    {stack : List Frame} (room : place ≠ .next) :
    step (.object slot members place) stack (ascii '"') = .go (.key slot members .start) stack := by
  have solid : isBlank (ascii '"') = false := by decide
  have noCurly : ascii '"' ≠ ascii '\x7d' := by decide
  simp [step, stepObject, solid, noCurly, room]

theorem onto_member {slot : Slot} {members : List (String × Json)} {place : Place}
    {stack : List Frame} (room : place ≠ .next) (glyphs : List Glyph) (rest : Bytes) :
    (Move.go (.object slot members place) stack).onto (inQuoteBytes glyphs ++ rest) =
      match Document.readKey slot members glyphs with
      | .ok key => (Move.go (.colon slot members key) stack).onto rest
      | .error cause => .fail cause false := by
  rw [inQuoteBytes, List.cons_append, Move.onto_go, step_key room, List.append_assoc]
  exact onto_key slot members stack glyphs rest

theorem onto_colon {slot : Slot} {members : List (String × Json)} {key : String}
    {stack : List Frame} {between after : Bytes} (blankBetween : Blank between)
    (blankAfter : Blank after) (rest : Bytes) :
    (Move.go (.colon slot members key) stack).onto (between ++ (ascii ':' :: (after ++ rest))) =
      (Move.go (.value (slot.member key)) (.member slot members key :: stack)).onto rest := by
  have solid : isBlank (ascii ':') = false := by decide
  rw [(Phase.idle_colon slot members key).onto_blank stack blankBetween, Move.onto_go]
  simp only [step, solid, Bool.false_eq_true, if_false, if_true]
  exact (Phase.idle_value _).onto_blank _ blankAfter rest

mutual

/-- **A reader takes a written document for what it is read as.** -/
theorem onto_written {doc : Document} {body : Bytes} (written : Written doc body) (slot : Slot)
    (stack : List Frame) {rest : Bytes} (ends : doc.Ends rest) :
    Leads stack rest ((Move.go (.value slot) stack).onto (body ++ rest))
      (doc.read slot stack.length) := by
  match written with
  | .null => rfl
  | .yes => rfl
  | .no => rfl
  | .number f =>
      cases rest with
      | nil => exact ends.elim
      | cons b more => exact onto_number slot stack f ends more
  | .string glyphs =>
      rw [inQuoteBytes, List.cons_append, List.append_assoc]
      exact onto_string slot stack glyphs rest
  | .array inside =>
      rw [List.cons_append, Move.onto_go, Document.read]
      exact onto_open (onto_elements inside slot stack [] rest)
  | .object inside =>
      rw [List.cons_append, Move.onto_go, Document.read]
      exact onto_open (onto_members inside slot stack [] rest)

theorem onto_elements {place : Place} {elements : List Document} {bytes : Bytes}
    (written : WrittenElements place elements bytes) (slot : Slot) (stack : List Frame)
    (items : List Json) (rest : Bytes) :
    Leads stack rest ((Move.go (.array slot items place) stack).onto (bytes ++ rest))
      (Document.readElements slot (stack.length + 1) items elements) := by
  match written with
  | .none complete isBlank =>
      have solid : Text.isBlank (ascii ']') = false := by decide
      rw [List.append_assoc, (Phase.idle_array slot items place).onto_blank stack isBlank]
      simp [step, stepArray, solid, complete, Document.readElements, Leads]
  | .more led isBlank first others =>
      obtain ⟨after, room, past⟩ := onto_lead_elements led _
      rw [List.append_assoc, past, List.append_assoc,
        (Phase.idle_array slot items after).onto_blank stack isBlank, List.append_assoc,
        onto_element first room, Document.readElements]
      obtain ⟨b, more, shape, stopper⟩ := others.stopper
      refine (onto_written first slot.item (.item slot items :: stack) ?_).bind fun value => ?_
      · rw [shape]
        exact Document.ends_of_stopper _ stopper (more ++ rest)
      · exact onto_elements others slot stack (addItem slot items value) rest

theorem onto_members {place : Place} {list : List (List Glyph × Document)} {bytes : Bytes}
    (written : WrittenMembers place list bytes) (slot : Slot) (stack : List Frame)
    (members : List (String × Json)) (rest : Bytes) :
    Leads stack rest ((Move.go (.object slot members place) stack).onto (bytes ++ rest))
      (Document.readMembers slot (stack.length + 1) members list) := by
  match written with
  | .none complete isBlank =>
      have solid : Text.isBlank (ascii '\x7d') = false := by decide
      rw [List.append_assoc, (Phase.idle_object slot members place).onto_blank stack isBlank]
      simp [step, stepObject, solid, complete, Document.readMembers, Leads]
  | .more led blankBefore blankBetween blankAfter first others =>
      obtain ⟨after, room, past⟩ := onto_lead_members led _
      rw [List.append_assoc, past, List.append_assoc,
        (Phase.idle_object slot members after).onto_blank stack blankBefore, List.append_assoc,
        onto_member room, Document.readMembers]
      cases Document.readKey slot members _ with
      | error cause => exact ⟨false, rfl⟩
      | ok key =>
          obtain ⟨b, more, shape, stopper⟩ := others.stopper
          simp only [List.append_assoc, List.cons_append]
          rw [onto_colon blankBetween blankAfter]
          refine (onto_written first (slot.member key) (.member slot members key :: stack)
            ?_).bind fun value => ?_
          · rw [shape]
            exact Document.ends_of_stopper _ stopper (more ++ rest)
          · exact onto_members others slot stack (addMember slot members key value) rest

end

end NodeSettings
