/-
# NodeSettings.Proofs.Written.Cuts -- documents that are cut short

Wherever a document that can be read is cut, a reader stands in the middle of
something and misses what was to come (`Move.Missing`).  The one exception is a cut
within a number, whose end nothing marks: where the number is skipped its first
figures may be no number yet, and where it is kept they may be a number out of
range (`CutNumber.Shows`).  `CutNumber.Within` says which fronts of a document end
within a number, by the grammar alone.

A run is followed along all its cuts at once (`Move.Along`), part by part of what
is written: two runs in a row are cut in the first or in the second
(`Move.along_append`).  The main theorem goes by recursion on how the document, its
elements and its members are written (`along_written`).
-/
import NodeSettings.Proofs.Written.Items
import NodeSettings.Proofs.Written.Recognition

namespace NodeSettings

open Text

set_option autoImplicit false

/-! ## Numbers that are cut -/

/-- Where the value of a member stands, by its key as it is written.  A key that is
no text is only read where it is skipped. -/
def Slot.under (slot : Slot) (key : List Glyph) : Slot :=
  (keyText? key).elim .skipped slot.member

/-- A number that is cut: some of its figures stand before the cut, and some after
it. -/
structure CutNumber where
  slot : Slot
  figures : Figures
  front : Bytes
  back : Bytes
  shape : figures.bytes = front ++ back
  begun : front ≠ []
  unended : back ≠ []

namespace CutNumber

mutual

/-- The front of a document that ends within this number. -/
inductive Within (number : CutNumber) : Slot → Document → Bytes → Prop where
  | number : Within number number.slot (.number number.figures) number.front
  | array {slot : Slot} {elements : List Document} {front : Bytes}
      (inside : WithinElements number slot .first elements front) :
      Within number slot (.array elements) (ascii '[' :: front)
  | object {slot : Slot} {members : List (List Glyph × Document)} {front : Bytes}
      (inside : WithinMembers number slot .first members front) :
      Within number slot (.object members) (ascii '\x7b' :: front)

inductive WithinElements (number : CutNumber) : Slot → Place → List Document → Bytes → Prop where
  | here {slot : Slot} {place : Place} {lead blank front : Bytes} {element : Document}
      {rest : List Document} (led : Lead place lead) (isBlank : Blank blank)
      (inside : Within number slot.item element front) :
      WithinElements number slot place (element :: rest) (lead ++ (blank ++ front))
  | later {slot : Slot} {place : Place} {lead blank body front : Bytes} {element : Document}
      {rest : List Document} (led : Lead place lead) (isBlank : Blank blank)
      (first : Written element body) (inside : WithinElements number slot .next rest front) :
      WithinElements number slot place (element :: rest) (lead ++ (blank ++ (body ++ front)))

inductive WithinMembers (number : CutNumber) :
    Slot → Place → List (List Glyph × Document) → Bytes → Prop where
  | here {slot : Slot} {place : Place} {lead before between after front : Bytes}
      {key : List Glyph} {value : Document} {rest : List (List Glyph × Document)}
      (led : Lead place lead) (blankBefore : Blank before) (blankBetween : Blank between)
      (blankAfter : Blank after) (inside : Within number (slot.under key) value front) :
      WithinMembers number slot place ((key, value) :: rest)
        (lead ++ (before ++ (inQuoteBytes key ++
          (between ++ (ascii ':' :: (after ++ front))))))
  | later {slot : Slot} {place : Place} {lead before between after body front : Bytes}
      {key : List Glyph} {value : Document} {rest : List (List Glyph × Document)}
      (led : Lead place lead) (blankBefore : Blank before) (blankBetween : Blank between)
      (blankAfter : Blank after) (first : Written value body)
      (inside : WithinMembers number slot .next rest front) :
      WithinMembers number slot place ((key, value) :: rest)
        (lead ++ (before ++ (inQuoteBytes key ++
          (between ++ (ascii ':' :: (after ++ (body ++ front)))))))

end

/-- What the figures before the cut show of a number. -/
inductive Shows (number : CutNumber) : Malformation → Prop where
  /-- A skipped one is no number yet. -/
  | unfinished (skipped : number.slot.kept = false)
      (noNumber : ∀ g : Figures, g.bytes ≠ number.front) : Shows number .badNumber
  /-- A kept one is a number already, and out of range. -/
  | outOfRange {g : Figures} (kept : number.slot.kept = true) (isNumber : g.bytes = number.front)
      (range : g.number? = none) : Shows number .numberRange

end CutNumber

/-! ## Moves at a cut -/

/-- A reader in the middle of something that misses what was to come. -/
def Move.Missing (move : Move) : Prop :=
  ∃ phase stack t, move = .go phase stack ∧ stop phase stack = .fail (.truncated t)

/-- What a reader has come to at a cut. -/
inductive Move.CutShort (within : CutNumber → Prop) : Move → Prop where
  | missing {move : Move} (missing : move.Missing) : CutShort within move
  | shown {phase : Phase} {stack : List Frame} {m : Malformation} {number : CutNumber}
      (inside : within number) (shows : number.Shows m)
      (stops : stop phase stack = .fail (.malformed m)) : CutShort within (.go phase stack)

namespace Move

theorem CutShort.imp {P Q : CutNumber → Prop} {move : Move} (cut : move.CutShort P)
    (onward : ∀ number, P number → Q number) : move.CutShort Q := by
  cases cut with
  | missing missing => exact .missing missing
  | shown inside shows stops => exact .shown (onward _ inside) shows stops

/-- Wherever the bytes are cut, the move has come to a cut by then. -/
def Along (within : Bytes → CutNumber → Prop) (move : Move) (bytes : Bytes) : Prop :=
  ∀ front back, bytes = front ++ back → back ≠ [] → (move.onto front).CutShort (within front)

section Along

variable {within : Bytes → CutNumber → Prop} {move : Move}

theorem along_nil : move.Along within [] := by
  intro front back shape cut
  exact absurd (List.append_eq_nil_iff.mp shape.symm).2 cut

theorem along_cons {b : UInt8} {rest : Bytes} (here : move.Missing)
    (onward : (move.next b).Along (fun front => within (b :: front)) rest) :
    move.Along within (b :: rest) := by
  intro front back shape cut
  cases front with
  | nil => exact .missing here
  | cons c front =>
      obtain ⟨rfl, same⟩ := List.cons.inj shape
      exact onward front back same cut

theorem along_append {first rest : Bytes} (one : move.Along within first)
    (two : (move.onto first).Along (fun front => within (first ++ front)) rest) :
    move.Along within (first ++ rest) := by
  intro front back shape cut
  rcases List.append_eq_append_iff.mp shape with ⟨after, rfl, same⟩ | ⟨after, rfl, same⟩
  · rw [onto_append]
    exact two after back same cut
  · cases after with
    | nil =>
        -- The cut stands between the two.
        rw [List.append_nil] at two
        simpa using two [] back same.symm cut
    | cons b more => exact one front (b :: more) rfl (by simp)

theorem Along.imp {other : Bytes → CutNumber → Prop} {bytes : Bytes}
    (along : move.Along within bytes)
    (onward : ∀ front number, within front number → other front number) :
    move.Along other bytes := by
  intro front back shape cut
  exact (along front back shape cut).imp (onward front)

/-- What the first byte takes to the same place goes on alike. -/
theorem Along.transfer {other : Move} {b : UInt8} {rest : Bytes}
    (along : move.Along within (b :: rest)) (same : other.next b = move.next b)
    (here : other.Missing) : other.Along within (b :: rest) := by
  apply along_cons here
  intro front back shape cut
  rw [same]
  exact along (b :: front) back (by rw [shape, List.cons_append]) cut

end Along

end Move

/-! ## White space, words and strings -/

section Runs

variable {within : Bytes → CutNumber → Prop} {stack : List Frame}

theorem along_blank {phase : Phase} (idle : phase.Idle) {blank : Bytes} (isBlank : Blank blank)
    (here : (Move.go phase stack).Missing) : (Move.go phase stack).Along within blank := by
  induction blank generalizing within with
  | nil => exact Move.along_nil
  | cons b rest ih =>
      apply Move.along_cons here
      rw [Move.next, idle stack b (isBlank b (by simp))]
      exact ih fun c member => isBlank c (by simp [member])

/-- White space is passed over, and the cuts are those after it. -/
theorem along_past_blank {phase : Phase} (idle : phase.Idle) {blank rest : Bytes}
    (isBlank : Blank blank) (here : (Move.go phase stack).Missing)
    (onward : (Move.go phase stack).Along (fun front => within (blank ++ front)) rest) :
    (Move.go phase stack).Along within (blank ++ rest) := by
  apply Move.along_append (along_blank idle isBlank here)
  have passed := idle.onto_blank stack isBlank []
  rw [List.append_nil] at passed
  rwa [passed]

theorem missing_value (slot : Slot) : (Move.go (.value slot) stack).Missing :=
  ⟨_, _, _, rfl, rfl⟩

theorem along_word (next : UInt8) (left : Bytes) (meaning : Json) :
    (Move.go (.word next left meaning) stack).Along within (next :: left) := by
  induction left generalizing next within with
  | nil => exact Move.along_cons ⟨_, _, _, rfl, rfl⟩ Move.along_nil
  | cons letter rest ih =>
      apply Move.along_cons ⟨_, _, _, rfl, rfl⟩
      have steps : (Move.go (.word next (letter :: rest) meaning) stack).next next =
          .go (.word letter rest meaning) stack := by
        simp [Move.next, step]
      rw [steps]
      exact ih letter

theorem along_spelling (phase : Spelling → Phase) (strict : Bool) (close : Bytes → Move)
    (steps : ∀ s b, step (phase s) stack b =
      match s.take strict b with
      | .more s => .go (phase s) stack
      | .closed written => close written
      | .wrong m => failAfter m)
    (here : ∀ s, (Move.go (phase s) stack).Missing) {s : Spelling} {bytes written : Bytes}
    (closes : s.takes strict bytes = (.closed written, [])) :
    (Move.go (phase s) stack).Along within bytes := by
  induction bytes generalizing s within with
  | nil => exact Move.along_nil
  | cons b rest ih =>
      apply Move.along_cons (here s)
      rw [Spelling.takes] at closes
      rw [Move.next, steps]
      cases taken : s.take strict b with
      | more next =>
          rw [taken] at closes
          exact ih closes
      | closed early =>
          rw [taken] at closes
          obtain rfl : rest = [] := (Prod.mk.inj closes).2
          exact Move.along_nil
      | wrong m => simp [taken] at closes

end Runs

/-- Glyphs that are not kept, or spell a text, are taken up to the quote after
them. -/
theorem Spelling.closes {strict : Bool} {glyphs : List Glyph}
    (textual : strict = true → ∃ text, keyText? glyphs = some text) :
    ∃ written, Spelling.start.takes strict (glyphBytes glyphs ++ [ascii '"']) =
      (.closed written, []) := by
  cases strict with
  | false => exact takes_lax [] [] glyphs
  | true =>
      obtain ⟨text, spelt⟩ := textual rfl
      have strict := takes_strict [] [] glyphs
      cases bytes : unescaped glyphs with
      | ok written =>
          rw [bytes] at strict
          exact ⟨written, strict⟩
      | error m => simp [keyText?, glyphText, bytes, bind, Except.bind, Except.toOption] at spelt

theorem text_of_readString {slot : Slot} {glyphs : List Glyph} {value : Json}
    (read : Document.readString slot glyphs = .ok value) (kept : slot.kept = true) :
    ∃ text, keyText? glyphs = some text := by
  obtain ⟨text, spelt, -⟩ := (@Document.readAs_string slot 0 value kept glyphs).mp read
  exact ⟨text, spelt⟩

/-! ## Numbers -/

namespace Draft

theorem takes_front {strict : Bool} {d after : Draft} {front back : Bytes}
    (taken : d.takes strict (front ++ back) = .more after) :
    ∃ middle, d.takes strict front = .more middle := by
  induction front generalizing d with
  | nil => exact ⟨d, rfl⟩
  | cons b rest ih =>
      rw [List.cons_append, takes] at taken
      rw [takes]
      cases next : d.take strict b with
      | more next' =>
          rw [next] at taken
          exact ih taken
      | ended => simp [next] at taken
      | wrong m left => simp [next] at taken

/-- Being strict only ends a literal sooner. -/
theorem take_lax {strict : Bool} {d after : Draft} {b : UInt8}
    (taken : d.take strict b = .more after) : d.take false b = .more after := by
  have added (n : Nat) (more : d.addExponent strict n = .more after) :
      d.addExponent false n = .more after := by
    simp only [addExponent] at more ⊢
    split at more
    · cases more
    · simpa using more
  unfold take at taken ⊢
  split at taken <;> first | exact taken | exact added _ taken

theorem takes_lax {strict : Bool} {d after : Draft} {bytes : Bytes}
    (taken : d.takes strict bytes = .more after) : d.takes false bytes = .more after := by
  induction bytes generalizing d with
  | nil => exact taken
  | cons b rest ih =>
      rw [takes] at taken ⊢
      cases next : d.take strict b with
      | more next' =>
          rw [next] at taken
          rw [take_lax next]
          exact ih taken
      | ended => simp [next] at taken
      | wrong m left => simp [next] at taken

/-- **What may end is a literal.** -/
theorem exists_figures {strict : Bool} {b : UInt8} {more : Bytes} {d : Draft}
    (first : b = ascii '-' ∨ (digit? b).isSome = true)
    (taken : (start b).takes strict more = .more d) (ends : d.mayEnd = true) :
    ∃ g : Figures, g.bytes = b :: more ∧ g.draft = d := by
  -- A skipped number that may end is a whole document.
  have goes : (Move.go (.value .skipped) []).onto (b :: more) = .go (.numeral .skipped d) [] := by
    have whole := @onto_numeral .skipped [] (start b) d more (takes_lax taken) []
    rw [List.append_nil] at whole
    rw [Move.onto_go, step_number .skipped [] first, whole]
    rfl
  have succeeds : Succeeds (.go (.value .skipped) []) (b :: more) := by
    refine ⟨.null, ?_⟩
    rw [goes]
    simp [Move.close, stop, ends, literal?, Slot.kept]
  obtain ⟨g, rest, shape, apart⟩ := succeeds.figures first
  rw [shape] at goes
  cases rest with
  | nil =>
      rw [onto_figures] at goes
      simp only [Slot.kept, Bool.false_and, Bool.false_eq_true, if_false, Move.onto_nil,
        Move.go.injEq, Phase.numeral.injEq, true_and, and_true] at goes
      exact ⟨g, by rw [shape, List.append_nil], goes⟩
  | cons c rest =>
      have leads : _ = _ := onto_number .skipped [] g apart rest
      rw [goes, deliver, Move.onto_done] at leads
      cases leads

end Draft

theorem overflows_of_read {slot : Slot} {f : Figures} {value : Json}
    (read : Document.readNumber slot f = .ok value) : (slot.kept && f.overflows) = false := by
  cases kept : slot.kept with
  | false => rfl
  | true =>
      obtain ⟨n, known, -⟩ := (@Document.readAs_number slot 0 value kept f).mp read
      rw [Figures.number?] at known
      split at known
      · cases known
      · rename_i fits
        simpa using fits

/-- The figures of a number that is in range have been taken. -/
theorem onto_figures_of_read {slot : Slot} {f : Figures} {value : Json}
    (read : Document.readNumber slot f = .ok value) (stack : List Frame) (rest : Bytes) :
    (Move.go (.value slot) stack).onto (f.bytes ++ rest) =
      (Move.go (.numeral slot f.draft) stack).onto rest := by
  rw [onto_figures, overflows_of_read read]
  rfl

/-- After a value within a container something is missing. -/
theorem missing_after {doc : Document} {body : Bytes} (written : Written doc body) {slot : Slot}
    {frame : Frame} {stack : List Frame} {value : Json}
    (read : doc.read slot (stack.length + 1) = .ok value) :
    ((Move.go (.value slot) (frame :: stack)).onto body).Missing := by
  have delivered (ends : doc.Ends []) :
      ((Move.go (.value slot) (frame :: stack)).onto body).Missing := by
    have leads := onto_written written slot (frame :: stack) ends
    rw [List.length_cons, read, List.append_nil] at leads
    have arrived : _ = deliver value (frame :: stack) := leads
    rw [arrived]
    cases frame with
    | item slot items => exact ⟨_, _, _, rfl, rfl⟩
    | member slot members key => exact ⟨_, _, _, rfl, rfl⟩
  cases written with
  | number f =>
      rw [Document.read] at read
      have taken := onto_figures_of_read read (frame :: stack) []
      rw [List.append_nil] at taken
      refine ⟨_, _, frame.cut, taken, ?_⟩
      have literal := literal?_draft slot f (overflows_of_read read)
      rw [read] at literal
      simp [stop, f.draft_mayEnd, literal, Except.toOption]
  | _ => exact delivered trivial

theorem outOfRange_of_readNumber {slot : Slot} {f : Figures} {cause : Cause}
    (failed : Document.readNumber slot f = .error cause) :
    slot.kept = true ∧ f.number? = none := by
  simp only [Document.readNumber] at failed
  split at failed
  · rename_i kept
    refine ⟨kept, ?_⟩
    cases known : f.number? with
    | none => rfl
    | some n => simp [known] at failed
  · cases failed

/-- At figures that are a number by themselves a reader misses what follows them, or
sees that they are out of range. -/
theorem cutShort_of_figures {number : CutNumber} {g : Figures} (isNumber : g.bytes = number.front)
    {frame : Frame} {stack : List Frame}
    (goes : (Move.go (.value number.slot) (frame :: stack)).onto number.front =
      .go (.numeral number.slot g.draft) (frame :: stack)) {within : CutNumber → Prop}
    (inside : within number) :
    (Move.go (.numeral number.slot g.draft) (frame :: stack)).CutShort within := by
  have fits : (number.slot.kept && g.overflows) = false := by
    have taken := onto_figures number.slot (frame :: stack) g []
    rw [List.append_nil, isNumber, goes] at taken
    split at taken
    · cases taken
    · rename_i fits
      simpa using fits
  have literal := literal?_draft number.slot g fits
  cases read : Document.readNumber number.slot g with
  | ok value =>
      refine .missing ⟨_, _, frame.cut, rfl, ?_⟩
      simp [stop, g.draft_mayEnd, literal, read, Except.toOption]
  | error cause =>
      obtain ⟨kept, range⟩ := outOfRange_of_readNumber read
      refine .shown inside (.outOfRange kept isNumber range) ?_
      simp [stop, g.draft_mayEnd, literal, read, Except.toOption]

/-- At figures that must not end yet a reader misses the rest of a kept number, and
sees that a skipped one is none. -/
theorem cutShort_of_lacking {number : CutNumber} {d : Draft} (lacking : d.mayEnd = false)
    {frame : Frame} {stack : List Frame}
    (goes : (Move.go (.value number.slot) (frame :: stack)).onto number.front =
      .go (.numeral number.slot d) (frame :: stack)) {within : CutNumber → Prop}
    (inside : within number) :
    (Move.go (.numeral number.slot d) (frame :: stack)).CutShort within := by
  cases kept : number.slot.kept with
  | true => exact .missing ⟨_, _, .value, rfl, by simp [stop, lacking, kept]⟩
  | false =>
      refine .shown inside (.unfinished kept ?_) (by simp [stop, lacking, kept])
      intro g isNumber
      have taken := onto_figures number.slot (frame :: stack) g []
      rw [List.append_nil, isNumber, goes, kept, Bool.false_and, if_neg Bool.false_ne_true]
        at taken
      cases taken
      rw [g.draft_mayEnd] at lacking
      cases lacking

/-- A number within a container. -/
theorem along_figures {slot : Slot} {f : Figures} {value : Json}
    (read : Document.readNumber slot f = .ok value) (frame : Frame) (stack : List Frame) :
    (Move.go (.value slot) (frame :: stack)).Along
      (fun front number => number.Within slot (.number f) front) f.bytes := by
  intro front back shape cut
  cases front with
  | nil => exact .missing (missing_value slot)
  | cons b more =>
      obtain ⟨c, rest, shape', first⟩ := f.bytes_first
      obtain ⟨c', rest', shape'', taken⟩ := f.takes_bytes slot.kept
      obtain ⟨rfl, rfl⟩ := List.cons.inj (shape'.symm.trans shape)
      obtain ⟨rfl, rfl⟩ := List.cons.inj (shape''.symm.trans shape)
      rw [overflows_of_read read, if_neg Bool.false_ne_true] at taken
      obtain ⟨d, taken⟩ := Draft.takes_front taken
      let number : CutNumber := ⟨slot, f, _ :: more, back, shape, by simp, cut⟩
      have goes : (Move.go (.value slot) (frame :: stack)).onto number.front =
          .go (.numeral slot d) (frame :: stack) := by
        have whole := @onto_numeral slot (frame :: stack) _ _ more taken []
        rw [List.append_nil] at whole
        rw [Move.onto_go, step_number slot _ first, whole]
        rfl
      rw [show (Move.go (.value slot) (frame :: stack)).onto _ = _ from goes]
      cases ends : d.mayEnd with
      | true =>
          obtain ⟨g, isNumber, rfl⟩ := Draft.exists_figures first taken ends
          exact @cutShort_of_figures number g isNumber _ _ goes _ .number
      | false => exact @cutShort_of_lacking number d ends _ _ goes _ .number

/-! ## Containers -/

theorem slot_under {slot : Slot} {members : List (String × Json)} {glyphs : List Glyph}
    {key : String} (read : Document.readKey slot members glyphs = .ok key) :
    slot.under glyphs = slot.member key := by
  cases kept : slot.kept with
  | true => rw [Slot.under, Document.readKey_kept kept read, Option.elim_some]
  | false =>
      obtain rfl : slot = .skipped := by cases slot <;> first | rfl | cases kept
      cases spelt : keyText? glyphs <;> simp [Slot.under, spelt, Slot.member]

section Containers

variable {within : Bytes → CutNumber → Prop} {stack : List Frame}

theorem missing_array (slot : Slot) (items : List Json) (place : Place) :
    (Move.go (.array slot items place) stack).Missing :=
  ⟨_, _, _, rfl, rfl⟩

theorem missing_object (slot : Slot) (members : List (String × Json)) (place : Place) :
    (Move.go (.object slot members place) stack).Missing :=
  ⟨_, _, _, rfl, rfl⟩

theorem along_lead_elements (slot : Slot) (items : List Json) {place : Place} {lead : Bytes}
    (led : Lead place lead) : (Move.go (.array slot items place) stack).Along within lead := by
  cases led with
  | first => exact Move.along_nil
  | comma isBlank =>
      exact along_past_blank (Phase.idle_array slot items .next) isBlank (missing_array ..)
        (Move.along_cons (missing_array ..) Move.along_nil)

theorem along_lead_members (slot : Slot) (members : List (String × Json)) {place : Place}
    {lead : Bytes} (led : Lead place lead) :
    (Move.go (.object slot members place) stack).Along within lead := by
  cases led with
  | first => exact Move.along_nil
  | comma isBlank =>
      exact along_past_blank (Phase.idle_object slot members .next) isBlank (missing_object ..)
        (Move.along_cons (missing_object ..) Move.along_nil)

/-- After a value the container around it goes on. -/
theorem along_after {doc : Document} {body : Bytes} (written : Written doc body) {slot : Slot}
    {frame : Frame} {value : Json} (read : doc.read slot (stack.length + 1) = .ok value)
    {b : UInt8} {more : Bytes} (stopper : Stopper b)
    (along : (deliver value (frame :: stack)).Along within (b :: more)) :
    ((Move.go (.value slot) (frame :: stack)).onto body).Along within (b :: more) := by
  apply along.transfer
  · have leads := onto_written written slot (frame :: stack)
      (Document.ends_of_stopper doc stopper [])
    rw [List.length_cons, read, Move.onto_append] at leads
    exact leads
  · exact missing_after written read

/-- A container is entered unless it stands too deep. -/
theorem along_open {slot : Slot} {phase : Phase} {b : UInt8} {bytes : Bytes}
    (opens : step (.value slot) stack b =
      if tooDeep slot stack then failAt .tooDeep else .go phase stack)
    (shallow : tooDeep slot stack = false)
    (inside : (Move.go phase stack).Along (fun front => within (b :: front)) bytes) :
    (Move.go (.value slot) stack).Along within (b :: bytes) := by
  apply Move.along_cons (missing_value slot)
  rwa [Move.next, opens, shallow]

/-- A key, where an object may hold one. -/
theorem along_key {slot : Slot} {members : List (String × Json)} {place : Place}
    (room : place ≠ .next) {glyphs : List Glyph} {key : String}
    (read : Document.readKey slot members glyphs = .ok key) :
    (Move.go (.object slot members place) stack).Along within (inQuoteBytes glyphs) := by
  apply Move.along_cons (missing_object ..)
  rw [Move.next, step_key room]
  obtain ⟨written, closes⟩ := @Spelling.closes slot.kept glyphs fun kept =>
    ⟨key, Document.readKey_kept kept read⟩
  exact along_spelling (.key slot members) slot.kept (closeKey slot members stack)
    (fun _ _ => rfl) (fun s => ⟨_, _, _, rfl, rfl⟩) closes

end Containers

/-! ## Documents -/

/-- A document that shows its own end: any but a number. -/
def Document.Closed (doc : Document) : Prop :=
  ∀ f, doc ≠ .number f

theorem Document.Closed.ends_nil {doc : Document} (closed : doc.Closed) : doc.Ends [] := by
  cases doc with
  | number f => exact absurd rfl (closed f)
  | _ => trivial

mutual

/-- **A document that can be read is missing something wherever it is cut**, or the
cut shows something of a number. -/
theorem along_written {doc : Document} {body : Bytes} (written : Written doc body) {slot : Slot}
    {stack : List Frame} {value : Json} (read : doc.read slot stack.length = .ok value)
    (around : doc.Closed ∨ stack ≠ []) :
    (Move.go (.value slot) stack).Along (fun front number => number.Within slot doc front)
      body := by
  match written with
  | .null => exact Move.along_cons (missing_value slot) (along_word _ _ _)
  | .yes => exact Move.along_cons (missing_value slot) (along_word _ _ _)
  | .no => exact Move.along_cons (missing_value slot) (along_word _ _ _)
  | .number f =>
      cases stack with
      | nil =>
          rcases around with closed | inside
          · exact absurd rfl (closed f)
          · exact absurd rfl inside
      | cons frame stack =>
          rw [Document.read] at read
          exact along_figures read frame stack
  | .string glyphs =>
      rw [Document.read] at read
      obtain ⟨written, closes⟩ := Spelling.closes (text_of_readString read)
      exact Move.along_cons (missing_value slot) (along_spelling (.quote slot) slot.kept
        (closeText slot stack) (fun _ _ => rfl) (fun s => ⟨_, _, _, rfl, rfl⟩) closes)
  | .array inside =>
      rw [Document.read] at read
      split at read
      · cases read
      · rename_i shallow
        exact along_open rfl (by simpa [tooDeep] using shallow)
          ((along_elements inside read).imp fun _ _ => .array)
  | .object inside =>
      rw [Document.read] at read
      split at read
      · cases read
      · rename_i shallow
        exact along_open rfl (by simpa [tooDeep] using shallow)
          ((along_members inside read).imp fun _ _ => .object)

theorem along_elements {place : Place} {elements : List Document} {bytes : Bytes}
    (written : WrittenElements place elements bytes) {slot : Slot} {stack : List Frame}
    {items : List Json} {value : Json}
    (read : Document.readElements slot (stack.length + 1) items elements = .ok value) :
    (Move.go (.array slot items place) stack).Along
      (fun front number => number.WithinElements slot place elements front) bytes := by
  match written with
  | .none _ isBlank =>
      exact along_past_blank (Phase.idle_array _ _ _) isBlank (missing_array ..)
        (Move.along_cons (missing_array ..) Move.along_nil)
  | @WrittenElements.more _ lead blank body _ _ _ led isBlank first others =>
      rw [Document.readElements] at read
      obtain ⟨v, readFirst, readOthers⟩ := Document.bind_eq_ok read
      obtain ⟨after, room, past⟩ := @onto_lead_elements slot items place stack lead led []
      rw [List.append_nil, Move.onto_nil] at past
      apply Move.along_append (along_lead_elements slot items led)
      rw [past]
      apply along_past_blank (Phase.idle_array _ _ _) isBlank (missing_array ..)
      apply Move.along_append
      · obtain ⟨b, more, rfl, opener⟩ := first.opener
        have inside := @along_written _ _ first _ (.item slot items :: stack) v readFirst
          (.inr (by simp))
        have begun : (Move.go (.array slot items after) stack).Along _ _ :=
          inside.transfer (step_element room opener) (missing_array ..)
        exact begun.imp fun _ _ => .here led isBlank
      · have entered := @onto_element slot items after stack body _ first room []
        rw [List.append_nil] at entered
        rw [entered]
        obtain ⟨b, more, rfl, stopper⟩ := others.stopper
        exact along_after first readFirst stopper
          ((along_elements others readOthers).imp fun _ _ => .later led isBlank first)

theorem along_members {place : Place} {list : List (List Glyph × Document)} {bytes : Bytes}
    (written : WrittenMembers place list bytes) {slot : Slot} {stack : List Frame}
    {members : List (String × Json)} {value : Json}
    (read : Document.readMembers slot (stack.length + 1) members list = .ok value) :
    (Move.go (.object slot members place) stack).Along
      (fun front number => number.WithinMembers slot place list front) bytes := by
  match written with
  | .none _ isBlank =>
      exact along_past_blank (Phase.idle_object _ _ _) isBlank (missing_object ..)
        (Move.along_cons (missing_object ..) Move.along_nil)
  | @WrittenMembers.more _ lead before between ahead body _ glyphs _ _ led blankBefore
      blankBetween blankAfter first others =>
      rw [Document.readMembers] at read
      obtain ⟨key, named, read⟩ := Document.bind_eq_ok read
      obtain ⟨v, readFirst, readOthers⟩ := Document.bind_eq_ok read
      obtain ⟨after, room, past⟩ := @onto_lead_members slot members place stack lead led []
      rw [List.append_nil, Move.onto_nil] at past
      apply Move.along_append (along_lead_members slot members led)
      rw [past]
      apply along_past_blank (Phase.idle_object _ _ _) blankBefore (missing_object ..)
      apply Move.along_append (along_key room named)
      have taken := @onto_member slot members after stack room glyphs []
      rw [List.append_nil, named] at taken
      rw [taken]
      apply along_past_blank (Phase.idle_colon _ _ _) blankBetween ⟨_, _, _, rfl, rfl⟩
      apply Move.along_cons ⟨_, _, _, rfl, rfl⟩
      apply along_past_blank (Phase.idle_value (slot.member key)) blankAfter (missing_value _)
      apply Move.along_append
      · rw [← slot_under named] at readFirst ⊢
        have inside := @along_written _ _ first _ (.member slot members key :: stack) v readFirst
          (.inr (by simp))
        exact inside.imp fun _ _ => .here led blankBefore blankBetween blankAfter
      · obtain ⟨b, more, rfl, stopper⟩ := others.stopper
        exact along_after first readFirst stopper ((along_members others readOthers).imp
          fun _ _ => .later led blankBefore blankBetween blankAfter first)

end

end NodeSettings
