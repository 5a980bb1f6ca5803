/-
# NodeSettings.Proofs.Written.Recognition -- every text that is read is written

`reading text` is what taking all of a text comes to, without the places of
faults.  If the text starts with a document, that is what the document is read as
(`reading_of_begins`); and if it succeeds, the text does start with one
(`begins_of_reading`).  So what a text is read as and the grammar of documents
say the same.

For the second direction a run that succeeds is followed to where a value has
ended, and what was taken is a written document; the length of the text that is
left bounds the recursion.  Taking up the run again after a value is
`Succeeds.resume`, by the first direction.
-/
import NodeSettings.Proofs.Written.Reading

namespace NodeSettings

open Text

set_option autoImplicit false

/-! ## What a text comes to -/

/-- What a move comes to when nothing follows. -/
def Move.close : Move → Except Cause Json
  | .done root => .ok root
  | .fail cause _ => .error cause
  | .go phase stack =>
      match stop phase stack with
      | .done root => .ok root
      | .fail cause => .error cause

def reading (text : Bytes) : Except Cause Json :=
  ((Move.go (.value .root) []).onto text).close

/-- A number that ends with the text. -/
theorem close_figures (f : Figures) :
    ((Move.go (.value .root) []).onto f.bytes).close = Document.readNumber .root f := by
  have taken := onto_figures .root [] f []
  rw [List.append_nil] at taken
  rw [taken]
  cases wide : Slot.root.kept && f.overflows with
  | true =>
      have tooLarge : f.overflows = true := wide
      simp [Document.readNumber, Figures.number?, tooLarge, Slot.kept, Move.close]
  | false =>
      have literal := literal?_draft .root f wide
      simp only [Bool.false_eq_true, if_false, Move.onto_nil, Move.close, stop, f.draft_mayEnd,
        if_true, literal]
      cases read : Document.readNumber .root f with
      | ok value => rfl
      | error cause => rw [readNumber_error read]; rfl

/-- **A text that starts with a document is read as that document.** -/
theorem reading_of_begins {doc : Document} {text : Bytes} (begins : doc.Begins text) :
    reading text = doc.read .root 0 := by
  obtain ⟨blank, body, rest, rfl, isBlank, written, apart⟩ := begins
  rw [reading, (Phase.idle_value .root).onto_blank [] isBlank]
  have closed (ends : doc.Ends rest) :
      ((Move.go (.value .root) []).onto (body ++ rest)).close = doc.read .root 0 := by
    have leads := onto_written written .root [] ends
    rw [List.length_nil] at leads
    cases read : doc.read .root 0 with
    | ok value =>
        rw [read] at leads
        have arrived : _ = (deliver value []).onto rest := leads
        rw [arrived, deliver, Move.onto_done]
        rfl
    | error cause =>
        rw [read] at leads
        obtain ⟨left, failed⟩ := leads
        rw [failed]
        rfl
  cases rest with
  | cons b more =>
      refine closed ?_
      cases doc <;> exact apart
  | nil =>
      cases written with
      | number f =>
          rw [List.append_nil, Document.read]
          exact close_figures f
      | _ => exact closed trivial

/-! ## Runs that succeed -/

def Succeeds (move : Move) (bytes : Bytes) : Prop :=
  ∃ root, (move.onto bytes).close = .ok root

namespace Succeeds

variable {phase : Phase} {stack : List Frame}

theorem not_fail {cause : Cause} {left : Bool} {bytes : Bytes} :
    ¬ Succeeds (.fail cause left) bytes := by
  rintro ⟨root, closed⟩
  rw [Move.onto_fail] at closed
  cases closed

theorem not_stop {cause : Cause} (stopped : stop phase stack = .fail cause) :
    ¬ Succeeds (.go phase stack) [] := by
  rintro ⟨root, closed⟩
  simp [Move.close, stopped] at closed

theorem step {b : UInt8} {rest : Bytes} (succeeds : Succeeds (.go phase stack) (b :: rest)) :
    Succeeds (NodeSettings.step phase stack b) rest :=
  succeeds

/-- White space may be left out where nothing is made of it. -/
theorem past_blank (idle : phase.Idle) {bytes : Bytes}
    (succeeds : Succeeds (.go phase stack) bytes) :
    ∃ blank rest, bytes = blank ++ rest ∧ Blank blank ∧ Succeeds (.go phase stack) rest ∧
      ∀ b more, rest = b :: more → isBlank b = false := by
  induction bytes with
  | nil => exact ⟨[], [], rfl, by simp [Blank], succeeds, by simp⟩
  | cons b rest ih =>
      cases blank : isBlank b with
      | false =>
          refine ⟨[], b :: rest, rfl, by simp [Blank], succeeds, ?_⟩
          rintro _ _ ⟨rfl, rfl⟩
          exact blank
      | true =>
          have further : Succeeds (NodeSettings.step phase stack b) rest := succeeds
          rw [idle stack b blank] at further
          obtain ⟨more, left, rfl, isBlank, goes, solid⟩ := ih further
          refine ⟨b :: more, left, rfl, ?_, goes, solid⟩
          simp only [Blank, List.mem_cons, forall_eq_or_imp]
          exact ⟨blank, isBlank⟩

/-- After a document a run goes on with what the document is read as. -/
theorem resume {doc : Document} {body : Bytes} (written : Written doc body) {slot : Slot}
    {frame : Frame} {rest : Bytes} (apart : doc.Apart rest)
    (succeeds : Succeeds (.go (.value slot) (frame :: stack)) (body ++ rest)) :
    ∃ value, Succeeds (deliver value (frame :: stack)) rest := by
  have goes (ends : doc.Ends rest) : ∃ value, Succeeds (deliver value (frame :: stack)) rest := by
    have leads := onto_written written slot (frame :: stack) ends
    cases read : doc.read slot (frame :: stack).length with
    | ok value =>
        rw [read] at leads
        obtain ⟨root, closed⟩ := succeeds
        exact ⟨value, root, by rw [← closed, show _ = _ from leads]⟩
    | error cause =>
        rw [read] at leads
        obtain ⟨left, failed⟩ := leads
        obtain ⟨root, closed⟩ := succeeds
        rw [failed] at closed
        cases closed
  cases rest with
  | cons b more =>
      refine goes ?_
      cases doc <;> exact apart
  | nil =>
      cases written with
      | number f =>
          obtain ⟨root, closed⟩ := succeeds
          rw [onto_figures] at closed
          split at closed
          · cases closed
          · simp only [Move.onto_nil, Move.close, stop, f.draft_mayEnd, if_true] at closed
            cases read : literal? slot f.draft <;> simp [read] at closed
      | _ => exact goes trivial

end Succeeds

/-! ## Words and strings -/

theorem word_of_succeeds {next : UInt8} {left : Bytes} {meaning : Json} {stack : List Frame}
    {bytes : Bytes} (succeeds : Succeeds (.go (.word next left meaning) stack) bytes) :
    ∃ rest, bytes = next :: (left ++ rest) := by
  induction left generalizing next bytes with
  | nil =>
      cases bytes with
      | nil => exact (Succeeds.not_stop rfl succeeds).elim
      | cons b rest =>
          by_cases same : b = next
          · exact ⟨rest, by rw [same, List.nil_append]⟩
          · have wrong := succeeds.step
            simp only [step, same, if_false] at wrong
            exact (Succeeds.not_fail wrong).elim
  | cons letter more ih =>
      cases bytes with
      | nil => exact (Succeeds.not_stop rfl succeeds).elim
      | cons b rest =>
          by_cases same : b = next
          · have further := succeeds.step
            simp only [step, same, if_true] at further
            obtain ⟨left, rfl⟩ := ih further
            exact ⟨left, by rw [same, List.cons_append]⟩
          · have wrong := succeeds.step
            simp only [step, same, if_false] at wrong
            exact (Succeeds.not_fail wrong).elim

/-- A phase in the middle of a string that succeeds takes glyphs and a quote. -/
theorem glyphs_of_succeeds (phase : Spelling → Phase) (strict : Bool) (stack : List Frame)
    (close : Bytes → Move)
    (steps : ∀ s b, step (phase s) stack b =
      match s.take strict b with
      | .more s => .go (phase s) stack
      | .closed written => close written
      | .wrong m => failAfter m)
    (stops : ∀ s, ∃ cause, stop (phase s) stack = .fail cause) {bytes : Bytes}
    (succeeds : Succeeds (.go (phase .start) stack) bytes) :
    ∃ glyphs rest, bytes = glyphBytes glyphs ++ ascii '"' :: rest := by
  obtain ⟨root, closed⟩ := succeeds
  rw [onto_spelling phase strict stack close steps] at closed
  cases taken : Spelling.start.takes strict bytes with
  | mk ended rest =>
      rw [taken] at closed
      cases ended with
      | more s =>
          obtain ⟨cause, stopped⟩ := stops s
          simp [Move.close, stopped] at closed
      | wrong m => cases closed
      | closed written =>
          obtain ⟨glyphs, shape⟩ := Spelling.glyphs_of_closed (Spelling.atRest_plain []) taken
          exact ⟨glyphs, rest, shape⟩

/-! ## Numbers -/

/-- Bytes begin with a run of digits, which may be empty. -/
theorem exists_digits (bytes : Bytes) :
    ∃ (digits : List Digit) (rest : Bytes), bytes = digits.map Digit.byte ++ rest ∧
      ∀ b more, rest = b :: more → digit? b = none := by
  induction bytes with
  | nil => exact ⟨[], [], rfl, by simp⟩
  | cons b rest ih =>
      cases digit : digit? b with
      | none =>
          refine ⟨[], b :: rest, rfl, ?_⟩
          rintro _ _ ⟨rfl, rfl⟩
          exact digit
      | some n =>
          obtain ⟨d, rfl, -⟩ := byte_of_digit? digit
          obtain ⟨digits, left, rfl, solid⟩ := ih
          exact ⟨d :: digits, left, rfl, solid⟩

theorem Figures.overflows_of_plain {f : Figures} (plain : f.power = none) :
    f.overflows = false := by
  simp [overflows, plain]

/-- Figures without exponent part have been taken, and may go on. -/
theorem Succeeds.plain_figures {slot : Slot} {stack : List Frame} {f : Figures} {rest : Bytes}
    (plain : f.power = none) (succeeds : Succeeds (.go (.value slot) stack) (f.bytes ++ rest)) :
    Succeeds (.go (.numeral slot f.fractionDraft) stack) rest := by
  obtain ⟨root, closed⟩ := succeeds
  rw [onto_figures, f.overflows_of_plain plain, Bool.and_false, if_neg Bool.false_ne_true]
    at closed
  have same : f.draft = f.fractionDraft := by simp [Figures.draft, plain]
  exact ⟨root, same ▸ closed⟩

/-- A literal that must not end yet goes on. -/
theorem Succeeds.lacking {slot : Slot} {stack : List Frame} {d : Draft} {bytes : Bytes}
    (lacking : d.mayEnd = false) (succeeds : Succeeds (.go (.numeral slot d) stack) bytes) :
    ∃ b rest, bytes = b :: rest ∧ Succeeds (NodeSettings.step (.numeral slot d) stack b) rest := by
  cases bytes with
  | nil =>
      obtain ⟨cause, stopped⟩ : ∃ cause, stop (.numeral slot d) stack = .fail cause := by
        cases kept : slot.kept <;> simp [stop, lacking, kept]
      exact (not_stop stopped succeeds).elim
  | cons b rest => exact ⟨b, rest, rfl, succeeds⟩

/-- After a minus, a point or the sign of an exponent comes a digit. -/
theorem Succeeds.digit {slot : Slot} {stack : List Frame} {d : Draft} {bytes : Bytes}
    (part : d.part = .minus ∨ d.part = .point ∨ d.part = .markSign)
    (succeeds : Succeeds (.go (.numeral slot d) stack) bytes) :
    ∃ (n : Digit) (rest : Bytes), bytes = n.byte :: rest := by
  have lacking : d.mayEnd = false := by
    rcases part with h | h | h <;> simp [Draft.mayEnd, h]
  obtain ⟨b, rest, rfl, further⟩ := succeeds.lacking lacking
  cases digit : digit? b with
  | some n =>
      obtain ⟨d, rfl, -⟩ := byte_of_digit? digit
      exact ⟨d, rest, rfl⟩
  | none =>
      obtain ⟨m, left, wrong⟩ : ∃ m left, d.take slot.kept b = .wrong m left := by
        rcases part with h | h | h <;> simp [Draft.take, h, digit]
      simp only [NodeSettings.step, wrong, stepNumeral] at further
      exact (not_fail further).elim

/-- After the mark of an exponent comes a digit, perhaps after a sign. -/
theorem Succeeds.mark {slot : Slot} {stack : List Frame} {d : Draft} {bytes : Bytes}
    (part : d.part = .mark) (succeeds : Succeeds (.go (.numeral slot d) stack) bytes) :
    ∃ (sign : Option Sign) (n : Digit) (rest : Bytes),
      bytes = sign.toList.map Sign.byte ++ n.byte :: rest := by
  obtain ⟨b, rest, rfl, further⟩ := succeeds.lacking (by simp [Draft.mayEnd, part])
  cases digit : digit? b with
  | some n =>
      obtain ⟨d, rfl, -⟩ := byte_of_digit? digit
      exact ⟨none, d, rest, rfl⟩
  | none =>
      simp only [NodeSettings.step, Draft.take, part, digit] at further
      by_cases plus : b = ascii '+'
      · simp only [plus, if_true] at further
        obtain ⟨n, more, rfl⟩ := further.digit (.inr (.inr rfl))
        exact ⟨some .plus, n, more, by rw [plus]; rfl⟩
      · by_cases minus : b = ascii '-'
        · simp only [minus, if_true] at further
          obtain ⟨n, more, rfl⟩ := Succeeds.digit (.inr (.inr rfl)) further
          exact ⟨some .minus, n, more, by rw [minus]; rfl⟩
        · simp only [plus, minus, if_false] at further
          exact (not_fail further).elim

/-- No digit follows a leading zero. -/
theorem Succeeds.zero {slot : Slot} {stack : List Frame} {d : Draft} {b : UInt8} {rest : Bytes}
    (zero : d.part = .zero) (succeeds : Succeeds (.go (.numeral slot d) stack) (b :: rest)) :
    digit? b = none := by
  cases digit : digit? b with
  | none => rfl
  | some n =>
      have further := succeeds.step
      simp only [NodeSettings.step, Draft.take, zero, digit, stepNumeral] at further
      exact (not_fail further).elim

/-- The whole part of a number, up to a byte that is no digit. -/
theorem Succeeds.whole_figures {slot : Slot} {stack : List Frame} {b : UInt8} {more : Bytes}
    (first : b = ascii '-' ∨ (digit? b).isSome = true)
    (succeeds : Succeeds (.go (.value slot) stack) (b :: more)) :
    ∃ (f : Figures) (rest : Bytes), f.power = none ∧ f.fraction = [] ∧
      b :: more = f.bytes ++ rest ∧ ∀ c tail, rest = c :: tail → digit? c = none := by
  obtain ⟨negative, d, tail, shape⟩ : ∃ (negative : Bool) (d : Digit) (tail : Bytes),
      b :: more = (if negative then [ascii '-'] else []) ++ d.byte :: tail := by
    rcases first with rfl | digit
    · have begun : Succeeds (.go (.numeral slot (Draft.start (ascii '-'))) stack) more := succeeds
      obtain ⟨d, tail, rfl⟩ := begun.digit (.inl rfl)
      exact ⟨true, d, tail, rfl⟩
    · obtain ⟨n, known⟩ := Option.isSome_iff_exists.mp digit
      obtain ⟨d, rfl, -⟩ := byte_of_digit? known
      exact ⟨false, d, more, rfl⟩
  rw [shape] at succeeds ⊢
  by_cases zero : d = 0
  · let f : Figures := ⟨negative, [d], [], none, .inl (by rw [zero])⟩
    have bytes : (if negative then [ascii '-'] else []) ++ d.byte :: tail = f.bytes ++ tail := by
      simp [f, Figures.bytes, Figures.wholeBytes, Figures.fractionBytes]
    rw [bytes] at succeeds ⊢
    refine ⟨f, tail, rfl, rfl, rfl, ?_⟩
    rintro c rest rfl
    have part : f.fractionDraft.part = .zero := by
      simp [f, Figures.fractionDraft, Figures.wholeDraft, zero]
    exact (succeeds.plain_figures rfl).zero part
  · obtain ⟨digits, rest, rfl, solid⟩ := exists_digits tail
    let f : Figures := ⟨negative, d :: digits, [], none, .inr ⟨d, digits, rfl, zero⟩⟩
    refine ⟨f, rest, rfl, rfl, ?_, solid⟩
    simp [f, Figures.bytes, Figures.wholeBytes, Figures.fractionBytes]

theorem Figures.take_point (strict : Bool) {f : Figures} (whole : f.fraction = []) :
    f.fractionDraft.take strict (ascii '.') = .more { f.fractionDraft with part := .point } := by
  have noDigit : digit? (ascii '.') = none := by decide
  rw [fractionDraft, if_pos whole]
  rcases f.wholeDraft_part with h | h <;> simp [Draft.take, h, noDigit, Draft.follow]

/-- After the point of a number comes its fraction. -/
theorem Succeeds.fraction_figures {slot : Slot} {stack : List Frame} {f : Figures} {rest : Bytes}
    (plain : f.power = none) (whole : f.fraction = [])
    (solid : ∀ c tail, rest = c :: tail → digit? c = none)
    (succeeds : Succeeds (.go (.value slot) stack) (f.bytes ++ rest)) :
    ∃ (g : Figures) (left : Bytes), g.power = none ∧ f.bytes ++ rest = g.bytes ++ left ∧
      ∀ c tail, left = c :: tail → digit? c = none ∧ (g.fraction = [] → c ≠ ascii '.') := by
  by_cases point : ∃ tail, rest = ascii '.' :: tail
  · obtain ⟨tail, rfl⟩ := point
    have further := (succeeds.plain_figures plain).step
    simp only [NodeSettings.step, Figures.take_point slot.kept whole] at further
    obtain ⟨d, more, rfl⟩ := further.digit (.inr (.inl rfl))
    obtain ⟨digits, left, rfl, solid'⟩ := exists_digits more
    let g : Figures := { f with fraction := d :: digits }
    refine ⟨g, left, plain, ?_, fun c tail shape => ⟨solid' c tail shape, fun h => (nomatch h)⟩⟩
    simp [g, Figures.bytes, Figures.fractionBytes, Figures.wholeBytes, whole, plain]
  · refine ⟨f, rest, plain, rfl, fun c tail shape => ⟨solid c tail shape, ?_⟩⟩
    rintro - rfl
    exact point ⟨tail, shape⟩

/-- **A number that is taken is written in figures**, and what follows does not go
on with it. -/
theorem Succeeds.figures {slot : Slot} {stack : List Frame} {b : UInt8} {more : Bytes}
    (first : b = ascii '-' ∨ (digit? b).isSome = true)
    (succeeds : Succeeds (.go (.value slot) stack) (b :: more)) :
    ∃ (f : Figures) (rest : Bytes), b :: more = f.bytes ++ rest ∧
      Document.Apart (.number f) rest := by
  obtain ⟨f, rest, plain, whole, shape, solid⟩ := succeeds.whole_figures first
  rw [shape] at succeeds ⊢
  obtain ⟨g, left, plain, shape, solid⟩ := succeeds.fraction_figures plain whole solid
  rw [shape] at succeeds ⊢
  by_cases power : ∃ (capital : Bool) (tail : Bytes),
      left = (if capital then ascii 'E' else ascii 'e') :: tail
  · obtain ⟨capital, tail, rfl⟩ := power
    have marked := g.take_mark slot.kept ⟨capital, none, [0], by simp⟩
    have further := (succeeds.plain_figures plain).step
    simp only [NodeSettings.step, Power.mark] at marked further
    rw [marked] at further
    obtain ⟨sign, d, more, rfl⟩ := Succeeds.mark rfl further
    obtain ⟨digits, end', rfl, solid'⟩ := exists_digits more
    let p : Power := ⟨capital, sign, d :: digits, by simp⟩
    let h : Figures := { g with power := some p }
    refine ⟨h, end', ?_, ?_⟩
    · simp [h, p, Figures.bytes, Figures.fractionBytes, Figures.wholeBytes, plain, Power.bytes,
        Power.mark]
    · cases end' with
      | nil => trivial
      | cons c tail => simp [Document.Apart, Figures.goesOn, h, solid' c tail rfl]
  · refine ⟨g, left, rfl, ?_⟩
    cases left with
    | nil => trivial
    | cons c tail =>
        obtain ⟨noDigit, noPoint⟩ := solid c tail rfl
        have noMark : c ≠ ascii 'e' ∧ c ≠ ascii 'E' := by
          constructor
          · intro same
            exact power ⟨false, tail, by rw [same]; rfl⟩
          · intro same
            exact power ⟨true, tail, by rw [same]; rfl⟩
        by_cases none : g.fraction = []
        · simp [Document.Apart, Figures.goesOn, noDigit, noMark, noPoint none]
        · simp [Document.Apart, Figures.goesOn, noDigit, noMark, none]

/-! ## Values and containers -/

theorem Succeeds.after_blank {phase : Phase} {stack : List Frame} (idle : phase.Idle)
    {blank rest : Bytes} (isBlank : Blank blank)
    (succeeds : Succeeds (.go phase stack) (blank ++ rest)) :
    Succeeds (.go phase stack) rest := by
  obtain ⟨root, closed⟩ := succeeds
  rw [idle.onto_blank stack isBlank] at closed
  exact ⟨root, closed⟩

theorem Succeeds.before_blank {phase : Phase} {stack : List Frame} (idle : phase.Idle)
    {blank rest : Bytes} (isBlank : Blank blank) (succeeds : Succeeds (.go phase stack) rest) :
    Succeeds (.go phase stack) (blank ++ rest) := by
  obtain ⟨root, closed⟩ := succeeds
  rw [← idle.onto_blank stack isBlank] at closed
  exact ⟨root, closed⟩

/-- Texts up to a length: where a run takes a value and succeeds, the value is a
written document. -/
def ValueSound (n : Nat) : Prop :=
  ∀ (slot : Slot) (stack : List Frame) (text : Bytes), text.length ≤ n →
    Succeeds (.go (.value slot) stack) text →
      ∃ (doc : Document) (blank body rest : Bytes), text = blank ++ (body ++ rest) ∧
        Blank blank ∧ Written doc body ∧ doc.Apart rest

def ElementsSound (n : Nat) : Prop :=
  ∀ (slot : Slot) (items : List Json) (place : Place) (stack : List Frame) (text : Bytes),
    text.length ≤ n → place ≠ .comma → Succeeds (.go (.array slot items place) stack) text →
      ∃ (elements : List Document) (bytes rest : Bytes), text = bytes ++ rest ∧
        WrittenElements place elements bytes

def MembersSound (n : Nat) : Prop :=
  ∀ (slot : Slot) (members : List (String × Json)) (place : Place) (stack : List Frame)
    (text : Bytes), text.length ≤ n → place ≠ .comma →
      Succeeds (.go (.object slot members place) stack) text →
        ∃ (list : List (List Glyph × Document)) (bytes rest : Bytes), text = bytes ++ rest ∧
          WrittenMembers place list bytes

/-- A container that is entered stands nowhere too deep. -/
theorem Succeeds.opened {slot : Slot} {phase : Phase} {stack : List Frame} {text : Bytes}
    (succeeds : Succeeds (if tooDeep slot stack then failAt .tooDeep else .go phase stack) text) :
    Succeeds (.go phase stack) text := by
  cases deep : tooDeep slot stack with
  | false => simpa [deep] using succeeds
  | true =>
      rw [deep, if_pos rfl] at succeeds
      exact (not_fail succeeds).elim

theorem value_sound (n : Nat) (inner : ∀ m < n, ElementsSound m ∧ MembersSound m) :
    ValueSound n := by
  intro slot stack text short succeeds
  obtain ⟨blank, rest, rfl, isBlank, goes, solid⟩ := succeeds.past_blank (Phase.idle_value slot)
  suffices here : ∃ (doc : Document) (body left : Bytes), rest = body ++ left ∧
      Written doc body ∧ doc.Apart left by
    obtain ⟨doc, body, left, rfl, written, apart⟩ := here
    exact ⟨doc, blank, body, left, rfl, isBlank, written, apart⟩
  cases rest with
  | nil => exact (Succeeds.not_stop rfl goes).elim
  | cons b more =>
      have shorter : more.length < n := by
        rw [List.length_append, List.length_cons] at short
        omega
      have begun := goes.step
      simp only [step, solid b more rfl, Bool.false_eq_true, if_false] at begun
      by_cases isNull : b = ascii 'n'
      · subst isNull
        obtain ⟨left, rfl⟩ := word_of_succeeds begun
        exact ⟨.null, _, left, rfl, .null, trivial⟩
      by_cases isTrue : b = ascii 't'
      · subst isTrue
        obtain ⟨left, rfl⟩ := word_of_succeeds begun
        exact ⟨.bool true, _, left, rfl, .yes, trivial⟩
      by_cases isFalse : b = ascii 'f'
      · subst isFalse
        obtain ⟨left, rfl⟩ := word_of_succeeds begun
        exact ⟨.bool false, _, left, rfl, .no, trivial⟩
      by_cases isNumber : b = ascii '-' ∨ (digit? b).isSome = true
      · obtain ⟨f, left, shape, apart⟩ := goes.figures isNumber
        exact ⟨.number f, f.bytes, left, shape, .number f, apart⟩
      simp only [begin, isNull, isTrue, isFalse, isNumber, if_false] at begun
      by_cases isQuote : b = ascii '"'
      · subst isQuote
        obtain ⟨glyphs, left, rfl⟩ := glyphs_of_succeeds (.quote slot) slot.kept stack
          (closeText slot stack) (fun _ _ => rfl) (fun _ => ⟨_, rfl⟩) begun
        exact ⟨.string glyphs, inQuoteBytes glyphs, left, by simp [inQuoteBytes],
          .string glyphs, trivial⟩
      by_cases isSquare : b = ascii '['
      · subst isSquare
        have entered := Succeeds.opened begun
        obtain ⟨elements, bytes, left, rfl, inside⟩ :=
          (inner more.length shorter).1 slot [] .first stack more (Nat.le_refl _) (by decide) entered
        exact ⟨.array elements, ascii '[' :: bytes, left, rfl, .array inside, trivial⟩
      by_cases isCurly : b = ascii '\x7b'
      · subst isCurly
        have entered := Succeeds.opened begun
        obtain ⟨members, bytes, left, rfl, inside⟩ :=
          (inner more.length shorter).2 slot [] .first stack more (Nat.le_refl _) (by decide) entered
        exact ⟨.object members, ascii '\x7b' :: bytes, left, rfl, .object inside, trivial⟩
      · simp only [isQuote, isSquare, isCurly, if_false] at begun
        exact (Succeeds.not_fail begun).elim

/-- At the beginning of an array, or after a comma, an element follows; only at the
beginning the array may end instead. -/
theorem Succeeds.element {slot : Slot} {items : List Json} {place : Place} {stack : List Frame}
    {text : Bytes} (room : place ≠ .next)
    (succeeds : Succeeds (.go (.array slot items place) stack) text) :
    (place ≠ .comma ∧ ∃ blank rest, text = blank ++ ascii ']' :: rest ∧ Blank blank) ∨
      Succeeds (.go (.value slot.item) (.item slot items :: stack)) text := by
  obtain ⟨blank, rest, rfl, isBlank, goes, solid⟩ :=
    succeeds.past_blank (Phase.idle_array slot items place)
  cases rest with
  | nil => exact (not_stop rfl goes).elim
  | cons b more =>
      have further := goes.step
      simp only [NodeSettings.step, stepArray, solid b more rfl, room, Bool.false_eq_true,
        if_false] at further
      by_cases closes : b = ascii ']' ∧ place ≠ .comma
      · exact .inl ⟨closes.2, blank, more, by rw [closes.1], isBlank⟩
      · rw [if_neg closes] at further
        have begun : Succeeds (begin slot.item (.item slot items :: stack) b) more := by
          split at further
          · exact (not_fail further).elim
          · exact further
        have goes' : Succeeds (.go (.value slot.item) (.item slot items :: stack)) (b :: more) := by
          obtain ⟨root, closed⟩ := begun
          exact ⟨root, by simpa [NodeSettings.step, solid b more rfl] using closed⟩
        exact .inr (goes'.before_blank (Phase.idle_value _) isBlank)

/-- An element is taken, and the rest of the array after it. -/
theorem elements_from {n : Nat} (values : ValueSound n) (inner : ∀ m < n, ElementsSound m)
    {slot : Slot} {items : List Json} {stack : List Frame} {place : Place} {lead text : Bytes}
    (led : Lead place lead) (short : text.length ≤ n)
    (succeeds : Succeeds (.go (.value slot.item) (.item slot items :: stack)) text) :
    ∃ (elements : List Document) (bytes rest : Bytes), lead ++ text = bytes ++ rest ∧
      WrittenElements place elements bytes := by
  obtain ⟨element, blank, body, rest, rfl, isBlank, written, apart⟩ :=
    values slot.item (.item slot items :: stack) text short succeeds
  obtain ⟨value, goes⟩ :=
    (succeeds.after_blank (Phase.idle_value _) isBlank).resume written apart
  have shorter : rest.length < n := by
    obtain ⟨b, more, rfl, -⟩ := written.opener
    simp only [List.length_append, List.length_cons] at short
    omega
  obtain ⟨elements, tail, left, rfl, others⟩ :=
    inner rest.length shorter slot (addItem slot items value) .next stack rest (Nat.le_refl _)
      (by decide) goes
  exact ⟨element :: elements, lead ++ (blank ++ (body ++ tail)), left, by simp,
    .more led isBlank written others⟩

theorem elements_sound (n : Nat) (values : ValueSound n) (inner : ∀ m < n, ElementsSound m) :
    ElementsSound n := by
  intro slot items place stack text short complete succeeds
  match place with
  | .first =>
      rcases succeeds.element (by decide) with ⟨-, blank, rest, rfl, isBlank⟩ | begun
      · exact ⟨[], blank ++ [ascii ']'], rest, by simp, .none complete isBlank⟩
      · exact elements_from values inner .first short begun
  | .next =>
      obtain ⟨blank, rest, rfl, isBlank, goes, solid⟩ :=
        succeeds.past_blank (Phase.idle_array slot items .next)
      cases rest with
      | nil => exact (Succeeds.not_stop rfl goes).elim
      | cons b more =>
          have further := goes.step
          simp only [step, stepArray, solid b more rfl, Bool.false_eq_true, if_false] at further
          by_cases isEnd : b = ascii ']'
          · subst isEnd
            exact ⟨[], blank ++ [ascii ']'], more, by simp, .none complete isBlank⟩
          by_cases comma : b = ascii ','
          · subst comma
            simp only [isEnd, false_and, if_false, if_true] at further
            rcases further.element (by decide) with ⟨same, -⟩ | begun
            · exact absurd rfl same
            · have shorter : more.length ≤ n := by
                rw [List.length_append, List.length_cons] at short
                omega
              have found := elements_from values inner (.comma isBlank) shorter begun
              rwa [List.append_assoc] at found
          · simp only [isEnd, comma, false_and, if_false, if_true] at further
            exact (Succeeds.not_fail further).elim

/-- At the beginning of an object, or after a comma, a key follows; only at the
beginning the object may end instead. -/
theorem Succeeds.key {slot : Slot} {members : List (String × Json)} {place : Place}
    {stack : List Frame} {text : Bytes} (room : place ≠ .next)
    (succeeds : Succeeds (.go (.object slot members place) stack) text) :
    (place ≠ .comma ∧ ∃ blank rest, text = blank ++ ascii '\x7d' :: rest ∧ Blank blank) ∨
      ∃ blank rest, text = blank ++ ascii '"' :: rest ∧ Blank blank ∧
        Succeeds (.go (.key slot members .start) stack) rest := by
  obtain ⟨blank, rest, rfl, isBlank, goes, solid⟩ :=
    succeeds.past_blank (Phase.idle_object slot members place)
  cases rest with
  | nil => exact (not_stop rfl goes).elim
  | cons b more =>
      have further := goes.step
      simp only [NodeSettings.step, stepObject, solid b more rfl, room, Bool.false_eq_true,
        if_false] at further
      by_cases closes : b = ascii '\x7d' ∧ place ≠ .comma
      · exact .inl ⟨closes.2, blank, more, by rw [closes.1], isBlank⟩
      · rw [if_neg closes] at further
        split at further
        · exact (not_fail further).elim
        · by_cases quote : b = ascii '"'
          · rw [if_pos quote] at further
            exact .inr ⟨blank, more, by rw [quote], isBlank, further⟩
          · rw [if_neg quote] at further
            exact (not_fail further).elim

/-- A key is taken, and the colon after it. -/
theorem Succeeds.colon {slot : Slot} {members : List (String × Json)} {stack : List Frame}
    {text : Bytes} (succeeds : Succeeds (.go (.key slot members .start) stack) text) :
    ∃ (glyphs : List Glyph) (key : String) (between rest : Bytes),
      text = glyphBytes glyphs ++ ascii '"' :: (between ++ ascii ':' :: rest) ∧ Blank between ∧
        Succeeds (.go (.value (slot.member key)) (.member slot members key :: stack)) rest := by
  obtain ⟨glyphs, after, rfl⟩ := glyphs_of_succeeds (.key slot members) slot.kept stack
    (closeKey slot members stack) (fun _ _ => rfl) (fun _ => ⟨_, rfl⟩) succeeds
  obtain ⟨root, closed⟩ := succeeds
  rw [onto_key] at closed
  cases read : Document.readKey slot members glyphs with
  | error cause =>
      rw [read] at closed
      cases closed
  | ok key =>
      rw [read] at closed
      have goes : Succeeds (.go (.colon slot members key) stack) after := ⟨root, closed⟩
      obtain ⟨between, rest, rfl, isBlank, goes, solid⟩ :=
        goes.past_blank (Phase.idle_colon slot members key)
      cases rest with
      | nil => exact (not_stop rfl goes).elim
      | cons b more =>
          have further := goes.step
          simp only [NodeSettings.step, solid b more rfl, Bool.false_eq_true, if_false] at further
          by_cases colon : b = ascii ':'
          · rw [if_pos colon] at further
            exact ⟨glyphs, key, between, more, by rw [colon], isBlank, further⟩
          · rw [if_neg colon] at further
            exact (not_fail further).elim

/-- A member is taken, and the rest of the object after it. -/
theorem members_from {n : Nat} (values : ∀ m < n, ValueSound m) (inner : ∀ m < n, MembersSound m)
    {slot : Slot} {members : List (String × Json)} {stack : List Frame} {place : Place}
    {lead blank text : Bytes} (led : Lead place lead) (isBlank : Blank blank)
    (short : text.length < n) (succeeds : Succeeds (.go (.key slot members .start) stack) text) :
    ∃ (list : List (List Glyph × Document)) (bytes rest : Bytes),
      lead ++ (blank ++ ascii '"' :: text) = bytes ++ rest ∧ WrittenMembers place list bytes := by
  obtain ⟨glyphs, key, between, after, rfl, isBetween, goes⟩ := succeeds.colon
  have shorter : after.length < n := by
    simp only [List.length_append, List.length_cons] at short
    omega
  obtain ⟨value, ahead, body, rest, rfl, isAhead, written, apart⟩ :=
    values after.length shorter (slot.member key) (.member slot members key :: stack) after
      (Nat.le_refl _) goes
  obtain ⟨read, goes⟩ := (goes.after_blank (Phase.idle_value _) isAhead).resume written apart
  have shorter' : rest.length < n := by
    simp only [List.length_append] at shorter
    omega
  obtain ⟨list, tail, left, rfl, others⟩ :=
    inner rest.length shorter' slot (addMember slot members key read) .next stack rest
      (Nat.le_refl _) (by decide) goes
  exact ⟨(glyphs, value) :: list, _, left, by simp [inQuoteBytes],
    .more led isBlank isBetween isAhead written others⟩

theorem members_sound (n : Nat) (values : ∀ m < n, ValueSound m)
    (inner : ∀ m < n, MembersSound m) : MembersSound n := by
  intro slot members place stack text short complete succeeds
  match place with
  | .first =>
      rcases succeeds.key (by decide) with
        ⟨-, blank, rest, rfl, isBlank⟩ | ⟨blank, rest, rfl, isBlank, begun⟩
      · exact ⟨[], blank ++ [ascii '\x7d'], rest, by simp, .none complete isBlank⟩
      · refine members_from values inner .first isBlank ?_ begun
        rw [List.length_append, List.length_cons] at short
        omega
  | .next =>
      obtain ⟨blank, rest, rfl, isBlank, goes, solid⟩ :=
        succeeds.past_blank (Phase.idle_object slot members .next)
      cases rest with
      | nil => exact (Succeeds.not_stop rfl goes).elim
      | cons b more =>
          have further := goes.step
          simp only [step, stepObject, solid b more rfl, Bool.false_eq_true, if_false] at further
          by_cases isEnd : b = ascii '\x7d'
          · subst isEnd
            exact ⟨[], blank ++ [ascii '\x7d'], more, by simp, .none complete isBlank⟩
          by_cases comma : b = ascii ','
          · subst comma
            simp only [isEnd, false_and, if_false, if_true] at further
            rcases further.key (by decide) with
              ⟨same, -⟩ | ⟨ahead, rest, rfl, isAhead, begun⟩
            · exact absurd rfl same
            · have shorter : rest.length < n := by
                simp only [List.length_append, List.length_cons] at short
                omega
              have found := members_from values inner (.comma isBlank) isAhead shorter begun
              rwa [List.append_assoc] at found
          · simp only [isEnd, comma, false_and, if_false, if_true] at further
            exact (Succeeds.not_fail further).elim

theorem sound (n : Nat) : ValueSound n ∧ ElementsSound n ∧ MembersSound n := by
  induction n using Nat.strongRecOn with
  | _ n ih =>
      have values : ValueSound n := value_sound n fun m less => (ih m less).2
      exact ⟨values, elements_sound n values fun m less => (ih m less).2.1,
        members_sound n (fun m less => (ih m less).1) fun m less => (ih m less).2.2⟩

/-- **A text that is read starts with a document.** -/
theorem begins_of_reading {text : Bytes} {root : Json} (read : reading text = .ok root) :
    ∃ doc : Document, doc.Begins text :=
  have ⟨doc, blank, body, rest, shape, isBlank, written, apart⟩ :=
    (sound text.length).1 .root [] text (Nat.le_refl _) ⟨root, read⟩
  ⟨doc, blank, body, rest, shape, isBlank, written, apart⟩

/-- **What a text is read as and the grammar agree**: a text gives a tree exactly
if it starts with a document that is read as that tree. -/
theorem reading_eq_ok_iff {text : Bytes} {root : Json} :
    reading text = .ok root ↔ ∃ doc : Document, doc.Begins text ∧ doc.read .root 0 = .ok root := by
  constructor
  · intro read
    obtain ⟨doc, begins⟩ := begins_of_reading read
    exact ⟨doc, begins, (reading_of_begins begins).symm.trans read⟩
  · rintro ⟨doc, begins, read⟩
    exact (reading_of_begins begins).trans read

end NodeSettings
