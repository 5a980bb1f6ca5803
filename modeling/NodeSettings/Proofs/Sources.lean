/-
# NodeSettings.Proofs.Sources -- what a source comes to is what its text is read as

A reader stands at a move when it is reading in the phase of that move, or is
leaving the containers after the fault of that move (`ReaderState.At`).  Each
byte keeps this (`take_at`), so a run over a source follows the run over its
text, `Source.text`: the bytes handed out before the source first fails or ends.
What a source does after a fault only serves the leaving of containers; the cause
stays (`run_failed`).

An end is final if nothing but ends comes after it, and then it closes the text
(`run_over`).  Otherwise a reader may ask once more and go on with bytes that are not
of the text, and then the text does not tell what is read.  So what is said of texts is
said of sources whose first document is `Unresumed`: it is over before the source
reports an end, or that end is final.

A document that is read from such a source is what the text of the source is read as
(`reading_of_source`); if the source never fails this holds of faults too
(`readDocument_of_unbroken`).
-/
import NodeSettings.Proofs.Written.Recognition
import NodeSettings.Reader.Run

namespace NodeSettings

set_option autoImplicit false

/-- The bytes a source hands out before it fails or ends; interrupted reads do not
count. -/
def Source.text : Source → Bytes
  | [] => []
  | .data bytes :: rest => bytes ++ Source.text rest
  | .failure failure :: rest => if failure.kind = .interrupted then Source.text rest else []
  | .ended :: _ => []

/-- Once the source has reported its end, it has nothing but ends to report. -/
def Source.EndsForGood : Source → Prop
  | [] => True
  | .ended :: rest => ∀ delivery ∈ rest, delivery = .ended
  | _ :: rest => Source.EndsForGood rest

/-- How often an end is reported before nothing is left. -/
def Source.ends (source : Source) : Nat :=
  source.count .ended

/-- Reading the first document does not go on past an end: it is over before the source
reports one, or the end is for good. -/
def Source.Unresumed (source : Source) : Prop :=
  source.EndsForGood ∨ (readDocument source).2.ends = source.ends

/-- Some read fails, and not just because it was interrupted. -/
def Source.Broken (source : Source) : Prop :=
  ∃ failure, .failure failure ∈ source ∧ failure.kind ≠ .interrupted

theorem Source.Broken.cons {source : Source} (broken : source.Broken) (delivery : Delivery) :
    Source.Broken (delivery :: source) := by
  obtain ⟨failure, member, hard⟩ := broken
  exact ⟨failure, List.mem_cons_of_mem delivery member, hard⟩

theorem Source.text_ofBytes (bytes : Bytes) : (Source.ofBytes bytes).text = bytes :=
  List.append_nil bytes

theorem Source.ofBytes_unbroken (bytes : Bytes) : ¬ (Source.ofBytes bytes).Broken := by
  rintro ⟨failure, member, -⟩
  simp [ofBytes] at member

/-- The text of a source, which is not resumed, begins with this document. -/
structure Source.Holds (source : Source) (doc : Document) : Prop where
  unresumed : source.Unresumed
  begins : doc.Begins source.text

/-- The first document of a source is read to its end, and is this one. -/
def Source.Gives (source : Source) (doc : Document) : Prop :=
  (∃ root, (readDocument source).1 = .ok root) ∧ source.Holds doc

theorem Source.ends_data (bytes : Bytes) (rest : Source) :
    Source.ends (.data bytes :: rest) = rest.ends := by
  simp [ends]

theorem Source.ends_failure (failure : ReadFailure) (rest : Source) :
    Source.ends (.failure failure :: rest) = rest.ends := by
  simp [ends]

theorem Source.ends_ended (rest : Source) : Source.ends (.ended :: rest) = rest.ends + 1 :=
  List.count_cons_self

theorem Source.ofBytes_unresumed (bytes : Bytes) : (Source.ofBytes bytes).Unresumed :=
  .inl trivial

theorem Source.holds_ofBytes {doc : Document} {bytes : Bytes} (begins : doc.Begins bytes) :
    (Source.ofBytes bytes).Holds doc :=
  ⟨ofBytes_unresumed bytes, by rwa [text_ofBytes]⟩

/-! ## A reader at a move -/

/-- A reader that asks its source once more stands at none: it may read on otherwise than
after the bytes alone. -/
def ReaderState.At (move : Move) : ReaderState → Prop
  | .reading phase stack => move = .go phase stack
  | .asking _ _ => False
  | .leaving fault _ _ => ∃ left, move = .fail fault.cause left

def Progress.At (move : Move) : Progress → Prop
  | .more reader => reader.state.At move
  | .finished (.ok root) => move = .done root
  | .finished (.error fault) => ∃ left, move = .fail fault.cause left

theorem ReaderState.of_go {state : ReaderState} {phase : Phase} {stack : List Frame}
    (stands : state.At (.go phase stack)) : state = .reading phase stack := by
  cases state with
  | reading phase' stack' =>
      cases stands
      rfl
  | asking _ _ => exact stands.elim
  | leaving fault comma around =>
      obtain ⟨left, same⟩ := stands
      cases same

theorem ReaderState.of_fail {state : ReaderState} {cause : Cause} {left : Bool}
    (stands : state.At (.fail cause left)) :
    ∃ fault comma around, state = .leaving fault comma around ∧ fault.cause = cause := by
  cases state with
  | reading phase stack => cases stands
  | asking _ _ => exact stands.elim
  | leaving fault comma around =>
      obtain ⟨left, same⟩ := stands
      cases same
      exact ⟨fault, comma, around, rfl, rfl⟩

/-- A reader that still runs has not finished. -/
theorem ReaderState.not_at_done (state : ReaderState) (root : Json) : ¬ state.At (.done root) := by
  cases state <;> exact nofun

/-- What a run comes to that has come this far, with this much left to read. -/
def Progress.runOn (progress : Progress) (rest : Source) : Verdict :=
  match progress with
  | .more reader => (reader.run rest).1
  | .finished verdict => verdict

namespace Reader

theorem leave_at (p : Position) (fault : Fault) (around : List Bracket) (left : Bool) :
    (leave p fault around).At (.fail fault.cause left) := by
  cases around with
  | nil => exact ⟨left, rfl⟩
  | cons bracket around => exact ⟨left, rfl⟩

theorem leaveAt_at (p : Position) (b : UInt8) (fault : Fault) (comma : Bool)
    (around : List Bracket) (left : Bool) :
    (leaveAt p b fault comma around).At (.fail fault.cause left) := by
  induction around generalizing fault comma with
  | nil => exact ⟨left, rfl⟩
  | cons bracket around ih =>
      rw [leaveAt]
      split
      · exact ⟨left, rfl⟩
      · split
        · exact leave_at p (fault.settle p) around left
        · split
          · exact ⟨left, rfl⟩
          · exact ih (fault.settle p) false

/-- **A byte takes a reader to where it takes the move.** -/
theorem take_at {r : Reader} {move : Move} (stands : r.state.At move) (b : UInt8) :
    (r.take b).At (move.next b) := by
  rcases r with ⟨p, state⟩
  cases state with
  | leaving fault comma around =>
      obtain ⟨left, rfl⟩ := stands
      exact leaveAt_at (p.after b) b fault comma around left
  | asking phase stack => exact stands.elim
  | reading phase stack =>
      have same : move = .go phase stack := stands
      subst same
      simp only [take, Move.next]
      cases step phase stack b with
      | go phase stack => exact rfl
      | done root => exact rfl
      | fail cause left =>
          cases left with
          | false => exact leave_at (p.after b) ⟨cause, _⟩ _ false
          | true => exact leaveAt_at (p.after b) b ⟨cause, _⟩ false _ true

theorem takeAll_at {r : Reader} {move : Move} (stands : r.state.At move) (bytes : Bytes) :
    (r.takeAll bytes).1.At (move.onto bytes) := by
  induction bytes generalizing r move with
  | nil => exact stands
  | cons b rest ih =>
      have next := take_at stands b
      rw [takeAll]
      cases taken : r.take b with
      | more r =>
          rw [taken] at next
          exact ih next
      | finished verdict =>
          rw [taken] at next
          cases verdict with
          | ok root =>
              have ended : move.next b = .done root := next
              show (move.next b).onto rest = .done root
              rw [ended, Move.onto_done]
          | error fault =>
              obtain ⟨left, failed⟩ := next
              refine ⟨left, ?_⟩
              show (move.next b).onto rest = .fail fault.cause left
              rw [failed, Move.onto_fail]

/-- A read that fails is the fault of a reader in the middle of something. -/
theorem fail_open {r : Reader} {phase : Phase} {stack : List Frame}
    (stands : r.state.At (.go phase stack)) (failure : ReadFailure) :
    (r.fail failure).At (.fail (.unreadable failure) true) := by
  rcases r with ⟨p, state⟩
  obtain rfl := ReaderState.of_go stands
  exact leave_at p ⟨.unreadable failure, none⟩ _ true

/-- After a fault it only cuts the leaving of a container short. -/
theorem fail_failed {r : Reader} {cause : Cause} {left : Bool}
    (stands : r.state.At (.fail cause left)) (failure : ReadFailure) :
    (r.fail failure).At (.fail cause true) := by
  rcases r with ⟨p, state⟩
  obtain ⟨fault, comma, around, rfl, rfl⟩ := ReaderState.of_fail stands
  exact leave_at p (fault.settle p) around.tail true

/-- So does an end. -/
theorem ended_failed {r : Reader} {cause : Cause} {left : Bool}
    (stands : r.state.At (.fail cause left)) : r.ended.At (.fail cause true) := by
  rcases r with ⟨p, state⟩
  obtain ⟨fault, comma, around, rfl, rfl⟩ := ReaderState.of_fail stands
  exact leave_at p (fault.settle p) around.tail true

theorem fail_at {r : Reader} {move : Move} (stands : r.state.At move) (failure : ReadFailure) :
    ∃ cause left, (r.fail failure).At (.fail cause left) := by
  cases move with
  | go phase stack => exact ⟨_, _, fail_open stands failure⟩
  | fail cause left => exact ⟨_, _, fail_failed stands failure⟩
  | done root => exact absurd stands (r.state.not_at_done root)

theorem ending_open (p : Position) (phase : Phase) (stack : List Frame) :
    (ending ⟨p, .reading phase stack⟩).mapError Fault.cause = (Move.go phase stack).close := by
  simp only [ending, Move.close]
  cases stop phase stack <;> rfl

/-- What a reader ends with is what its move closes with. -/
theorem ending_at {r : Reader} {move : Move} (stands : r.state.At move) :
    r.ending.mapError Fault.cause = move.close := by
  rcases r with ⟨p, state⟩
  cases state with
  | leaving fault comma around =>
      obtain ⟨left, rfl⟩ := stands
      rfl
  | asking phase stack => exact stands.elim
  | reading phase stack =>
      have same : move = .go phase stack := stands
      subst same
      exact ending_open p phase stack

/-- What stands finished at a move comes to what the move comes to. -/
theorem finished_at {verdict : Verdict} {move : Move}
    (stands : (Progress.finished verdict).At move) (rest : Bytes) :
    verdict.mapError Fault.cause = (move.onto rest).close := by
  cases verdict with
  | ok root =>
      have ended : move = .done root := stands
      rw [ended, Move.onto_done]
      rfl
  | error fault =>
      obtain ⟨left, failed⟩ := stands
      rw [failed, Move.onto_fail]
      rfl

/-! ## Runs -/

theorem run_data (r : Reader) (bytes : Bytes) (rest : Source) :
    (r.run (.data bytes :: rest)).1 = (r.takeAll bytes).1.runOn rest := by
  rw [run]
  rcases r.takeAll bytes with ⟨_ | _, left⟩ <;> rfl

theorem run_failure (r : Reader) (failure : ReadFailure) (rest : Source) :
    (r.run (.failure failure :: rest)).1 =
      if failure.kind = .interrupted then (r.run rest).1 else (r.fail failure).runOn rest := by
  rw [run]
  split
  · rfl
  · cases r.fail failure <;> rfl

theorem run_ended (r : Reader) (rest : Source) :
    (r.run (.ended :: rest)).1 = r.ended.runOn rest := by
  rw [run]
  cases r.ended <;> rfl

/-- **After a fault its cause stays**, whatever the source does. -/
theorem run_failed {r : Reader} {cause : Cause} {left : Bool}
    (stands : r.state.At (.fail cause left)) (source : Source) :
    (r.run source).1.mapError Fault.cause = .error cause := by
  induction source generalizing r left with
  | nil => exact ending_at stands
  | cons delivery rest ih =>
      have onward {progress : Progress} {left : Bool} (stands : progress.At (.fail cause left)) :
          (progress.runOn rest).mapError Fault.cause = .error cause := by
        cases progress with
        | more r => exact ih stands
        | finished verdict => exact finished_at stands []
      cases delivery with
      | data bytes =>
          have next := takeAll_at stands bytes
          rw [Move.onto_fail] at next
          rw [run_data]
          exact onward next
      | failure failure =>
          rw [run_failure]
          split
          · exact ih stands
          · exact onward (fail_failed stands failure)
      | ended =>
          rw [run_ended]
          exact onward (ended_failed stands)

theorem runOn_failed {progress : Progress} {cause : Cause} {left : Bool}
    (stands : progress.At (.fail cause left)) (rest : Source) :
    (progress.runOn rest).mapError Fault.cause = .error cause := by
  cases progress with
  | more r => exact run_failed stands rest
  | finished verdict => exact finished_at stands []

theorem fault_of_cause {verdict : Verdict} {cause : Cause}
    (same : verdict.mapError Fault.cause = .error cause) : ∃ fault, verdict = .error fault := by
  cases verdict with
  | error fault => exact ⟨fault, rfl⟩
  | ok root => cases same

/-! ## The end of a source -/

/-- What an end comes to is what everything that follows it comes to. -/
theorem close_conclude (phase : Phase) (stack : List Frame) :
    (conclude phase stack).close = (Move.go phase stack).close := by
  have stopped : (stop phase stack).move.close = (Move.go phase stack).close := by
    rw [Move.close]
    cases stop phase stack <;> rfl
  unfold conclude
  cases completed : phase.completed? with
  | none => exact stopped
  | some value =>
      cases phase with
      | numeral slot draft =>
          simp only [Phase.completed?, Option.ite_none_right_eq_some] at completed
          obtain ⟨mayEnd, known⟩ := completed
          cases stack with
          | nil => simp [deliver, Move.close, stop, mayEnd, known]
          | cons frame stack =>
              cases frame <;> simp [deliver, Move.close, stop, mayEnd, known, Frame.cut]
      | _ => cases completed

/-- **When nothing but ends comes any more, a run closes where it stands**, asking again or
not. -/
theorem run_over {source : Source} (closing : ∀ delivery ∈ source, delivery = .ended)
    {state : ReaderState} {phase : Phase} {stack : List Frame}
    (stands : state = .reading phase stack ∨ state = .asking phase stack) (p : Position) :
    (run ⟨p, state⟩ source).1.mapError Fault.cause = (Move.go phase stack).close := by
  induction source generalizing state phase stack with
  | nil => rcases stands with rfl | rfl <;> exact ending_open p phase stack
  | cons delivery rest ih =>
      obtain rfl := closing delivery List.mem_cons_self
      have ih {state : ReaderState} {phase : Phase} {stack : List Frame} :=
        @ih (fun other member => closing other (List.mem_cons_of_mem _ member)) state phase stack
      have counts : ((concluded p phase stack).runOn rest).mapError Fault.cause =
          (Move.go phase stack).close := by
        rw [← close_conclude, concluded]
        cases conclude phase stack with
        | go phase stack => exact ih (.inl rfl)
        | done root => rfl
        | fail cause left => exact runOn_failed (leave_at p ⟨cause, _⟩ _ true) rest
      rw [run_ended]
      rcases stands with rfl | rfl
      · simp only [ended]
        split
        · exact ih (.inr rfl)
        · exact counts
      · exact counts

theorem run_at_over {r : Reader} {move : Move} (stands : r.state.At move) {source : Source}
    (closing : ∀ delivery ∈ source, delivery = .ended) :
    (r.run source).1.mapError Fault.cause = move.close := by
  cases move with
  | go phase stack => exact run_over closing (.inl (ReaderState.of_go stands)) r.position
  | fail cause left => exact run_failed stands source
  | done root => exact absurd stands (r.state.not_at_done root)

/-- A run puts no ends back. -/
theorem ends_run_le (r : Reader) (source : Source) : (r.run source).2.ends ≤ source.ends := by
  induction source generalizing r with
  | nil => exact Nat.le_refl _
  | cons delivery rest ih =>
      cases delivery with
      | data bytes =>
          rw [run, Source.ends_data]
          rcases r.takeAll bytes with ⟨r | verdict, left⟩
          · exact ih r
          · exact Nat.le_of_eq (Source.ends_data left rest)
      | failure failure =>
          rw [run, Source.ends_failure]
          split
          · exact ih r
          · cases r.fail failure with
            | more r => exact ih r
            | finished verdict => exact Nat.le_refl _
      | ended =>
          rw [run, Source.ends_ended]
          cases r.ended with
          | more r => exact Nat.le_succ_of_le (ih r)
          | finished verdict => exact Nat.le_succ _

/-- **A run comes to what the bytes before its first failure are read as**, unless
the source fails and the run with it, or goes on after an end and the run with it. -/
theorem run_at {r : Reader} {move : Move} (stands : r.state.At move) {source : Source}
    (unresumed : source.EndsForGood ∨ (r.run source).2.ends = source.ends) :
    (r.run source).1.mapError Fault.cause = (move.onto source.text).close ∨
      source.Broken ∧ ∃ fault, (r.run source).1 = .error fault := by
  induction source generalizing r move with
  | nil => exact .inl (ending_at stands)
  | cons delivery rest ih =>
      have later {r : Reader} {move : Move} (stands : r.state.At move)
          (unresumed : Source.EndsForGood rest ∨ (r.run rest).2.ends = Source.ends rest) :
          (r.run rest).1.mapError Fault.cause = (move.onto (Source.text rest)).close ∨
            Source.Broken (delivery :: rest) ∧ ∃ fault, (r.run rest).1 = .error fault := by
        rcases ih stands unresumed with same | ⟨broken, error⟩
        · exact .inl same
        · exact .inr ⟨broken.cons delivery, error⟩
      cases delivery with
      | data bytes =>
          have next := takeAll_at stands bytes
          rw [run_data, Source.text, Move.onto_append]
          rw [run, Source.ends_data] at unresumed
          rcases taken : r.takeAll bytes with ⟨r' | verdict, left⟩
          · rw [taken] at next unresumed
            exact later next unresumed
          · rw [taken] at next
            exact .inl (finished_at next (Source.text rest))
      | failure failure =>
          rw [run_failure, Source.text]
          rw [run, Source.ends_failure] at unresumed
          split
          · rename_i soft
            rw [if_pos soft] at unresumed
            exact later stands unresumed
          · rename_i hard
            obtain ⟨cause, left, failed⟩ := fail_at stands failure
            exact .inr ⟨⟨failure, by simp, hard⟩, fault_of_cause (runOn_failed failed rest)⟩
      | ended =>
          -- The end has been heeded, so it is not among those that are left.
          have closing : ∀ delivery ∈ rest, delivery = .ended := by
            refine unresumed.resolve_right fun same => ?_
            have fewer : (r.run (.ended :: rest)).2.ends ≤ Source.ends rest := by
              rw [run]
              cases r.ended with
              | more r => exact ends_run_le r rest
              | finished verdict => exact Nat.le_refl _
            rw [same, Source.ends_ended] at fewer
            omega
          rw [Source.text, Move.onto_nil]
          refine .inl (run_at_over stands ?_)
          exact List.forall_mem_cons.mpr ⟨rfl, closing⟩

/-- **What fails in the bytes before the first failure of a source has failed**,
whatever follows them. -/
theorem run_refused {r : Reader} {move : Move} (stands : r.state.At move) {source : Source}
    {cause : Cause} {left : Bool} (fails : move.onto source.text = .fail cause left) :
    (r.run source).1.mapError Fault.cause = .error cause := by
  induction source generalizing r move with
  | nil =>
      rw [Source.text, Move.onto_nil] at fails
      exact run_failed (fails ▸ stands) []
  | cons delivery rest ih =>
      cases delivery with
      | data bytes =>
          have next := takeAll_at stands bytes
          rw [Source.text, Move.onto_append] at fails
          rw [run_data]
          cases progress : (r.takeAll bytes).1 with
          | more r =>
              rw [progress] at next
              exact ih next fails
          | finished verdict =>
              rw [progress] at next
              have comes := finished_at next (Source.text rest)
              rw [fails] at comes
              exact comes
      | failure failure =>
          rw [Source.text] at fails
          rw [run_failure]
          split at fails
          · rename_i soft
            rw [if_pos soft]
            exact ih stands fails
          · rename_i hard
            rw [if_neg hard]
            rw [Move.onto_nil] at fails
            exact runOn_failed (fail_failed (fails ▸ stands) failure) rest
      | ended =>
          rw [Source.text, Move.onto_nil] at fails
          exact run_failed (fails ▸ stands) (.ended :: rest)

end Reader

theorem Reader.start_at : (Reader.state {}).At (.go (.value .root) []) :=
  rfl

theorem reading_of_source {source : Source} (unresumed : source.Unresumed) {root : Json}
    (read : (readDocument source).1 = .ok root) : reading source.text = .ok root := by
  rcases Reader.run_at Reader.start_at unresumed with same | ⟨-, fault, failed⟩
  · rw [← readDocument, read] at same
    exact same.symm
  · rw [← readDocument, read] at failed
    cases failed

theorem exists_holds {source : Source} (unresumed : source.Unresumed) {root : Json}
    (read : (readDocument source).1 = .ok root) : ∃ doc : Document, source.Holds doc := by
  obtain ⟨doc, begins⟩ := begins_of_reading (reading_of_source unresumed read)
  exact ⟨doc, unresumed, begins⟩

theorem exists_gives {source : Source} (unresumed : source.Unresumed) {root : Json}
    (read : (readDocument source).1 = .ok root) : ∃ doc : Document, source.Gives doc := by
  obtain ⟨doc, holds⟩ := exists_holds unresumed read
  exact ⟨doc, ⟨root, read⟩, holds⟩

/-- What a source gives is read as the tree that comes of it. -/
theorem read_of_holds {source : Source} {root : Json}
    (read : (readDocument source).1 = .ok root) {doc : Document}
    (holds : source.Holds doc) : doc.read .root 0 = .ok root :=
  (reading_of_begins holds.begins).symm.trans (reading_of_source holds.unresumed read)

/-- A source that hands out its text is read as the text is. -/
theorem readDocument_of_unbroken {source : Source} (unbroken : ¬ source.Broken)
    (unresumed : source.Unresumed) :
    (readDocument source).1.mapError Fault.cause = reading source.text := by
  rcases Reader.run_at Reader.start_at unresumed with same | ⟨broken, -⟩
  · exact same
  · exact absurd broken unbroken

end NodeSettings
