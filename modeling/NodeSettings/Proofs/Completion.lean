/-
# NodeSettings.Proofs.Completion -- documents that show their own end

A document that shows its own end is taken up to its last byte and no further,
whatever follows it and however the source is cut into pieces (`run_finishes`).  So
what a source does once it has handed such a document out does not matter: the source
gives the document (`gives_of_closed`), or is refused for it (`refused_of_closed`).
-/
import NodeSettings.Proofs.Sources
import NodeSettings.Proofs.Written.Closing

namespace NodeSettings

open Text

set_option autoImplicit false

/-! ## What a source holds -/

/-- All bytes a source is still to hand out, past its failures and ends too. -/
def Source.contents : Source → Bytes
  | [] => []
  | .data bytes :: rest => bytes ++ Source.contents rest
  | .failure _ :: rest => Source.contents rest
  | .ended :: rest => Source.contents rest

/-! ## Runs that are done -/

theorem Progress.of_go {progress : Progress} {phase : Phase} {stack : List Frame}
    (stands : progress.At (.go phase stack)) :
    ∃ r, progress = .more r ∧ r.state.At (.go phase stack) := by
  cases progress with
  | more r => exact ⟨r, rfl, stands⟩
  | finished verdict =>
      cases verdict with
      | ok root => cases stands
      | error fault =>
          obtain ⟨left, same⟩ := stands
          cases same

theorem Progress.of_done {progress : Progress} {root : Json}
    (stands : progress.At (.done root)) : progress = .finished (.ok root) := by
  cases progress with
  | more r => exact absurd stands (r.state.not_at_done root)
  | finished verdict =>
      cases verdict with
      | ok other =>
          cases stands
          rfl
      | error fault =>
          obtain ⟨left, same⟩ := stands
          cases same

theorem Move.Finishes.goes {root : Json} {move : Move} {bytes : Bytes}
    (finishes : move.Finishes root bytes) : ∃ phase stack, move = .go phase stack := by
  cases finishes with
  | last done => exact ⟨_, _, rfl⟩
  | more onward => exact ⟨_, _, rfl⟩

/-- White space before a document is taken with it. -/
theorem Move.Finishes.after_blank {root : Json} {slot : Slot} {stack : List Frame}
    {bytes : Bytes} (finishes : Move.Finishes root (.go (.value slot) stack) bytes)
    {blank : Bytes} (isBlank : Blank blank) :
    Move.Finishes root (.go (.value slot) stack) (blank ++ bytes) := by
  induction blank with
  | nil => exact finishes
  | cons b more ih =>
      apply Move.Finishes.more
      rw [Phase.idle_value slot stack b (isBlank b (by simp))]
      exact ih fun c member => isBlank c (by simp [member])

namespace Reader

/-- Of a piece, a reader takes what its document still needs and leaves the rest,
or takes all of it. -/
theorem takeAll_finishes {r : Reader} {move : Move} (stands : r.state.At move) {root : Json}
    {bytes piece tail more : Bytes} (finishes : move.Finishes root bytes)
    (shape : piece ++ tail = bytes ++ more) :
    (∃ left, piece = bytes ++ left ∧ r.takeAll piece = (.finished (.ok root), left)) ∨
      ∃ (r' : Reader) (move' : Move) (after : Bytes), r'.state.At move' ∧
        move'.Finishes root after ∧ bytes = piece ++ after ∧
          r.takeAll piece = (.more r', []) := by
  induction piece generalizing r move bytes with
  | nil => exact .inr ⟨r, move, bytes, stands, finishes, rfl, rfl⟩
  | cons c piece ih =>
      have next := take_at stands c
      rw [takeAll]
      cases finishes with
      | last done =>
          obtain ⟨rfl, -⟩ := List.cons.inj shape
          rw [Move.next, done] at next
          rw [Progress.of_done next]
          exact .inl ⟨piece, rfl, rfl⟩
      | @more _ _ _ after onward =>
          obtain ⟨rfl, shape'⟩ := List.cons.inj shape
          obtain ⟨phase, stack, moved⟩ := onward.goes
          rw [Move.next, moved] at next
          obtain ⟨r', taken, stands'⟩ := Progress.of_go next
          rw [taken]
          rcases ih stands' (moved ▸ onward) shape' with ⟨left, whole, done⟩ | later
          · exact .inl ⟨left, by rw [whole, List.cons_append], done⟩
          · obtain ⟨r'', move', rest, stands'', finishes', whole, took⟩ := later
            exact .inr ⟨r'', move', rest, stands'', finishes', by rw [whole, List.cons_append],
              took⟩

/-- **A run takes a document to its last byte and leaves what follows**, whatever
comes after and however the source is cut into pieces. -/
theorem run_finishes {r : Reader} {move : Move} (stands : r.state.At move) {root : Json}
    {source : Source} {bytes more : Bytes} (finishes : move.Finishes root bytes)
    (shape : source.text = bytes ++ more) :
    ∃ rest, r.run source = (.ok root, rest) ∧ rest.text = more ∧
      source.contents = bytes ++ rest.contents ∧ rest.ends = source.ends := by
  induction source generalizing r move bytes with
  | nil => cases finishes <;> cases shape
  | cons delivery source ih =>
      cases delivery with
      | data piece =>
          rw [run, Source.contents, Source.ends_data]
          rcases takeAll_finishes stands finishes shape with ⟨left, rfl, done⟩ | later
          · rw [done]
            refine ⟨.data left :: source, rfl, ?_, by rw [Source.contents, List.append_assoc],
              Source.ends_data left source⟩
            rw [Source.text, List.append_assoc] at shape
            exact List.append_cancel_left shape
          · obtain ⟨r', move', after, stands', finishes', rfl, took⟩ := later
            rw [Source.text, List.append_assoc] at shape
            obtain ⟨rest, ran, text, contents, ends⟩ :=
              ih stands' finishes' (List.append_cancel_left shape)
            rw [took]
            exact ⟨rest, ran, text, by rw [contents, List.append_assoc], ends⟩
      | failure failure =>
          rw [Source.text] at shape
          rw [run, Source.ends_failure]
          split at shape
          · rename_i soft
            rw [if_pos soft]
            exact ih stands finishes shape
          · cases finishes <;> cases shape
      | ended => cases finishes <;> cases shape

end Reader

/-! ## One document -/

theorem Document.closed_object (members : List (List Glyph × Document)) :
    (Document.object members).Closed := by
  intro f same
  cases same

/-- A document that shows its own end is read from every source that begins with
it, and the source is not asked for its end. -/
theorem readDocument_of_closed {doc : Document} (closed : doc.Closed) {root : Json}
    (read : doc.read .root 0 = .ok root) {source : Source} {blank body more : Bytes}
    (isBlank : Blank blank) (written : Written doc body)
    (shape : source.text = blank ++ body ++ more) :
    ∃ rest, readDocument source = (.ok root, rest) ∧ rest.text = more ∧
      source.contents = blank ++ body ++ rest.contents ∧ rest.ends = source.ends :=
  Reader.run_finishes Reader.start_at ((finishes_written written closed read).after_blank isBlank)
    shape

theorem gives_of_closed {doc : Document} (closed : doc.Closed) {root : Json}
    (read : doc.read .root 0 = .ok root) {source : Source} (begins : doc.Begins source.text) :
    source.Gives doc := by
  obtain ⟨blank, body, more, shape, isBlank, written, -⟩ := id begins
  rw [← List.append_assoc] at shape
  obtain ⟨rest, ran, -, -, ends⟩ := readDocument_of_closed closed read isBlank written shape
  refine ⟨⟨root, by rw [ran]⟩, .inr ?_, begins⟩
  rw [ran, ends]

/-- A document that shows its own end is refused on every source that begins with it, if
it cannot be read. -/
theorem refused_of_closed {doc : Document} (closed : doc.Closed) {cause : Cause}
    (refused : doc.read .root 0 = .error cause) {source : Source}
    (begins : doc.Begins source.text) :
    (readDocument source).1.mapError Fault.cause = .error cause := by
  obtain ⟨blank, body, more, shape, isBlank, written, -⟩ := begins
  have leads := onto_written written .root [] closed.ends_nil
  rw [List.length_nil, refused, List.append_nil] at leads
  obtain ⟨left, fails⟩ := leads
  apply @Reader.run_refused _ _ Reader.start_at source cause left
  rw [shape, (Phase.idle_value .root).onto_blank [] isBlank, Move.onto_append, fails,
    Move.onto_fail]

/-- A source that never fails and does not go on after an end hands its document out
whole. -/
structure Source.Whole (source : Source) : Prop where
  unbroken : ¬ source.Broken
  unresumed : source.Unresumed

theorem Source.ofBytes_whole (bytes : Bytes) : (Source.ofBytes bytes).Whole :=
  ⟨ofBytes_unbroken bytes, ofBytes_unresumed bytes⟩

/-- **What begins the text of a source decides what is read of it**, if it shows its own
end or the source hands it out whole. -/
theorem readDocument_of_begins {source : Source} {doc : Document}
    (begins : doc.Begins source.text) (whole : doc.Closed ∨ source.Whole) :
    (readDocument source).1.mapError Fault.cause = doc.read .root 0 := by
  rcases whole with closed | whole
  · cases stands : doc.read .root 0 with
    | ok root =>
        obtain ⟨⟨tree, read⟩, holds⟩ := gives_of_closed closed stands begins
        have same := read_of_holds read holds
        rw [stands] at same
        cases same
        rw [read]
        rfl
    | error cause => exact refused_of_closed closed stands begins
  · exact (readDocument_of_unbroken whole.unbroken whole.unresumed).trans
      (reading_of_begins begins)

/-- So it is read exactly if its document is. -/
theorem readDocument_iff {source : Source} {doc : Document} (begins : doc.Begins source.text)
    (whole : doc.Closed ∨ source.Whole) :
    (∃ root, (readDocument source).1 = .ok root) ↔ ∃ root, doc.ReadAs .root 0 root := by
  have same := readDocument_of_begins begins whole
  unfold Document.ReadAs
  rw [← same]
  cases (readDocument source).1 with
  | ok root => simp
  | error fault => simp

theorem Source.holds_of_read {source : Source} {doc : Document} (begins : doc.Begins source.text)
    (whole : doc.Closed ∨ source.Whole) {root : Json}
    (read : (readDocument source).1 = .ok root) : source.Holds doc := by
  rcases whole with closed | whole
  · obtain ⟨tree, stands⟩ := (readDocument_iff begins (.inl closed)).mp ⟨root, read⟩
    exact (gives_of_closed closed stands begins).2
  · exact ⟨whole.unresumed, begins⟩

end NodeSettings
