/-
# NodeSettings.Proofs.Written.Closing -- the byte a document ends with

A move is open while a reader is in the middle of something.  Once it has ended
it takes nothing any more, so what is open after some bytes was open before every
one of them (`Open.of_onto`).

Every document but a number shows its own end: wherever it is cut a reader goes on
(`CutShort.goesOn`), so it is the last byte that a reader is done with
(`finishes_written`).  A number is only done with the byte that follows it
(`finishes_number`).
-/
import NodeSettings.Proofs.Written.Cuts

namespace NodeSettings

open Text

set_option autoImplicit false

namespace Move

/-! ## Moves that go on -/

def Open (move : Move) : Prop :=
  ∃ phase stack, move = .go phase stack

theorem open_go (phase : Phase) (stack : List Frame) : (Move.go phase stack).Open :=
  ⟨phase, stack, rfl⟩

theorem Open.of_onto {move : Move} {bytes : Bytes} (still : (move.onto bytes).Open) :
    move.Open := by
  cases move with
  | go phase stack => exact open_go phase stack
  | done document => rwa [onto_done] at still
  | fail cause left => rwa [onto_fail] at still

/-- The bytes are taken, and the document is done with the last of them and not
before. -/
inductive Finishes (root : Json) : Move → Bytes → Prop where
  | last {phase : Phase} {stack : List Frame} {b : UInt8}
      (done : step phase stack b = .done root) : Finishes root (.go phase stack) [b]
  | more {phase : Phase} {stack : List Frame} {b : UInt8} {rest : Bytes}
      (onward : Finishes root (step phase stack b) rest) :
      Finishes root (.go phase stack) (b :: rest)

theorem Finishes.of_open {root : Json} {move : Move} {front : Bytes} {b : UInt8}
    (still : (move.onto front).Open) (done : move.onto (front ++ [b]) = .done root) :
    Finishes root move (front ++ [b]) := by
  induction front generalizing move with
  | nil =>
      obtain ⟨phase, stack, rfl⟩ := still
      exact .last done
  | cons c rest ih =>
      obtain ⟨phase, stack, rfl⟩ := still.of_onto
      exact .more (ih still done)

theorem CutShort.goesOn {within : CutNumber → Prop} {move : Move} (cut : move.CutShort within) :
    move.Open := by
  cases cut with
  | missing missing =>
      obtain ⟨phase, stack, t, rfl, -⟩ := missing
      exact open_go phase stack
  | shown inside shows stops => exact open_go _ _

/-- What goes on at every cut is only done with the last byte. -/
theorem Along.finishes {within : Bytes → CutNumber → Prop} {root : Json} {move : Move}
    {bytes : Bytes} (along : move.Along within bytes) (begun : bytes ≠ [])
    (done : move.onto bytes = .done root) : Finishes root move bytes := by
  obtain ⟨front, b, rfl⟩ : ∃ front b, bytes = front ++ [b] :=
    ⟨_, _, (List.dropLast_concat_getLast begun).symm⟩
  exact .of_open (along front [b] rfl (by simp)).goesOn done

end Move

/-! ## Numbers -/

/-- **A document that is no number is done with its last byte.** -/
theorem finishes_written {doc : Document} {body : Bytes} (written : Written doc body)
    (closed : doc.Closed) {root : Json} (read : doc.read .root 0 = .ok root) :
    Move.Finishes root (.go (.value .root) []) body := by
  have leads := onto_written written .root [] closed.ends_nil
  rw [List.length_nil, read, List.append_nil] at leads
  have along := @along_written doc body written .root [] root read (.inl closed)
  obtain ⟨b, rest, shape, -⟩ := written.opener
  exact along.finishes (shape ▸ List.cons_ne_nil b rest) leads

end NodeSettings
