/-
# NodeSettings.Proofs.Truncation -- sources that stop before their document does

A source stops after its text because it ends there or because a read fails
(`Source.halt`).  A reader that is still in the middle of something by then comes to
what that makes of it, and to nothing else, whatever the source does after a failure
(`run_stops`).  An end must be for good: after one that is not, the reader may go on.

So a text that decodes, cut anywhere and handed out by a source that stops there,
never gives a configuration (`decode_cut_short`).  A read that fails is reported as
it is.  An end is reported as one too early, unless the cut falls within a number of
which too little or too much stands before it; a kept number is told out of range
even if what was to come had brought it back in (`kept_number_cut_out_of_range`).
-/
import NodeSettings.Proofs.Series
import NodeSettings.Proofs.Written.Cuts

namespace NodeSettings

open Text

set_option autoImplicit false

/-- The failure a source stops with after its text; none if it ends there. -/
def Source.halt : Source → Option ReadFailure
  | [] => none
  | .data _ :: rest => Source.halt rest
  | .failure failure :: rest =>
      if failure.kind = .interrupted then Source.halt rest else some failure
  | .ended :: _ => none

/-- What a move comes to when its source stops. -/
def Move.halted (move : Move) : Option ReadFailure → Except Cause Json
  | none => move.close
  | some failure => .error (.unreadable failure)

/-! ## Runs over a source that stops -/

namespace Reader

/-- **A run that is still open when its source stops comes to what that makes of
it.** -/
theorem run_stops {r : Reader} {move : Move} (stands : r.state.At move) {source : Source}
    (still : (move.onto source.text).Open)
    (forGood : source.halt = none → source.EndsForGood) :
    (r.run source).1.mapError Fault.cause = (move.onto source.text).halted source.halt := by
  induction source generalizing r move with
  | nil => exact ending_at stands
  | cons delivery source ih =>
      cases delivery with
      | data piece =>
          rw [Source.text, Move.onto_append] at still ⊢
          obtain ⟨phase, stack, moved⟩ := still.of_onto
          have next := takeAll_at stands piece
          rw [moved] at next still ⊢
          obtain ⟨r', taken, stands'⟩ := Progress.of_go next
          rw [run_data, Source.halt, taken]
          exact ih stands' still forGood
      | failure failure =>
          rw [Source.text] at still ⊢
          rw [Source.halt] at forGood
          rw [run_failure, Source.halt]
          split
          · rename_i soft
            rw [if_pos soft] at still forGood
            exact ih stands still forGood
          · rename_i hard
            rw [if_neg hard, Move.onto_nil] at still
            obtain ⟨phase, stack, rfl⟩ := still
            exact runOn_failed (fail_open stands failure) source
      | ended =>
          rw [Source.text, Move.onto_nil, Source.halt]
          exact run_at_over stands (List.forall_mem_cons.mpr ⟨rfl, forGood rfl⟩)

end Reader

/-! ## Documents that are cut short -/

/-- What may be said of a source that ends at a cut: that it ends too soon, or what the
figures before the cut show of a number. -/
inductive Cause.TellsCut (within : CutNumber → Prop) (cause : Cause) : Prop where
  | ending (tooSoon : cause.category = .ending) : TellsCut within cause
  | number {number : CutNumber} {m : Malformation} (inside : within number)
      (shows : number.Shows m) (said : cause = .malformed m) : TellsCut within cause

theorem Move.CutShort.close {within : CutNumber → Prop} {move : Move}
    (cut : move.CutShort within) :
    ∃ cause, move.close = .error cause ∧ cause.TellsCut within := by
  cases cut with
  | missing missing =>
      obtain ⟨phase, stack, t, rfl, stops⟩ := missing
      exact ⟨.truncated t, by simp [Move.close, stops], .ending rfl⟩
  | @shown phase stack m number inside shows stops =>
      exact ⟨.malformed m, by simp [Move.close, stops], .number inside shows rfl⟩

/-- The front of a text of white space and a document that ends within a number. -/
def Document.CutWithin (doc : Document) (blank front : Bytes) (number : CutNumber) : Prop :=
  ∃ inner, front = blank ++ inner ∧ number.Within .root doc inner

theorem along_text {doc : Document} {blank body : Bytes} (isBlank : Blank blank)
    (written : Written doc body) (closed : doc.Closed) {root : Json}
    (read : doc.read .root 0 = .ok root) :
    (Move.go (.value .root) []).Along (doc.CutWithin blank) (blank ++ body) := by
  apply along_past_blank (Phase.idle_value .root) isBlank (missing_value .root)
  have inside := @along_written doc body written .root [] root read (.inl closed)
  exact inside.imp fun front number within => ⟨front, rfl, within⟩

/-- **A source that stops before its document does never gives a configuration.**  If
it ends, that is said, or what is shown by the number it ends within; if a read
fails, that failure is reported. -/
theorem decode_cut_short {doc : Document} {blank body front back : Bytes}
    (isBlank : Blank blank) (written : Written doc body) (closed : doc.Closed)
    (read : (decode (.ofBytes (blank ++ body))).1.upshot ≠ .unread)
    (shape : blank ++ body = front ++ back) (cut : back ≠ []) {source : Source}
    (handsOut : source.text = front) :
    (source.halt = none → source.EndsForGood → ∃ cause place,
        (decode source).1 = .error (.decoding (.unreadable ⟨cause, place⟩) {}) ∧
          cause.TellsCut (doc.CutWithin blank front)) ∧
      ∀ failure, source.halt = some failure → ∃ place,
        (decode source).1 =
          .error (.decoding (.unreadable ⟨.unreadable failure, place⟩) {}) := by
  obtain ⟨root, -, readAs⟩ := exists_read isBlank written closed read
  have short := along_text isBlank written closed readAs front back shape cut
  have still : ((Move.go (.value .root) []).onto source.text).Open := by
    rw [handsOut]
    exact short.goesOn
  have stops := Reader.run_stops Reader.start_at still
  rw [handsOut] at stops
  constructor
  · intro ends forGood
    obtain ⟨cause, closes, tells⟩ := short.close
    have stops := stops fun _ => forGood
    rw [ends, Move.halted, closes] at stops
    obtain ⟨place, failed⟩ := decode_of_cause stops
    exact ⟨cause, place, failed, tells⟩
  · intro failure halts
    rw [halts] at stops
    exact decode_of_cause (stops nofun)

/-- A text that is cut within a key, by the end of its source and by a failing disk. -/
theorem decode_cut_short_in_key :
    (∃ cause place, (decode (.ofBytes (Utf8.encode
        "\x7b\"networkConfig\":\x7b\"namespace\":\"a\",\"po"))).1 =
          .error (.decoding (.unreadable ⟨cause, place⟩) {}) ∧
        cause.TellsCut (Document.CutWithin (.withPort (.array [])) [] (Utf8.encode
          "\x7b\"networkConfig\":\x7b\"namespace\":\"a\",\"po"))) ∧
      ∃ place, (decode [.data (Utf8.encode "\x7b\"networkConfig\":"),
          .failure ⟨.interrupted, "later"⟩,
          .data (Utf8.encode "\x7b\"namespace\":\"a\",\"po"), .failure ⟨.other, "gone"⟩,
          .data (Utf8.encode "rt\":[]\x7d\x7d")]).1 =
        .error (.decoding (.unreadable ⟨.unreadable ⟨.other, "gone"⟩, place⟩) {}) := by
  have written := written_compact (.withPort (.array []))
  have closed : (Document.withPort (.array [])).Closed := Document.closed_object _
  have read : (decode (.ofBytes ([] ++ (Document.withPort (.array [])).compact))).1.upshot ≠
      .unread := by
    decide +kernel
  have shape : [] ++ (Document.withPort (.array [])).compact =
      Utf8.encode "\x7b\"networkConfig\":\x7b\"namespace\":\"a\",\"po" ++
        Utf8.encode "rt\":[]\x7d\x7d" := by
    decide +kernel
  have cut : Utf8.encode "rt\":[]\x7d\x7d" ≠ [] := by decide
  constructor
  · exact (decode_cut_short blank_nil written closed read shape cut
      (Source.text_ofBytes _)).1 rfl trivial
  · exact (decode_cut_short blank_nil written closed read shape cut rfl).2 _ rfl

/-- A skipped number of which only the minus stands before the cut. -/
example : (decode (.ofBytes (Utf8.encode "\x7b\"a\":-"))).1 =
    .error (.decoding (.unreadable ⟨.malformed .badNumber, some ⟨1, 6⟩⟩) {}) := by
  decide +kernel

theorem longTenBillion_plain : .ofNat 1 :: List.replicate 310 (Digit.ofNat 0) = [0] ∨
    ∃ d rest, .ofNat 1 :: List.replicate 310 (Digit.ofNat 0) = d :: rest ∧ d ≠ 0 :=
  .inr ⟨.ofNat 1, _, rfl, by decide⟩

/-- One and 310 zeros, taken down to `10 ^ 10` by the exponent. -/
def Figures.longTenBillion : Figures where
  negative := false
  whole := .ofNat 1 :: List.replicate 310 (.ofNat 0)
  fraction := []
  power := some ⟨false, some .minus, [.ofNat 3, .ofNat 0, .ofNat 0], List.cons_ne_nil _ _⟩
  whole_plain := longTenBillion_plain

namespace CutNumber

variable {number : CutNumber} {slot : Slot} {front : Bytes}

theorem Within.slot_eq {f : Figures} (within : number.Within slot (.number f) front) :
    number.slot = slot := by
  cases within
  rfl

theorem not_within_string {glyphs : List Glyph} :
    ¬ number.Within slot (.string glyphs) front := by
  intro within
  cases within

theorem Within.members {members : List (List Glyph × Document)}
    (within : number.Within slot (.object members) front) :
    ∃ inner, number.WithinMembers slot .first members inner := by
  cases within with
  | object inside => exact ⟨_, inside⟩

/-- A cut within members is one within the first value, or one within the others. -/
theorem WithinMembers.split {place : Place} {key : List Glyph} {value : Document}
    {rest : List (List Glyph × Document)}
    (within : number.WithinMembers slot place ((key, value) :: rest) front) :
    (∃ inner, number.Within (slot.under key) value inner) ∨
      ∃ inner, number.WithinMembers slot .next rest inner := by
  cases within with
  | here led before between after inside => exact .inl ⟨_, inside⟩
  | later led before between after first inside => exact .inr ⟨_, inside⟩

theorem WithinMembers.ne_nil {place : Place} : ¬ number.WithinMembers slot place [] front := by
  intro within
  cases within

end CutNumber

/-- The port is the only number of a document that has no other, and it is kept. -/
theorem kept_of_cutWithin_port {f : Figures} {blank front : Bytes} {number : CutNumber}
    (inside : (Document.withPort (.number f)).CutWithin blank front number) :
    number.slot.kept = true := by
  obtain ⟨inner, -, within⟩ := inside
  obtain ⟨_, within⟩ := within.members
  rcases within.split with ⟨_, within⟩ | ⟨_, within⟩
  · obtain ⟨_, within⟩ := within.members
    rcases within.split with ⟨_, scope⟩ | ⟨_, within⟩
    · exact absurd scope CutNumber.not_within_string
    · rcases within.split with ⟨_, port⟩ | ⟨_, within⟩
      · rw [port.slot_eq]
        decide
      · exact absurd within CutNumber.WithinMembers.ne_nil
  · exact absurd within CutNumber.WithinMembers.ne_nil

/-- **A kept number that is cut before its exponent may be told out of range**, though
the text it is cut from decodes: without what was to come it is too large. -/
theorem kept_number_cut_out_of_range :
    ∃ (doc : Document) (front back : Bytes), doc.Closed ∧ doc.compact = front ++ back ∧
      back ≠ [] ∧ (decode (.ofBytes doc.compact)).1.upshot ≠ .unread ∧
      (∃ fault, (decode (.ofBytes front)).1 = .error (.decoding (.unreadable fault) {}) ∧
        fault.cause.category = .form) ∧
      ∀ number, doc.CutWithin [] front number → number.slot.kept = true := by
  have tooLarge : (decode (.ofBytes (Utf8.encode
      "\x7b\"networkConfig\":\x7b\"namespace\":\"a\",\"port\":" ++
        Figures.longTenBillion.wholeBytes))).1 = .error (.decoding (.unreadable
          ⟨.malformed .numberRange, some ⟨1, 352⟩⟩) {}) := by
    decide +kernel
  refine ⟨.withPort (.number Figures.longTenBillion), _, Utf8.encode "e-300\x7d\x7d",
    Document.closed_object _, ?_, by decide, by decide +kernel, ⟨_, tooLarge, rfl⟩,
    fun number inside => kept_of_cutWithin_port inside⟩
  decide +kernel

end NodeSettings
