/-
# NodeSettings.Proofs.Signals -- how a source is cut into pieces cannot be told

What a source does to a reader comes in *signals*: a byte, a read that fails, or an
end.  Where the data is cut into pieces leaves no trace in the signals of a source,
and neither do empty pieces and reads that are interrupted.

A reader that heeds one signal after the other (`Reader.follow`) comes to the same as
a run over the source, and leaves the signals the run leaves (`follow_signals`).  So
sources with the same signals cannot be told apart, however many documents are
decoded from them one after the other (`told_alike`).  They are the sources that come
of one another by cutting pieces and joining them, and by putting in empty pieces and
interrupted reads or taking them out (`recut_iff`).

An end is a signal like the others, and its place counts.  Whether it ends a document is
for the reader: one that is reported just before a document is passed over
(`told_ended`).
-/
import Mathlib.Logic.Relation
import NodeSettings.Proofs.Series

namespace NodeSettings

open Text

set_option autoImplicit false

inductive Signal where
  | byte (b : UInt8)
  | failure (failure : ReadFailure)
  | ended
deriving DecidableEq, Repr

def Delivery.signals : Delivery → List Signal
  | .data bytes => bytes.map .byte
  | .failure f => if f.kind = .interrupted then [] else [.failure f]
  | .ended => [.ended]

def Source.signals (source : Source) : List Signal :=
  source.flatMap Delivery.signals

theorem Source.signals_cons (delivery : Delivery) (rest : Source) :
    Source.signals (delivery :: rest) = delivery.signals ++ rest.signals :=
  List.flatMap_cons

theorem Source.signals_append (before after : Source) :
    Source.signals (before ++ after) = before.signals ++ after.signals :=
  List.flatMap_append

theorem Delivery.signals_interrupted {failure : ReadFailure} (soft : failure.kind = .interrupted) :
    (Delivery.failure failure).signals = [] :=
  if_pos soft

theorem Delivery.signals_failure {failure : ReadFailure} (hard : failure.kind ≠ .interrupted) :
    (Delivery.failure failure).signals = [.failure failure] :=
  if_neg hard

/-! ## One signal after the other -/

namespace Reader

def heed (r : Reader) : Signal → Progress
  | .byte b => r.take b
  | .failure failure => r.fail failure
  | .ended => r.ended

/-- A reader over signals, and the signals it leaves. -/
def follow : Reader → List Signal → Verdict × List Signal
  | r, [] => (r.ending, [])
  | r, signal :: rest =>
      match r.heed signal with
      | .more r => follow r rest
      | .finished verdict => (verdict, rest)

/-- What follows once this much has been made of the signals so far. -/
def followOn (progress : Progress) (left rest : List Signal) : Verdict × List Signal :=
  match progress with
  | .more r => r.follow rest
  | .finished verdict => (verdict, left ++ rest)

theorem follow_cons (r : Reader) (signal : Signal) (rest : List Signal) :
    r.follow (signal :: rest) = followOn (r.heed signal) [] rest := by
  rw [follow]
  cases r.heed signal <;> rfl

/-- A piece is heeded byte by byte. -/
theorem follow_bytes (r : Reader) (bytes : Bytes) (rest : List Signal) :
    r.follow (bytes.map .byte ++ rest) =
      followOn (r.takeAll bytes).1 ((r.takeAll bytes).2.map .byte) rest := by
  induction bytes generalizing r with
  | nil => rfl
  | cons b more ih =>
      rw [List.map_cons, List.cons_append, follow_cons, heed, takeAll]
      cases r.take b with
      | more r => exact ih r
      | finished verdict => rfl

/-- **A run over a source heeds its signals one by one**, and leaves those it has not
heeded. -/
theorem follow_signals (r : Reader) (source : Source) :
    r.follow source.signals = ((r.run source).1, (r.run source).2.signals) := by
  induction source generalizing r with
  | nil => rfl
  | cons delivery rest ih =>
      rw [Source.signals_cons]
      cases delivery with
      | data bytes =>
          rw [Delivery.signals, follow_bytes, run]
          rcases r.takeAll bytes with ⟨r | verdict, left⟩
          · exact ih r
          · rw [Source.signals_cons]
            rfl
      | failure failure =>
          rw [run]
          by_cases soft : failure.kind = .interrupted
          · rw [Delivery.signals_interrupted soft, if_pos soft]
            exact ih r
          · rw [Delivery.signals_failure soft, if_neg soft, List.singleton_append, follow_cons,
              heed]
            cases r.fail failure with
            | more r => exact ih r
            | finished verdict => rfl
      | ended =>
          rw [Delivery.signals, run, List.singleton_append, follow_cons, heed]
          cases r.ended with
          | more r => exact ih r
          | finished verdict => rfl

end Reader

/-! ## Decoding again and again -/

def Signal.isByte : Signal → Bool
  | .byte _ => true
  | _ => false

/-- The bytes a source has left are among its signals. -/
theorem Source.countP_signals (source : Source) :
    source.signals.countP Signal.isByte = source.size := by
  induction source with
  | nil => rfl
  | cons delivery rest ih =>
      rw [signals_cons, List.countP_append, ih]
      cases delivery with
      | data bytes =>
          rw [Delivery.signals, List.countP_map, size]
          exact congrArg (· + size rest) (List.countP_eq_length.mpr fun b _ => rfl)
      | failure failure =>
          have none : (Delivery.failure failure).signals.countP Signal.isByte = 0 := by
            by_cases soft : failure.kind = .interrupted
            · rw [Delivery.signals_interrupted soft]
              rfl
            · rw [Delivery.signals_failure soft]
              rfl
          rw [none, Nat.zero_add]
          rfl
      | ended =>
          exact Nat.zero_add (size rest)

/-- What a caller is told who decodes again and again from one source: each outcome,
with the number of bytes taken by then. -/
def told (calls : Nat) (source : Source) : List (Outcome × Nat) :=
  (decodes calls source).map fun result => (result.1, source.size - result.2.size)

section Alike

variable {a b : Source} (same : a.signals = b.signals)

include same

theorem size_alike : a.size = b.size := by
  rw [← Source.countP_signals, ← Source.countP_signals, same]

theorem decode_alike :
    (decode a).1 = (decode b).1 ∧ (decode a).2.signals = (decode b).2.signals := by
  have follows := Reader.follow_signals {} a
  rw [same, Reader.follow_signals, Prod.mk.injEq] at follows
  obtain ⟨verdict, left⟩ := follows
  constructor
  · rw [decode_outcome, decode_outcome, readDocument, readDocument, verdict]
  · exact left.symm

theorem decodes_alike (calls : Nat) :
    (decodes calls a).map (fun result => (result.1, result.2.size)) =
      (decodes calls b).map fun result => (result.1, result.2.size) := by
  induction calls generalizing a b with
  | zero => rfl
  | succ calls ih =>
      obtain ⟨outcome, left⟩ := decode_alike same
      rw [decodes, decodes, List.map_cons, List.map_cons, outcome, size_alike left, ih left]

end Alike

theorem told_counted (calls : Nat) (source : Source) : told calls source =
    ((decodes calls source).map fun result => (result.1, result.2.size)).map
      fun result => (result.1, source.size - result.2) := by
  rw [told, List.map_map]
  rfl

/-- **Sources with the same signals cannot be told apart.** -/
theorem told_alike {a b : Source} (same : a.signals = b.signals) (calls : Nat) :
    told calls a = told calls b := by
  rw [told_counted, told_counted, decodes_alike same, size_alike same]

/-! ## An end before the document -/

section Late

variable {b : UInt8} (visible : isBlank b = false) (value : b ≠ ascii 'n')

include visible value

theorem Reader.follow_ended (rest : List Signal) :
    Reader.follow {} (.ended :: .byte b :: rest) = Reader.follow {} (.byte b :: rest) := by
  have asks : Reader.heed {} .ended = .more ⟨{}, .asking (.value .root) []⟩ := rfl
  have again : Reader.heed ⟨{}, .asking (.value .root) []⟩ (.byte b) =
      Reader.heed {} (.byte b) := by
    simp [heed, take, Phase.passes, visible, stepAgain, value, step]
  rw [follow_cons, asks, followOn, follow_cons, again, ← follow_cons]

/-- **An end just before a document cannot be told**, unless the document is null: its
reader asks again, and reads on as if there had been none. -/
theorem told_ended {source : Source} {rest : List Signal}
    (begins : source.signals = .byte b :: rest) (calls : Nat) :
    told calls (.ended :: source) = told calls source := by
  have late : Source.signals (.ended :: source) = .ended :: .byte b :: rest := by
    rw [Source.signals_cons, begins]
    rfl
  have follows := Reader.follow_signals {} (.ended :: source)
  rw [late, Reader.follow_ended visible value, ← begins, Reader.follow_signals,
    Prod.mk.injEq] at follows
  obtain ⟨verdict, left⟩ := follows
  have outcome : (decode (.ended :: source)).1 = (decode source).1 := by
    rw [decode_outcome, decode_outcome, readDocument, readDocument, verdict]
  have left : (decode (.ended :: source)).2.signals = (decode source).2.signals := left.symm
  have size : Source.size (.ended :: source) = source.size := rfl
  rw [told_counted, told_counted, size]
  cases calls with
  | zero => rfl
  | succ calls =>
      simp only [decodes, List.map_cons, outcome, size_alike left, decodes_alike left]

end Late

/-! ## Cutting and joining -/

/-- One source is cut into more pieces than another, or is held up more often. -/
inductive Source.Recut : Source → Source → Prop where
  | split (before : Source) (front back : Bytes) (after : Source) :
      Recut (before ++ .data (front ++ back) :: after)
        (before ++ .data front :: .data back :: after)
  | empty (before after : Source) : Recut (before ++ after) (before ++ .data [] :: after)
  | interrupted (before : Source) {failure : ReadFailure} (soft : failure.kind = .interrupted)
      (after : Source) : Recut (before ++ after) (before ++ .failure failure :: after)

namespace Source

theorem Recut.signals {a b : Source} (recut : Recut a b) : a.signals = b.signals := by
  cases recut with
  | split before front back after =>
      simp only [signals_append, signals_cons, Delivery.signals, List.map_append,
        List.append_assoc]
  | empty before after =>
      rw [signals_append, signals_append, signals_cons]
      rfl
  | interrupted before soft after =>
      rw [signals_append, signals_append, signals_cons, Delivery.signals_interrupted soft]
      rfl

theorem Recut.cons {a b : Source} (recut : Recut a b) (delivery : Delivery) :
    Recut (delivery :: a) (delivery :: b) := by
  cases recut with
  | split before front back after => exact .split (delivery :: before) front back after
  | empty before after => exact .empty (delivery :: before) after
  | interrupted before soft after => exact .interrupted (delivery :: before) soft after

theorem recut_cons {a b : Source} (recut : Relation.EqvGen Recut a b) (delivery : Delivery) :
    Relation.EqvGen Recut (delivery :: a) (delivery :: b) := by
  induction recut with
  | rel a b recut => exact .rel _ _ (recut.cons delivery)
  | refl a => exact .refl _
  | symm a b _ ih => exact .symm _ _ ih
  | trans a b c _ _ first second => exact .trans _ _ _ first second

end Source

/-- The one delivery that makes a signal. -/
def Signal.delivery : Signal → Delivery
  | .byte b => .data [b]
  | .failure f => .failure f
  | .ended => .ended

namespace Source

theorem recut_bytes (bytes : Bytes) (rest : Source) :
    Relation.EqvGen Recut (.data bytes :: rest)
      ((bytes.map Signal.byte).map Signal.delivery ++ rest) := by
  induction bytes with
  | nil => exact .symm _ _ (.rel _ _ (.empty [] rest))
  | cons b more ih =>
      exact .trans _ _ _ (.rel _ _ (.split [] [b] more rest)) (recut_cons ih _)

/-- Every source comes of the one that makes its signals one by one. -/
theorem recut_signals (source : Source) :
    Relation.EqvGen Recut source (source.signals.map Signal.delivery) := by
  induction source with
  | nil => exact .refl _
  | cons delivery rest ih =>
      rw [signals_cons, List.map_append]
      apply Relation.EqvGen.trans _ _ _ (recut_cons ih delivery)
      cases delivery with
      | data bytes => exact recut_bytes bytes _
      | ended => exact .refl _
      | failure failure =>
          by_cases soft : failure.kind = .interrupted
          · rw [Delivery.signals_interrupted soft]
            exact .symm _ _ (.rel _ _ (.interrupted [] soft _))
          · rw [Delivery.signals_failure soft]
            exact .refl _

/-- **The sources with the same signals are those cut in another way.** -/
theorem recut_iff {a b : Source} : Relation.EqvGen Recut a b ↔ a.signals = b.signals := by
  constructor
  · intro recut
    induction recut with
    | rel a b recut => exact recut.signals
    | refl a => rfl
    | symm a b _ ih => exact ih.symm
    | trans a b c _ _ first second => exact first.trans second
  · intro same
    have canonical := recut_signals b
    rw [← same] at canonical
    exact .trans _ _ _ (recut_signals a) (.symm _ _ canonical)

/-! ## Sources that never stop -/

/-- Nothing but data and interrupted reads. -/
def Steady (source : Source) : Prop :=
  ∀ delivery ∈ source, (∃ bytes, delivery = .data bytes) ∨
    ∃ failure, delivery = .failure failure ∧ failure.kind = .interrupted

theorem Steady.signals {source : Source} (steady : source.Steady) :
    source.signals = (ofBytes source.contents).signals := by
  have one (bytes : Bytes) : (ofBytes bytes).signals = bytes.map .byte := List.append_nil _
  rw [one]
  induction source with
  | nil => rfl
  | cons delivery rest ih =>
      have later := ih fun other member => steady other (List.mem_cons_of_mem delivery member)
      rw [signals_cons, later]
      rcases steady delivery List.mem_cons_self with ⟨bytes, rfl⟩ | ⟨failure, rfl, soft⟩
      · rw [contents, List.map_append]
        rfl
      · rw [Delivery.signals_interrupted soft]
        rfl

end Source

/-- **How a source is cut into pieces cannot be told**, nor where it is interrupted,
however often it is decoded from: what a caller is told depends on the signals alone,
which are kept exactly by cutting and joining.  A source of data and interruptions
alone is as good as its bytes in one piece. -/
theorem cutting_is_invisible :
    (∀ a b : Source, a.signals = b.signals → ∀ calls, told calls a = told calls b) ∧
      (∀ a b : Source, Relation.EqvGen Source.Recut a b ↔ a.signals = b.signals) ∧
      ∀ source : Source, source.Steady →
        ∀ calls, told calls source = told calls (.ofBytes source.contents) := by
  refine ⟨?_, ?_, ?_⟩
  · intro a b same calls
    exact told_alike same calls
  · intro a b
    exact Source.recut_iff
  · intro source steady calls
    exact told_alike steady.signals calls

/-- A document with a letter of two bytes and an escape, before a read that fails. -/
def Source.inOnePiece : Source :=
  [.data (Utf8.encode
      "\x7b\"networkConfig\":\x7b\"namespace\":\"é\\u0041\",\"port\":12\x7d\x7d"),
    .failure ⟨.timedOut, "late"⟩]

/-- The same, cut within the letter and within the escape, and interrupted there. -/
def Source.heldUp : Source :=
  [.data (Utf8.encode "\x7b\"networkConfig\":\x7b\"namespace\":\""), .data [0xC3],
    .failure ⟨.interrupted, ""⟩, .data [0xA9], .data (Utf8.encode "\\u0"), .data [],
    .failure ⟨.interrupted, "again"⟩, .data (Utf8.encode "041\",\"port\":12\x7d\x7d"),
    .failure ⟨.timedOut, "late"⟩]

/-- A source that reports two ends on the way, one before the document and one after the
number in it. -/
def Source.resumed : Source :=
  [.ended, .data (Utf8.encode "\x7b\"networkConfig\":\x7b\"port\":12"), .ended,
    .data (Utf8.encode "\x7d\x7d")]

/-- The same, cut and interrupted around the ends. -/
def Source.resumedHeldUp : Source :=
  [.failure ⟨.interrupted, ""⟩, .ended, .data [],
    .data (Utf8.encode "\x7b\"networkConfig\":\x7b\"po"), .data (Utf8.encode "rt\":12"),
    .failure ⟨.interrupted, "again"⟩, .ended, .data (Utf8.encode "\x7d"), .data (Utf8.encode "\x7d")]

/-- Both give the configuration and then the failure, after as many bytes.  An end is
told as well, but it ends the document only where its reader does not ask again. -/
theorem cutting_is_invisible_heldUp :
    Source.heldUp.signals = Source.inOnePiece.signals ∧
      told 2 Source.heldUp = told 2 Source.inOnePiece ∧
      told 2 Source.heldUp =
        [(.ok { network := { scope := "éA", port := 12 } }, 52),
          (.error (.decoding (.unreadable ⟨.unreadable ⟨.timedOut, "late"⟩, none⟩) {}), 52)] ∧
      told 1 [.data [0x7B], .failure ⟨.interrupted, ""⟩, .data [0x7D]] = [(.ok {}, 2)] ∧
      told 2 Source.resumedHeldUp = told 2 Source.resumed ∧
      told 2 Source.resumedHeldUp =
        [(.ok { network := { port := 12 } }, 29),
          (.error (.decoding (.unreadable ⟨.truncated .value, some ⟨1, 0⟩⟩) {}), 29)] ∧
      told 1 [.ended, .data [0x7B, 0x7D]] = [(.ok {}, 2)] ∧
      (told 1 [.data [0x31, 0x32], .ended, .data [0x33, 0x20]]).map Prod.snd = [3] := by
  obtain ⟨alike, -, steady⟩ := cutting_is_invisible
  have same : Source.heldUp.signals = Source.inOnePiece.signals := by decide +kernel
  have resumed : Source.resumedHeldUp.signals = Source.resumed.signals := by decide +kernel
  refine ⟨same, alike _ _ same 2, by decide +kernel, ?_, alike _ _ resumed 2, by decide +kernel,
    by decide +kernel, by decide +kernel⟩
  rw [steady]
  · decide +kernel
  · intro delivery member
    simp only [List.mem_cons, List.not_mem_nil, or_false] at member
    rcases member with rfl | rfl | rfl
    · exact .inl ⟨_, rfl⟩
    · exact .inr ⟨_, rfl, rfl⟩
    · exact .inl ⟨_, rfl⟩

end NodeSettings
