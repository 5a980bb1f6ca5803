/-
# NodeSettings.Proofs.Calls -- what was recorded steers nothing

A recorder is asked for objects, for settings and for lists of topics, in any order and
with any arguments (`Call`).  What a call answers is told by its arguments alone
(`Call.answer`), and so are the conversions it tries, one of them or one for each element
of a list (`Call.conversions`).

A call reports its answer and the conversions that fail (`Call.reports`); calls one after
the other report their answers in order and the failures in order (`Reports.mapM`).  So
what was recorded before has no part in any answer, it stays for good, and where nothing
was recorded the first conversion that fails is (`calls_unsteered`).
-/
import NodeSettings.Proofs.Recording

namespace NodeSettings.Recorder

set_option autoImplicit false

/-! ## Calls and what they come to -/

section Calls

variable {Kind : Type} {Value : Kind → Type}

/-- What a recorder is asked for.  A setting is of some kind, by which its conversion
gives values of one type or another. -/
inductive Call (Value : Kind → Type) where
  | object (item : Item) (value : Option Json)
  | setting (kind : Kind) (convert : Json → Option (Value kind)) (item : Item)
      (value : Option Json)
  | topics (value : Option Json)

inductive Answer (Value : Kind → Type) where
  | object (members : Option (List (String × Json)))
  | setting (kind : Kind) (value : Option (Value kind))
  | topics (topics : Option (List String))

/-- One conversion: of the value at an item, by the values it takes. -/
structure Conversion where
  item : Item
  value : Option Json
  takes : Json → Bool

/-- A conversion fails at a value that it does not take, unless that is null. -/
def Conversion.failure? (c : Conversion) : Option Mismatch :=
  refused? c.item c.takes c.value

namespace Call

def make : Call Value → Recorder (Answer Value)
  | object item value => do
      let members ← Recorder.object item value
      pure (.object members)
  | setting kind convert item value => do
      let converted ← Recorder.setting convert item value
      pure (.setting kind converted)
  | topics value => do
      let topics ← Recorder.topics value
      pure (.topics topics)

/-- What a call gives, by its arguments. -/
def answer : Call Value → Answer Value
  | object _ value => .object (value.bind members?)
  | setting kind convert _ value => .setting kind (value.bind convert)
  | topics value => .topics (value.bind topicList?)

/-- What a call tries to convert, in this order.  Of a list it is the elements, one by one;
nothing else is taken for a list. -/
def conversions : Call Value → List Conversion
  | object item value => [⟨item, value, fun v => (members? v).isSome⟩]
  | setting _ convert item value => [⟨item, value, fun v => (convert v).isSome⟩]
  | topics (some (.array values)) =>
      (List.range values.length).map fun i => ⟨.topic i, values[i]?, fun v => v.text?.isSome⟩
  | topics value => [⟨.setting .topics, value, fun _ => false⟩]

end Call

/-! ## What they report -/

theorem filterMap_one (c : Conversion) :
    [c].filterMap Conversion.failure? = c.failure?.toList := by
  cases failed : c.failure? <;> simp [failed]

/-- **A call answers by its arguments, and reports the conversions that fail.** -/
theorem Call.reports (call : Call Value) :
    Reports call.make call.answer (call.conversions.filterMap Conversion.failure?) := by
  cases call with
  | object item value =>
      have report := conversion_reports members? item value
      rw [← object_eq_setting] at report
      exact (report.map Answer.object).congr (filterMap_one ⟨item, value, _⟩).symm
  | setting kind convert item value =>
      have report := conversion_reports convert item value
      exact (report.map (Answer.setting kind)).congr (filterMap_one ⟨item, value, _⟩).symm
  | topics value =>
      refine ((topics_reports value).map Answer.topics).congr ?_
      match value with
      | some (.array values) =>
          -- A topic wants a string, so the conversions fail where its item is mistyped.
          have takes : Wanted.string.admits = fun v => v.text?.isSome := funext admits_string
          have same := topicMismatches_eq 0 values
          simp only [Nat.zero_add] at same
          rw [conversions, List.filterMap_map, ← takes]
          exact same
      | none | some .null | some .unit | some (.bool _) | some (.number _) | some (.string _)
      | some (.object _) => rfl

end Calls

/-- Computations one after the other report what each of them does, in their order. -/
theorem Reports.mapM {α β : Type} {f : α → Recorder β} {g : α → β} {h : α → List Mismatch}
    (each : ∀ a, Reports (f a) (g a) (h a)) (as : List α) :
    Reports (as.mapM f) (as.map g) (as.flatMap h) := by
  induction as with
  | nil => exact Reports.pure []
  | cons a rest ih =>
      rw [List.mapM_cons, List.map_cons, List.flatMap_cons]
      exact (each a).bind (ih.map (g a :: ·))

/-- **What was recorded before steers nothing.**  Whatever a recorder is asked for, every
call gives the same answer; and afterwards what was recorded before still is, or else the
first conversion that failed, in the order of the calls and of the elements in a list.
The same goes for a whole document, where it depends on answers what is asked for next. -/
theorem calls_unsteered {Kind : Type} {Value : Kind → Type} (calls : List (Call Value))
    (first : Option Mismatch) :
    (calls.mapM Call.make).run first =
        (calls.map Call.answer,
          first.or ((calls.flatMap Call.conversions).findSome? Conversion.failure?)) ∧
      ∀ root, (document root).run first = ((interpret root).1, first.or (interpret root).2) := by
  constructor
  · have report := Reports.mapM Call.reports calls
    rw [report first, ← List.head?_filterMap, List.filterMap_flatMap]
  · intro root
    rw [document_reports root first, interpret_eq]

end NodeSettings.Recorder
