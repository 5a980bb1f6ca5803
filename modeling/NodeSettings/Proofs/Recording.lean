/-
# NodeSettings.Proofs.Recording -- what each step of the interpretation records

A recorder computation gives a value and comes upon mismatches, neither of which
depends on what was recorded before (`Recorder.Reports`).  Reports compose
(`Reports.bind`), so each step of the interpretation has one report, and the
report of the whole is that of its steps one after the other.

The value of the whole is the configuration read off the document item by item
(`Json.config`), and what it comes upon are the mismatches of the document in the
order of its items: `interpret_eq`.  So a document that was read comes to its
configuration, with the first mismatch if there is one (`outcomeOf_document`).
-/
import NodeSettings.Load
import NodeSettings.Proofs.Items

namespace NodeSettings

set_option autoImplicit false

namespace Recorder

variable {α β : Type}

/-- Whatever was recorded before, `r` gives `value`, and of what was recorded and
what it comes upon the first stays. -/
def Reports (r : Recorder α) (value : α) (found : List Mismatch) : Prop :=
  ∀ first, r.run first = (value, first.or found.head?)

namespace Reports

theorem pure (value : α) : Reports (pure value) value [] := by
  intro first
  show (value, first) = (value, first.or none)
  rw [Option.or_none]

theorem bind {r : Recorder α} {f : α → Recorder β} {a : α} {b : β} {ms ns : List Mismatch}
    (hr : Reports r a ms) (hf : Reports (f a) b ns) : Reports (r >>= f) b (ms ++ ns) := by
  intro first
  have step : (r >>= f).run first = (f a).run (first.or ms.head?) := by
    rw [StateT.run_bind, hr first]
    rfl
  rw [step, hf, List.head?_append, Option.or_assoc]

theorem congr {r : Recorder α} {value : α} {ms ns : List Mismatch}
    (h : Reports r value ms) (same : ms = ns) : Reports r value ns :=
  same ▸ h

/-- A last step that only shapes the value. -/
theorem map {r : Recorder α} {a : α} {ms : List Mismatch} (hr : Reports r a ms) (f : α → β) :
    Reports (r >>= fun a => Pure.pure (f a)) (f a) ms :=
  (hr.bind (pure (f a))).congr (List.append_nil ms)

end Reports

theorem record_reports (m : Mismatch) : Reports (record m) () [m] := by
  intro first
  cases first <;> rfl

theorem refuse_reports (item : Item) (value : Json) :
    Reports (refuse item value) () ((Found.of? value).map fun found => ⟨item, found⟩).toList := by
  cases found : Found.of? value with
  | none => simpa [refuse, found] using Reports.pure ()
  | some f => simpa [refuse, found] using record_reports ⟨item, f⟩

/-! ## One item -/

/-- What is wrong at an item where only what `fits` is taken. -/
def refused? (item : Item) (fits : Json → Bool) (value : Option Json) : Option Mismatch :=
  value.bind fun v => if fits v then none else (Found.of? v).map fun found => ⟨item, found⟩

/-- **A value is converted, or else refused**, by whatever conversion. -/
theorem conversion_reports (convert : Json → Option α) (item : Item) (value : Option Json) :
    Reports (setting convert item value) (value.bind convert)
      (refused? item (fun v => (convert v).isSome) value).toList := by
  cases value with
  | none => exact Reports.pure none
  | some v =>
      cases converted : convert v with
      | some a => simpa [setting, refused?, converted] using Reports.pure (some a)
      | none =>
          have report := (refuse_reports item v).map fun _ => (none : Option α)
          simpa [setting, refused?, converted] using report

/-- A conversion that takes what its item wants. -/
theorem setting_reports (convert : Json → Option α) (item : Item)
    (fits : ∀ value, item.wanted.admits value = (convert value).isSome) (value : Option Json) :
    Reports (setting convert item value) (value.bind convert) (item.mismatch? value).toList := by
  have same : item.mismatch? value = refused? item (fun v => (convert v).isSome) value :=
    congrArg (refused? item · value) (funext fits)
  rw [same]
  exact conversion_reports convert item value

/-- The members of an object. -/
def members? : Json → Option (List (String × Json))
  | .object members => some members
  | _ => none

theorem object_eq_setting (item : Item) (value : Option Json) :
    object item value = setting members? item value := by
  cases value with
  | none => rfl
  | some v => cases v <;> rfl

theorem object_reports (item : Item) (wanted : item.wanted = .object) (value : Option Json) :
    Reports (object item value) (value.bind members?) (item.mismatch? value).toList := by
  have fits (v : Json) : item.wanted.admits v = (members? v).isSome := by
    rw [wanted]
    cases v <;> rfl
  rw [object_eq_setting]
  exact setting_reports members? item fits value

theorem admits_string (value : Json) :
    Wanted.admits .string value = value.text?.isSome := by
  cases value <;> rfl

theorem admits_integer (value : Json) :
    Wanted.admits .integer value = value.int64?.isSome := by
  cases value <;> rfl

/-! ## Topics -/

/-- The topic an element stands for. -/
def topicOf (value : Json) : String :=
  value.text?.getD ""

/-- The mismatches of the elements of a list, the first of which is topic
`start`. -/
def topicMismatches (start : Nat) : List Json → List Mismatch
  | [] => []
  | value :: rest =>
      ((Item.topic start).mismatch? (some value)).toList ++ topicMismatches (start + 1) rest

theorem topicsFrom_reports (start : Nat) (values : List Json) :
    Reports (topicsFrom start values) (values.map topicOf) (topicMismatches start values) := by
  induction values generalizing start with
  | nil => exact Reports.pure []
  | cons value rest ih =>
      have head := setting_reports Json.text? (.topic start) admits_string (some value)
      exact head.bind ((ih (start + 1)).map fun others => topicOf value :: others)

theorem topicMismatches_eq (start : Nat) (values : List Json) :
    topicMismatches start values =
      (List.range values.length).filterMap fun i =>
        (Item.topic (start + i)).mismatch? values[i]? := by
  induction values generalizing start with
  | nil => rfl
  | cons value rest ih =>
      have later : (List.range rest.length).filterMap
          ((fun i => (Item.topic (start + i)).mismatch? (value :: rest)[i]?) ∘ Nat.succ) =
            (List.range rest.length).filterMap fun i =>
              (Item.topic (start + 1 + i)).mismatch? rest[i]? := by
        refine congrArg (List.filterMap · _) (funext fun i => ?_)
        rw [Nat.add_right_comm start 1 i]
        rfl
      rw [topicMismatches, ih, List.length_cons, List.range_succ_eq_map, List.filterMap_cons,
        List.filterMap_map, later]
      cases wrong : (Item.topic start).mismatch? (some value) <;> simp [wrong]

def topicList? : Json → Option (List String)
  | .array values => some (values.map topicOf)
  | _ => none

def elementMismatches : Json → List Mismatch
  | .array values => topicMismatches 0 values
  | _ => []

/-- What is wrong with a list of topics: that it is none, or some of its
elements. -/
def topicsMismatches (value : Option Json) : List Mismatch :=
  ((Item.setting .topics).mismatch? value).toList ++ value.elim [] elementMismatches

theorem topics_reports (value : Option Json) :
    Reports (topics value) (value.bind topicList?) (topicsMismatches value) := by
  match value with
  | none => exact Reports.pure none
  | some (.array values) =>
      exact (topicsFrom_reports 0 values).map some
  | some .null | some .unit | some (.bool _) | some (.number _) | some (.string _)
  | some (.object _) => exact (refuse_reports (.setting .topics) _).map fun _ => none

end Recorder

/-! ## The whole -/

namespace Json

/-- The settings a network section gives, if it is there: what is not there or of
the wrong kind leaves the default. -/
def networkOf (value : Option Json) : Network where
  scope := ((value.bind (member? Setting.scope.key)).bind text?).getD Network.defaultScope
  topics := ((value.bind (member? Setting.topics.key)).bind Recorder.topicList?).getD []
  maxPeers :=
    ((value.bind (member? Setting.maxPeers.key)).bind int64?).getD Network.defaultMaxPeers
  port := ((value.bind (member? Setting.port.key)).bind int64?).getD Network.defaultPort

/-- The configuration a document gives, item by item. -/
def config (root : Json) : Config where
  network := networkOf (root.at? (.part .network))

end Json

namespace Recorder

theorem network_reports (members : List (String × Json)) :
    Reports (network members)
      { scope := (members.lookup Setting.scope.key).bind Json.text?
        topics := (members.lookup Setting.topics.key).bind topicList?
        maxPeers := (members.lookup Setting.maxPeers.key).bind Json.int64?
        port := (members.lookup Setting.port.key).bind Json.int64? }
      (((Item.setting .scope).mismatch? (members.lookup Setting.scope.key)).toList ++
        (topicsMismatches (members.lookup Setting.topics.key) ++
          (((Item.setting .maxPeers).mismatch? (members.lookup Setting.maxPeers.key)).toList ++
            ((Item.setting .port).mismatch? (members.lookup Setting.port.key)).toList))) :=
  (setting_reports Json.text? (.setting .scope) admits_string _).bind
    ((topics_reports _).bind
      ((setting_reports Json.int64? (.setting .maxPeers) admits_integer _).bind
        ((setting_reports Json.int64? (.setting .port) admits_integer _).map _)))

/-- The network settings of a section whose members were found, or were not. -/
def resolved : Option (List (String × Json)) → Recorder Network
  | none => pure {}
  | some members => network members >>= fun given => pure given.resolve

theorem resolved_reports (value : Option Json) :
    Reports (resolved (value.bind members?)) (Json.networkOf value)
      (((Item.setting .scope).mismatch? (value.bind (Json.member? Setting.scope.key))).toList ++
        (topicsMismatches (value.bind (Json.member? Setting.topics.key)) ++
          (((Item.setting .maxPeers).mismatch?
              (value.bind (Json.member? Setting.maxPeers.key))).toList ++
            ((Item.setting .port).mismatch?
              (value.bind (Json.member? Setting.port.key))).toList))) := by
  match value with
  | some (.object members) => exact (network_reports members).map GivenNetwork.resolve
  | none | some .null | some .unit | some (.bool _) | some (.number _) | some (.string _)
  | some (.array _) => exact Reports.pure ({} : Network)

/-- The mismatches of a document, one place after the other. -/
theorem mismatches_eq (root : Json) :
    root.mismatches =
      (Item.root.mismatch? (some root)).toList ++
        (((Item.part .execution).mismatch? (root.at? (.part .execution))).toList ++
          (((Item.part .network).mismatch? (root.at? (.part .network))).toList ++
            ((((Item.setting .scope).mismatch? (root.setting? .scope)).toList ++
              (topicsMismatches (root.setting? .topics) ++
                (((Item.setting .maxPeers).mismatch? (root.setting? .maxPeers)).toList ++
                  ((Item.setting .port).mismatch? (root.setting? .port)).toList))) ++
              ((Item.part .storage).mismatch? (root.at? (.part .storage))).toList))) := by
  have cons (item : Item) (rest : List Item) :
      ((item :: rest).filterMap fun item => item.mismatch? (root.at? item)) =
        (item.mismatch? (root.at? item)).toList ++
          rest.filterMap fun item => item.mismatch? (root.at? item) := by
    rw [List.filterMap_cons]
    cases item.mismatch? (root.at? item) <;> rfl
  have topics : ((Json.topicItems ((root.setting? .topics).elim 0 Json.elementCount)).filterMap
      fun item => item.mismatch? (root.at? item)) =
        (root.setting? .topics).elim [] elementMismatches := by
    rw [Json.topicItems, List.filterMap_map]
    cases listed : root.setting? .topics with
    | none => rfl
    | some list =>
        cases list with
        | array values =>
            rw [Option.elim_some, Option.elim_some, elementMismatches, topicMismatches_eq]
            refine congrArg (List.filterMap · _) (funext fun i => ?_)
            simp [Json.at?, listed, Json.element?]
        | _ => rfl
  simp only [Json.mismatches, Json.items, List.filterMap_append, cons, topics,
    List.filterMap_nil, topicsMismatches, List.append_assoc, List.append_nil]
  rfl

theorem sections_eq (members : List (String × Json)) :
    sections members =
      object (.part .execution) (members.lookup Section.execution.key) >>= fun _ =>
        object (.part .network) (members.lookup Section.network.key) >>= fun found =>
          resolved found >>= fun network =>
            object (.part .storage) (members.lookup Section.storage.key) >>= fun _ =>
              pure { network } := by
  simp only [sections]
  congr
  funext _
  congr
  funext found
  cases found with
  | none => rfl
  | some members => simp only [resolved, bind_assoc, pure_bind]

theorem sections_reports (members : List (String × Json)) :
    Reports (sections members) (Json.config (.object members))
      (Json.mismatches (.object members)) := by
  rw [sections_eq, mismatches_eq]
  exact (object_reports (.part .execution) rfl _).bind
    ((object_reports (.part .network) rfl _).bind
      ((resolved_reports _).bind ((object_reports (.part .storage) rfl _).map _)))

theorem document_of_unfit {root : Json} (unfit : Item.root.wanted.admits root = false) :
    document root = refuse .root root >>= fun _ => pure {} := by
  cases root with
  | object members => cases unfit
  | _ => rfl

theorem document_reports (root : Json) :
    Reports (document root) root.config root.mismatches := by
  cases unfit : Item.root.wanted.admits root with
  | true =>
      match root with
      | .object members => exact sections_reports members
  | false =>
      rw [document_of_unfit unfit, mismatches_eq]
      have report := (refuse_reports .root root).map fun _ => ({} : Config)
      match root with
      | .null | .unit | .bool _ | .number _ | .string _ | .array _ => exact report

end Recorder

/-- **A document is read item by item**: the configuration is what its items give,
and the mismatch reported is the first in the order of the items. -/
theorem interpret_eq (root : Json) : interpret root = (root.config, root.mismatches.head?) := by
  rw [interpret, Recorder.document_reports root none, Option.none_or]

theorem outcomeOf_document (root : Json) :
    outcomeOf (.ok root) =
      match root.mismatches.head? with
      | none => .ok root.config
      | some m => .error (.decoding (.mistyped m) root.config) := by
  rw [outcomeOf, interpret_eq]
  cases root.mismatches.head? <;> rfl

theorem decode_outcome (source : Source) : (decode source).1 = outcomeOf (readDocument source).1 :=
  rfl

theorem decode_config {source : Source} {root : Json}
    (read : (readDocument source).1 = .ok root) : (decode source).1.config = root.config := by
  rw [decode_outcome, read, outcomeOf_document]
  cases root.mismatches.head? <;> rfl

end NodeSettings
