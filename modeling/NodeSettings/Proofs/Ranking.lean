/-
# NodeSettings.Proofs.Ranking -- the mismatch that is reported is the least

A document that is read gives a configuration without reservation exactly if none
of its items is mistyped.  Otherwise the error is about the least of the mistyped
items, in the order of the items and not of the text, and says what stands there
(`decode_least`).
-/
import NodeSettings.Proofs.Messages
import NodeSettings.Proofs.Recording
import NodeSettings.Proofs.Sources
import NodeSettings.Proofs.Written.Items

namespace NodeSettings

open Text

set_option autoImplicit false

/-- What a text about an item begins with. -/
def Item.lead : Item → String
  | .root => ""
  | .part .execution => "executionConfig: "
  | .part .network => "networkConfig: "
  | .part .storage => "storageConfig: "
  | .setting .scope => "networkConfig.namespace: "
  | .setting .topics => "networkConfig.topics: "
  | .setting .maxPeers => "networkConfig.maxPeers: "
  | .setting .port => "networkConfig.port: "
  | .topic i => "networkConfig.topics[" ++ toString i ++ "]: "

/-- A mismatch is the one to report about a document. -/
structure Document.Reports (doc : Document) (m : Mismatch) : Prop where
  mistyped : doc.Mistyped m.item
  least : ∀ item, doc.Mistyped item → item ≠ m.item → m.item.Precedes item
  found : (doc.at? m.item).bind Document.found? = some m.found
  /-- Its text begins with the path of the item; the root has none. -/
  text : m.text = m.item.lead ++ m.what

namespace Mismatch

theorem lead_of_path {item : Item} (path : String) (named : item.path? = some path)
    (leads : item.lead = path ++ ": ") :
    item.lead = item.path?.elim "" fun path => path ++ ": " := by
  rw [named, Option.elim_some, leads]

/-- The lead is the path, if there is one, and a colon. -/
theorem lead_eq : (item : Item) →
    item.lead = item.path?.elim "" fun path => path ++ ": "
  | .root => rfl
  | .part .execution => lead_of_path "executionConfig" rfl rfl
  | .part .network => lead_of_path "networkConfig" rfl rfl
  | .part .storage => lead_of_path "storageConfig" rfl rfl
  | .setting .scope => lead_of_path "networkConfig.namespace" rfl rfl
  | .setting .topics => lead_of_path "networkConfig.topics" rfl rfl
  | .setting .maxPeers => lead_of_path "networkConfig.maxPeers" rfl rfl
  | .setting .port => lead_of_path "networkConfig.port" rfl rfl
  | .topic i => by
      have close : "]" ++ ": " = "]: " := rfl
      have lead : (Item.topic i).lead = "networkConfig.topics[" ++ toString i ++ "]: " := rfl
      refine lead_of_path ("networkConfig.topics[" ++ toString i ++ "]") rfl ?_
      simp only [lead, String.append_assoc, close]

theorem text_of_lead (m : Mismatch) : m.text = m.item.lead ++ m.what := by
  rw [lead_eq, text_eq, message]
  cases m.item.path? with
  | none => exact String.empty_append.symm
  | some path => rfl

end Mismatch

theorem Json.found_of_head {root : Json} {m : Mismatch}
    (first : root.mismatches.head? = some m) :
    ∃ value, root.at? m.item = some value ∧ Found.of? value = some m.found := by
  have member : m ∈ root.mismatches := List.mem_of_mem_head? first
  obtain ⟨-, value, stands, -, found⟩ := Item.mismatch?_eq_some.mp (Json.mem_mismatches.mp member)
  exact ⟨value, stands, found⟩

theorem Document.reports_head {doc : Document} {root : Json} (read : doc.ReadAs .root 0 root)
    {m : Mismatch} (first : root.mismatches.head? = some m) : doc.Reports m := by
  obtain ⟨wrong, least⟩ := Json.head_mismatches_least first
  obtain ⟨value, stands, found⟩ := Json.found_of_head first
  refine ⟨(mistyped_iff read m.item).mp wrong, ?_, ?_, m.text_of_lead⟩
  · intro item mistyped other
    exact least item ((mistyped_iff read item).mpr mistyped) other
  · have rel := at?_rel read m.item
    rw [stands] at rel
    generalize doc.at? m.item = there at rel
    cases rel with
    | some read =>
        rw [Option.bind_some, ← read.found? m.item.slot_kept]
        exact found

theorem Document.mismatches_eq_nil {doc : Document} {root : Json}
    (read : doc.ReadAs .root 0 root) :
    root.mismatches = [] ↔ ∀ item, ¬ doc.Mistyped item := by
  rw [Json.mismatches_eq_nil]
  apply forall_congr'
  intro item
  exact not_congr (mistyped_iff read item)

/-- **The least mistyped item is reported, and nothing else.** -/
theorem decode_least {source : Source} {root : Json}
    (read : (readDocument source).1 = .ok root) :
    (source.Unresumed → ∃ doc : Document, source.Holds doc) ∧
      ∀ doc : Document, source.Holds doc →
        ((∃ config, (decode source).1 = .ok config) ↔ ∀ item, ¬ doc.Mistyped item) ∧
          ((∃ item, doc.Mistyped item) →
            ∃ m config, (decode source).1 = .error (.decoding (.mistyped m) config) ∧
              doc.Reports m) := by
  refine ⟨fun unresumed => exists_holds unresumed read, ?_⟩
  intro doc holds
  have readAs : doc.ReadAs .root 0 root := read_of_holds read holds
  have none_iff := Document.mismatches_eq_nil readAs
  rw [decode_outcome, read, outcomeOf_document, ← none_iff]
  cases first : root.mismatches.head? with
  | none =>
      have empty : root.mismatches = [] := List.head?_eq_none_iff.mp first
      constructor
      · exact ⟨fun _ => empty, fun _ => ⟨root.config, rfl⟩⟩
      · rintro ⟨item, mistyped⟩
        exact absurd mistyped (none_iff.mp empty item)
  | some m =>
      refine ⟨⟨?_, ?_⟩, fun _ => ⟨m, root.config, rfl, Document.reports_head readAs first⟩⟩
      · rintro ⟨config, same⟩
        cases same
      · intro empty
        rw [empty] at first
        cases first

/-- A port and a namespace that are both mistyped, the port standing first. -/
def Source.mistypedTwice : Source :=
  .ofBytes (Utf8.encode
    "\x7b\"networkConfig\":\x7b\"port\":\"7\",\"namespace\":1\x7d\x7d")

/-- The namespace is reported. -/
theorem decode_least_mistypedTwice :
    ∃ root, (readDocument Source.mistypedTwice).1 = .ok root ∧
      ∃ doc : Document, Source.mistypedTwice.Holds doc ∧
        doc.Reports ⟨.setting .scope, .number (.integer 1)⟩ := by
  have read : (readDocument Source.mistypedTwice).1 =
      .ok (.object [("networkConfig", .object
        [("port", .string "7"), ("namespace", .number (.integer 1))])]) := by
    rfl
  have error : (decode Source.mistypedTwice).1 =
      .error (.decoding (.mistyped ⟨.setting .scope, .number (.integer 1)⟩) {}) := by
    rfl
  obtain ⟨exists_doc, least⟩ := decode_least read
  obtain ⟨doc, holds⟩ := exists_doc (Source.ofBytes_unresumed _)
  obtain ⟨clean, reports⟩ := least doc holds
  have mistyped : ∃ item, doc.Mistyped item := by
    apply Classical.byContradiction
    intro none
    obtain ⟨config, ok⟩ := clean.mpr (not_exists.mp none)
    rw [error] at ok
    cases ok
  obtain ⟨m, config, same, reported⟩ := reports mistyped
  rw [error] at same
  cases same
  exact ⟨_, read, doc, holds, reported⟩

end NodeSettings
