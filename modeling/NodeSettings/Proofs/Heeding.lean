/-
# NodeSettings.Proofs.Heeding -- what is found and might as well not be there

Of what is found at an item some makes no difference: an object in place of the root
or of a section is what is wanted there and has no value of its own, and an empty
topic is what an element without a text comes to (`Item.heeds`).  So a document comes
to what its heeded findings and the number of its topics say (`decode_of_heeded`), and
null, an empty object and nothing at all are one where a section stands.
-/
import NodeSettings.Proofs.Findings

namespace NodeSettings

set_option autoImplicit false

/-- Whether what is found at an item makes a difference to the outcome. -/
def Item.heeds : Item → Found → Bool
  | root, .object => false
  | part _, .object => false
  | topic _, .string text => text ≠ ""
  | _, _ => true

namespace Json

/-- What is found at an item, if it makes a difference. -/
def heeded (root : Json) (item : Item) : Option Found :=
  (root.finding item).join.filter item.heeds

/-- What is wrong is heeded. -/
theorem heeds_of_unfit {item : Item} {found : Found}
    (unfit : Found.suits item.wanted found = false) : item.heeds found = true := by
  cases item with
  | root | part p => cases found <;> first | rfl | cases unfit
  | setting s => cases found <;> rfl
  | topic i => cases found <;> first | rfl | cases unfit

theorem unfit_heeded (item : Item) (found : Option Found) :
    found.filter (fun f => !Found.suits item.wanted f) =
      (found.filter item.heeds).filter fun f => !Found.suits item.wanted f := by
  cases found with
  | none => rfl
  | some f =>
      cases fits : Found.suits item.wanted f with
      | false => simp [Option.filter, fits, heeds_of_unfit fits]
      | true => cases heeds : item.heeds f <;> simp [Option.filter, fits, heeds]

theorem given_setting_heeded (root : Json) (s : Setting) :
    root.given (.setting s) =
      (root.heeded (.setting s)).filter (Found.suits (Item.setting s).wanted) := by
  rw [given, heeded]
  cases (root.finding (.setting s)).join with
  | none => rfl
  | some f => cases f <;> rfl

/-- The text of a topic, which is empty also where nothing is heeded. -/
theorem topicText_heeded (root : Json) (i : Nat) :
    ((root.given (.topic i)).bind Found.text?).getD "" =
      ((root.heeded (.topic i)).bind Found.text?).getD "" := by
  rw [given, heeded]
  cases (root.finding (.topic i)).join with
  | none => rfl
  | some f =>
      cases f with
      | string text =>
          by_cases empty : text = "" <;>
            simp [Option.filter, Item.wanted, Found.suits, Item.heeds, Found.text?, empty]
      | _ => rfl

section Congr

variable {a b : Json} (topics : ∀ i, (a.at? (.topic i)).isSome = (b.at? (.topic i)).isSome)
  (same : ∀ item, a.heeded item = b.heeded item)

include topics same

/-- **What a document comes to depends on what is heeded in it**, and on the number of
its topics. -/
theorem outcome_of_heeded : outcomeOf (.ok a) = outcomeOf (.ok b) := by
  have config : a.config = b.config :=
    config_of_settings (fun s => by rw [given_setting_heeded, same, ← given_setting_heeded])
      (topicCount_congr topics) fun i => by rw [topicText_heeded, same, ← topicText_heeded]
  have mismatches : a.mismatches = b.mismatches :=
    mismatches_of_unfit topics fun item => by
      rw [unfit_heeded, ← heeded, same, heeded, ← unfit_heeded]
  rw [outcomeOf_document, outcomeOf_document, mismatches, config]

end Congr

end Json

/-! ## Documents as they are written -/

namespace Document

/-- What stands at an item, null if nothing does. -/
def standing (doc : Document) (item : Item) : Document :=
  (doc.at? item).getD .null

def heeded (doc : Document) (item : Item) : Option Found :=
  (doc.standing item).found?.filter item.heeds

theorem heeded_of_read {doc : Document} {root : Json} (read : doc.ReadAs .root 0 root)
    (item : Item) : root.heeded item = doc.heeded item := by
  rw [Json.heeded, finding_of_read read, finding, heeded, standing]
  cases doc.at? item <;> rfl

end Document

theorem decode_of_heeded {source other : Source} {a b : Document} (gives : source.Gives a)
    (gives' : other.Gives b)
    (topics : ∀ i, (a.at? (.topic i)).isSome = (b.at? (.topic i)).isSome)
    (same : ∀ item, a.heeded item = b.heeded item) : (decode source).1 = (decode other).1 := by
  obtain ⟨⟨root, read⟩, holds⟩ := gives
  obtain ⟨⟨root', read'⟩, holds'⟩ := gives'
  have readAs := read_of_holds read holds
  have readAs' := read_of_holds read' holds'
  rw [decode_outcome, decode_outcome, read, read']
  apply Json.outcome_of_heeded
  · intro i
    rw [Json.isSome_at?, Json.isSome_at?, Document.finding_of_read readAs,
      Document.finding_of_read readAs', Document.finding, Document.finding, Option.isSome_map,
      Option.isSome_map, topics]
  · intro item
    rw [Document.heeded_of_read readAs, Document.heeded_of_read readAs', same]

end NodeSettings
