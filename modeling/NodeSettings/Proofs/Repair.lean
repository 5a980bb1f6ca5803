/-
# NodeSettings.Proofs.Repair -- repairing a document item by item

A document that is of the wrong kind at some items can be repaired one item after
the other: null is put in place of the item that is reported, and the document is
written again, in whatever way (`Source.Repaired`).

What a source *owes* is the mismatches that are still to be reported, in their
order, and the configuration it gives.  A repair settles the first of them and
nothing else (`Owes.repaired`), and as long as one is left there is a repair
(`Owes.onward`).  So the items are reported in their order, one for each repair,
under one configuration throughout (`repaired_in_order`).
-/
import NodeSettings.Proofs.Series
import NodeSettings.Proofs.Written.Clearing

namespace NodeSettings

set_option autoImplicit false

/-! ## Repairs -/

/-- The item that is reported of the wrong kind. -/
def Outcome.reported? : Outcome → Option Item
  | .error (.decoding (.mistyped m) _) => some m.item
  | _ => none

/-- The next source holds the same document with null in place of the item that is
reported. -/
def Source.Repaired (source next : Source) : Prop :=
  ∃ (doc : Document) (item : Item), source.Gives doc ∧
    (decode source).1.reported? = some item ∧ (doc.cleared item).Begins next.text

/-- So many repairs, one after the other. -/
inductive Repairs : Nat → Source → Source → Prop where
  | none (source : Source) : Repairs 0 source source
  | more {n : Nat} {source next last : Source} (first : source.Repaired next)
      (others : Repairs n next last) : Repairs (n + 1) source last

/-- A document that is mistyped somewhere is cleared to one that shows its own
end. -/
theorem Document.closed_cleared {doc : Document} {item : Item} (mistyped : doc.Mistyped item) :
    (doc.cleared item).Closed := by
  obtain ⟨value, stands, -, -⟩ := mistyped
  cases item with
  | root =>
      intro f same
      cases same
  | part _ | setting _ | topic _ =>
      intro f same
      cases doc with
      | number g => cases stands
      | _ => cases same

/-- The tree of a cleared document is the tree of the document with null at the
item. -/
theorem Document.settled_cleared {doc : Document} {item : Item} (mistyped : doc.Mistyped item)
    {root tree : Json} (read : doc.ReadAs .root 0 root)
    (read' : (doc.cleared item).ReadAs .root 0 tree) : Json.Settled root tree item where
  mistyped := (mistyped_iff read item).mpr mistyped
  settled := by
    obtain ⟨value, stands, -⟩ := mistyped
    rw [finding_of_read read', finding_cleared_self stands]
  others := by
    intro other distinct
    rw [finding_of_read read', finding_cleared_ne mistyped distinct, finding_of_read read]

/-! ## What is left to report -/

/-- The mismatches a source has, in their order, and the configuration it gives. -/
def Source.Owes (source : Source) (mismatches : List Mismatch) (config : Config) : Prop :=
  source.Unresumed ∧ ∃ root, (readDocument source).1 = .ok root ∧
    root.mismatches = mismatches ∧ root.config = config

namespace Source.Owes

variable {source next last : Source} {ms rest : List Mismatch} {m : Mismatch} {config : Config}

theorem outcome_nil (owes : source.Owes [] config) : (decode source).1 = .ok config := by
  obtain ⟨-, root, read, none, rfl⟩ := owes
  rw [decode_outcome, read, outcomeOf_document, none]
  rfl

theorem outcome_cons (owes : source.Owes (m :: rest) config) :
    (decode source).1 = .error (.decoding (.mistyped m) config) := by
  obtain ⟨-, root, read, first, rfl⟩ := owes
  rw [decode_outcome, read, outcomeOf_document, first]
  rfl

theorem config_eq (owes : source.Owes ms config) : (decode source).1.config = config := by
  cases ms with
  | nil => rw [owes.outcome_nil]; rfl
  | cons m rest => rw [owes.outcome_cons]; rfl

theorem reported? (owes : source.Owes ms config) :
    (decode source).1.reported? = ms.head?.map Mismatch.item := by
  cases ms with
  | nil => rw [owes.outcome_nil]; rfl
  | cons m rest => rw [owes.outcome_cons]; rfl

theorem ok_iff (owes : source.Owes ms config) : (decode source).1 = .ok config ↔ ms = [] := by
  cases ms with
  | nil => simp [owes.outcome_nil]
  | cons m rest => simp [owes.outcome_cons]

theorem gives (owes : source.Owes ms config) : ∃ doc : Document, source.Gives doc := by
  obtain ⟨unresumed, root, read, -⟩ := owes
  exact exists_gives unresumed read

/-- **A repair settles what is reported and nothing else.** -/
theorem repaired (owes : source.Owes ms config) (repaired : source.Repaired next) :
    ∃ m rest, ms = m :: rest ∧ next.Owes rest config := by
  obtain ⟨doc, item, gives, reported, begins⟩ := repaired
  rw [owes.reported?] at reported
  obtain ⟨m, first, rfl⟩ := Option.map_eq_some_iff.mp reported
  obtain ⟨rest, rfl⟩ := List.head?_eq_some_iff.mp first
  obtain ⟨-, root, read, mismatches, rfl⟩ := owes
  have readAs : doc.ReadAs .root 0 root := read_of_holds read gives.2
  rw [← mismatches] at first
  have wrong : doc.Mistyped m.item :=
    (Document.mistyped_iff readAs m.item).mp (Json.head_mismatches_least first).1
  -- What the next source holds has been cleared and shows its own end, so it is read
  -- whatever follows it there.
  obtain ⟨tree, readable⟩ := Document.readable_cleared m.item ⟨root, readAs⟩
  obtain ⟨⟨tree, read'⟩, holds⟩ := gives_of_closed (Document.closed_cleared wrong) readable begins
  have settled := Document.settled_cleared wrong readAs (read_of_holds read' holds)
  exact ⟨m, rest, rfl, holds.unresumed, tree, read', settled.mismatches_tail mismatches rfl,
    settled.config⟩

/-- **As long as something is reported there is a repair.** -/
theorem onward (owes : source.Owes (m :: rest) config) : ∃ next, source.Repaired next := by
  obtain ⟨doc, gives⟩ := owes.gives
  refine ⟨.ofBytes (doc.cleared m.item).compact, doc, m.item, gives, owes.reported?, ?_⟩
  rw [Source.text_ofBytes]
  exact (doc.cleared m.item).begins_compact

/-- **Each repair settles one mismatch**, the first that is left. -/
theorem repairs {n : Nat} (repairs : Repairs n source last) (owes : source.Owes ms config) :
    n ≤ ms.length ∧ last.Owes (ms.drop n) config := by
  induction repairs generalizing ms with
  | none source => exact ⟨Nat.zero_le _, owes⟩
  | more first others ih =>
      obtain ⟨m, rest, rfl, owes'⟩ := owes.repaired first
      obtain ⟨within, left⟩ := ih owes'
      exact ⟨Nat.succ_le_succ within, left⟩

theorem exists_repairs (owes : source.Owes ms config) :
    ∃ last, Repairs ms.length source last := by
  induction ms generalizing source with
  | nil => exact ⟨source, .none source⟩
  | cons m rest ih =>
      obtain ⟨next, repaired⟩ := owes.onward
      obtain ⟨m', rest', same, owes'⟩ := owes.repaired repaired
      cases same
      obtain ⟨last, others⟩ := ih owes'
      exact ⟨last, .more repaired others⟩

end Source.Owes

/-! ## Repairing a source -/

/-- The items of a source that are repaired, in this order. -/
structure Source.RepairedBy (source : Source) (items : List Item) : Prop where
  /-- Repairs leave the configuration as it is. -/
  config : ∀ {n last}, Repairs n source last → (decode last).1.config = (decode source).1.config
  /-- After some repairs the next item is reported. -/
  reported : ∀ {n last}, Repairs n source last → (decode last).1.reported? = items[n]?
  /-- Nothing is wrong any more exactly after as many repairs as there are items. -/
  done : ∀ {n last}, Repairs n source last →
    ((decode last).1 = .ok (decode source).1.config ↔ n = items.length)
  within : ∀ {n last}, Repairs n source last → n ≤ items.length
  /-- Until then there is a repair. -/
  onward : ∀ {n last}, Repairs n source last → n < items.length → ∃ next, last.Repaired next
  ends : ∃ last, Repairs items.length source last

theorem Source.Owes.repairedBy {source : Source} {ms : List Mismatch} {config : Config}
    (owes : source.Owes ms config) : source.RepairedBy (ms.map Mismatch.item) where
  config := by
    intro n last repairs
    rw [(owes.repairs repairs).2.config_eq, owes.config_eq]
  reported := by
    intro n last repairs
    rw [(owes.repairs repairs).2.reported?, List.head?_drop, List.getElem?_map]
  done := by
    intro n last repairs
    obtain ⟨within, left⟩ := owes.repairs repairs
    rw [owes.config_eq, left.ok_iff, List.drop_eq_nil_iff, List.length_map]
    omega
  within := by
    intro n last repairs
    rw [List.length_map]
    exact (owes.repairs repairs).1
  onward := by
    intro n last repairs less
    rw [List.length_map] at less
    have left := (owes.repairs repairs).2
    rw [List.drop_eq_getElem_cons less] at left
    exact left.onward
  ends := by
    rw [List.length_map]
    exact owes.exists_repairs

/-- **Repairing what is reported goes through the mistyped items in their order**
and ends in the configuration the first error carried. -/
theorem repaired_in_order {source : Source} {doc : Document} (gives : source.Gives doc) :
    ∃ items : List Item, items.Pairwise Item.Precedes ∧
      (∀ item, item ∈ items ↔ doc.Mistyped item) ∧ source.RepairedBy items := by
  obtain ⟨⟨root, read⟩, holds⟩ := gives
  have readAs : doc.ReadAs .root 0 root := read_of_holds read holds
  have owes : source.Owes root.mismatches root.config :=
    ⟨holds.unresumed, root, read, rfl, rfl⟩
  refine ⟨root.mismatches.map Mismatch.item, ?_, ?_, owes.repairedBy⟩
  · rw [List.pairwise_map]
    exact root.mismatches_pairwise
  · intro item
    rw [← Document.mistyped_iff readAs, Json.mistyped_iff, List.mem_map]
    constructor
    · rintro ⟨m, member, rfl⟩
      exact ⟨m, Json.mem_mismatches.mp member⟩
    · rintro ⟨m, wrong⟩
      obtain ⟨rfl, -⟩ := Item.mismatch?_eq_some.mp wrong
      exact ⟨m, Json.mem_mismatches.mpr wrong, rfl⟩

/-- The namespace is repaired first and the port after it, although the port stands
first in the text. -/
theorem repaired_in_order_mistypedTwice :
    ∃ doc, Source.mistypedTwice.Gives doc ∧
      ∃ items : List Item, items[0]? = some (.setting .scope) ∧
        (∀ item, item ∈ items ↔ doc.Mistyped item) ∧ Source.mistypedTwice.RepairedBy items := by
  have read : (readDocument Source.mistypedTwice).1 =
      .ok (.object [("networkConfig", .object
        [("port", .string "7"), ("namespace", .number (.integer 1))])]) := by
    rfl
  obtain ⟨doc, gives⟩ := exists_gives (Source.ofBytes_unresumed _) read
  obtain ⟨items, -, complete, repaired⟩ := repaired_in_order gives
  exact ⟨doc, gives, items, (repaired.reported (.none _)).symm, complete, repaired⟩

end NodeSettings
