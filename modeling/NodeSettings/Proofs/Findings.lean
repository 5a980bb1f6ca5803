/-
# NodeSettings.Proofs.Findings -- an outcome depends on what is found at the items

The *finding* at an item is what a message would call the value there: nothing if
none stands there, and null apart from both.  Of a list or an object it does not
tell the contents, which are found at other items or not at all.

What a document comes to depends on its findings alone (`outcome_congr`): the
configuration on those that are of the wanted kind (`config_congr`), the mismatches
on the others (`mismatches_congr`).  If one mistyped item is found null instead,
the configuration is the same and that one mismatch is gone (`mismatches_settled`).

A document that is read has the findings of its tree (`finding_of_read`), so two
sources come to the same if they give documents of the same findings
(`decode_congr`).  Documents have the same findings if they are related by a
relation that goes on from one item to those in it (`Congruent.finding`).
-/
import Mathlib.Data.List.Basic
import NodeSettings.Proofs.Recording
import NodeSettings.Proofs.Sources
import NodeSettings.Proofs.Written.Items

namespace NodeSettings

set_option autoImplicit false

namespace Found

/-- Whether what is found is of a kind. -/
def suits : Wanted → Found → Bool
  | .object, .object => true
  | .string, .string _ => true
  | .list, .array => true
  | .integer, .number n => (Json.number n).int64?.isSome
  | _, _ => false

def text? : Found → Option String
  | string text => some text
  | _ => none

def int64? : Found → Option Int64
  | number n => (Json.number n).int64?
  | _ => none

end Found

namespace Json

theorem admits_eq (wanted : Wanted) (value : Json) :
    wanted.admits value = (Found.of? value).any (Found.suits wanted) := by
  cases wanted <;> cases value <;> rfl

theorem text?_eq (value : Json) :
    value.text? = ((Found.of? value).filter (Found.suits .string)).bind Found.text? := by
  cases value <;> rfl

theorem int64?_eq (value : Json) :
    value.int64? = ((Found.of? value).filter (Found.suits .integer)).bind Found.int64? := by
  cases value with
  | number n =>
      cases known : (Json.number n).int64? <;>
        simp [Found.of?, Option.filter, Found.suits, Found.int64?, known]
  | _ => rfl

/-! ## Findings -/

def finding (root : Json) (item : Item) : Option (Option Found) :=
  (root.at? item).map Found.of?

/-- What is found at an item, if it is of the kind the item wants. -/
def given (root : Json) (item : Item) : Option Found :=
  (root.finding item).join.filter (Found.suits item.wanted)

theorem given_bind {α : Type} (root : Json) (item : Item) {convert : Json → Option α}
    {read : Found → Option α}
    (same : ∀ value, convert value =
      ((Found.of? value).filter (Found.suits item.wanted)).bind read) :
    (root.at? item).bind convert = (root.given item).bind read := by
  cases stands : root.at? item with
  | none => simp [given, finding, stands]
  | some value => simp [given, finding, stands, same]

/-- What is wrong at an item is what is found there and not of its kind. -/
theorem mismatch?_eq (root : Json) (item : Item) :
    item.mismatch? (root.at? item) =
      ((root.finding item).join.filter fun found => !Found.suits item.wanted found).map
        fun found => ⟨item, found⟩ := by
  cases stands : root.at? item with
  | none => simp [finding, stands, Item.mismatch?]
  | some value =>
      simp only [finding, stands, Option.map_some, Option.join_some, Item.mismatch?,
        Option.bind_some, admits_eq]
      cases Found.of? value with
      | none => simp
      | some found =>
          cases fits : Found.suits item.wanted found <;> simp [Option.filter, fits]

theorem isSome_at? (root : Json) (item : Item) :
    (root.at? item).isSome = (root.finding item).isSome :=
  Option.isSome_map.symm

/-! ## Topics -/

/-- How many topics are listed. -/
def topicCount (root : Json) : Nat :=
  (root.setting? .topics).elim 0 elementCount

theorem lt_topicCount (root : Json) (i : Nat) :
    i < root.topicCount ↔ (root.at? (.topic i)).isSome = true := by
  show i < (root.setting? .topics).elim 0 elementCount ↔
    ((root.setting? .topics).bind (element? i)).isSome = true
  cases root.setting? .topics with
  | none => simp
  | some value => cases value <;> simp [elementCount, element?]

theorem topicCount_congr {a b : Json}
    (same : ∀ i, (a.at? (.topic i)).isSome = (b.at? (.topic i)).isSome) :
    a.topicCount = b.topicCount := by
  have less (i : Nat) : i < a.topicCount ↔ i < b.topicCount := by
    rw [lt_topicCount, lt_topicCount, same]
  have below := less a.topicCount
  have above := less b.topicCount
  omega

theorem items_congr {a b : Json}
    (same : ∀ i, (a.at? (.topic i)).isSome = (b.at? (.topic i)).isSome) :
    a.items = b.items := by
  have count : (a.setting? .topics).elim 0 elementCount =
      (b.setting? .topics).elim 0 elementCount := topicCount_congr same
  rw [items, items, count]

/-- The list of topics: as many as are listed, each what is given at its item. -/
theorem topics_eq (root : Json) :
    (root.setting? .topics).bind Recorder.topicList? =
      (root.given (.setting .topics)).map fun _ =>
        (List.range root.topicCount).map fun i =>
          ((root.given (.topic i)).bind Found.text?).getD "" := by
  have listed : root.given (.setting .topics) =
      ((root.setting? .topics).bind Found.of?).filter (Found.suits .list) := by
    show ((root.setting? .topics).map Found.of?).join.filter (Found.suits .list) = _
    cases root.setting? .topics <;> rfl
  rw [listed]
  cases there : root.setting? .topics with
  | none => rfl
  | some value =>
      cases value with
      | array values =>
          have count : root.topicCount = values.length := by
            simp [topicCount, there, elementCount]
          simp only [Option.bind_some, Recorder.topicList?, Found.of?, Option.filter, Found.suits,
            if_true, Option.map_some, Option.some.injEq, count]
          -- An index past the end has no item, so both lists end there.
          apply List.ext_getElem?
          intro i
          rw [List.getElem?_map, List.getElem?_map]
          by_cases within : i < values.length
          · have element : root.at? (.topic i) = some values[i] := by
              simp [at?, there, element?, within]
            have given := given_bind root (.topic i) text?_eq
            rw [element] at given
            rw [List.getElem?_range within, List.getElem?_eq_getElem within, Option.map_some,
              Option.map_some, ← given]
            rfl
          · have beyond : values.length ≤ i := Nat.not_lt.mp within
            rw [List.getElem?_eq_none beyond, List.getElem?_eq_none (by simpa using beyond)]
            rfl
      | _ => rfl

/-! ## What depends on findings -/

theorem setting_congr {α : Type} {a b : Json} {s : Setting}
    (same : a.given (.setting s) = b.given (.setting s)) {convert : Json → Option α}
    {read : Found → Option α}
    (as : ∀ value, convert value =
      ((Found.of? value).filter (Found.suits (Item.setting s).wanted)).bind read) :
    (a.setting? s).bind convert = (b.setting? s).bind convert := by
  have one := given_bind a (.setting s) as
  have other := given_bind b (.setting s) as
  rw [same] at one
  exact one.trans other.symm

/-- The topics depend on what is given at their list, and on their number and texts. -/
theorem topics_congr {a b : Json}
    (list : a.given (.setting .topics) = b.given (.setting .topics))
    (count : a.topicCount = b.topicCount)
    (texts : ∀ i, ((a.given (.topic i)).bind Found.text?).getD "" =
      ((b.given (.topic i)).bind Found.text?).getD "") :
    (a.setting? .topics).bind Recorder.topicList? =
      (b.setting? .topics).bind Recorder.topicList? := by
  rw [topics_eq, topics_eq, list, count]
  simp only [texts]

theorem config_eq (root : Json) : root.config =
    { network :=
      { scope := ((root.setting? .scope).bind text?).getD Network.defaultScope
        topics := ((root.setting? .topics).bind Recorder.topicList?).getD []
        maxPeers := ((root.setting? .maxPeers).bind int64?).getD Network.defaultMaxPeers
        port := ((root.setting? .port).bind int64?).getD Network.defaultPort } } :=
  rfl

/-- The configuration depends on what is given at the settings, and on the topics by
their number and their texts. -/
theorem config_of_settings {a b : Json}
    (settings : ∀ s, a.given (.setting s) = b.given (.setting s))
    (count : a.topicCount = b.topicCount)
    (texts : ∀ i, ((a.given (.topic i)).bind Found.text?).getD "" =
      ((b.given (.topic i)).bind Found.text?).getD "") : a.config = b.config := by
  rw [config_eq a, config_eq b, setting_congr (settings _) text?_eq,
    topics_congr (settings _) count texts, setting_congr (settings .maxPeers) int64?_eq,
    setting_congr (settings .port) int64?_eq]

/-- **The configuration depends on what is given alone.** -/
theorem config_congr {a b : Json} (same : ∀ item, a.given item = b.given item)
    (count : a.topicCount = b.topicCount) : a.config = b.config :=
  config_of_settings (fun s => same (.setting s)) count fun i => by rw [same]

/-- The mismatches depend on what is found and is not of its kind. -/
theorem mismatches_of_unfit {a b : Json}
    (topics : ∀ i, (a.at? (.topic i)).isSome = (b.at? (.topic i)).isSome)
    (unfit : ∀ item : Item,
      (a.finding item).join.filter (fun found => !Found.suits item.wanted found) =
        (b.finding item).join.filter fun found => !Found.suits item.wanted found) :
    a.mismatches = b.mismatches := by
  rw [mismatches, mismatches, items_congr topics]
  apply List.filterMap_congr
  intro item member
  rw [mismatch?_eq, mismatch?_eq, unfit]

theorem given_congr {a b : Json} {item : Item} (same : a.finding item = b.finding item) :
    a.given item = b.given item := by
  rw [given, given, same]

section Congr

variable {a b : Json} (same : ∀ item, a.finding item = b.finding item)

include same

theorem isSome_congr (i : Nat) : (a.at? (.topic i)).isSome = (b.at? (.topic i)).isSome := by
  rw [isSome_at?, isSome_at?, same]

theorem mismatches_congr : a.mismatches = b.mismatches :=
  mismatches_of_unfit (isSome_congr same) fun item => by rw [same]

/-- **What a document comes to depends on its findings alone.** -/
theorem outcome_congr : outcomeOf (.ok a) = outcomeOf (.ok b) := by
  have config : a.config = b.config :=
    config_congr (fun item => given_congr (same item)) (topicCount_congr (isSome_congr same))
  rw [outcomeOf_document, outcomeOf_document, mismatches_congr same, config]

end Congr

/-! ## One mismatch less -/

/-- Without the first of its item, the mismatches after it are left. -/
theorem filter_tail {m : Mismatch} {rest : List Mismatch}
    (sorted : (m :: rest).Pairwise fun a b => a.item.Precedes b.item) :
    ((m :: rest).filter fun n => decide (n.item ≠ m.item)) = rest := by
  obtain ⟨after, -⟩ := List.pairwise_cons.mp sorted
  rw [List.filter_cons_of_neg (by simp), List.filter_eq_self]
  intro n member
  rw [decide_eq_true_eq]
  intro same
  exact Item.Precedes.irrefl m.item (same ▸ after n member)

/-- `b` is `a` with null at one mistyped item. -/
structure Settled (a b : Json) (item : Item) : Prop where
  mistyped : a.Mistyped item
  settled : b.finding item = some none
  others : ∀ other, other ≠ item → b.finding other = a.finding other

namespace Settled

variable {a b : Json} {item : Item} (settled : Settled a b item)

include settled

theorem isSome (i : Nat) : (b.at? (.topic i)).isSome = (a.at? (.topic i)).isSome := by
  rw [isSome_at?, isSome_at?]
  by_cases same : Item.topic i = item
  · obtain ⟨value, stands, -⟩ := settled.mistyped
    rw [same, settled.settled, finding, stands]
    rfl
  · rw [settled.others _ same]

/-- Nothing was given at the item, and nothing is. -/
theorem given (other : Item) : b.given other = a.given other := by
  by_cases same : other = item
  · subst same
    obtain ⟨value, stands, -, unfit⟩ := settled.mistyped
    rw [admits_eq] at unfit
    have none : a.given other = none := by
      rw [Json.given, finding, stands]
      cases found : Found.of? value with
      | none => simp [found]
      | some f =>
          rw [found] at unfit
          simpa [found, Option.filter] using unfit
    rw [none, Json.given, settled.settled]
    rfl
  · exact given_congr (settled.others other same)

theorem config : b.config = a.config :=
  config_congr settled.given (topicCount_congr settled.isSome)

/-- **The mismatch at the item is gone**, and the others are as before. -/
theorem mismatches_settled :
    b.mismatches = a.mismatches.filter fun m => decide (m.item ≠ item) := by
  rw [mismatches, mismatches, items_congr settled.isSome, List.filter_filterMap]
  apply List.filterMap_congr
  intro other member
  by_cases same : other = item
  · subst same
    have gone : other.mismatch? (b.at? other) = none := by
      rw [mismatch?_eq, settled.settled]
      rfl
    cases wrong : other.mismatch? (a.at? other) with
    | none => rw [gone]; rfl
    | some m =>
        obtain ⟨here, -⟩ := Item.mismatch?_eq_some.mp wrong
        rw [gone]
        simp [Option.filter, here]
  · rw [mismatch?_eq b, settled.others other same, ← mismatch?_eq a]
    cases wrong : other.mismatch? (a.at? other) with
    | none => rfl
    | some m =>
        obtain ⟨here, -⟩ := Item.mismatch?_eq_some.mp wrong
        simp [Option.filter, here, same]

/-- If the item is that of the first mismatch, the others are left. -/
theorem mismatches_tail {m : Mismatch} {rest : List Mismatch}
    (first : a.mismatches = m :: rest) (here : m.item = item) : b.mismatches = rest := by
  subst here
  have sorted := a.mismatches_pairwise
  rw [first] at sorted
  rw [settled.mismatches_settled, first, filter_tail sorted]

end Settled

end Json

/-! ## Findings of documents -/

namespace Document

def finding (doc : Document) (item : Item) : Option (Option Found) :=
  (doc.at? item).map found?

theorem finding_root (doc : Document) : doc.finding .root = some doc.found? :=
  rfl

theorem finding_part (doc : Document) (p : Section) :
    doc.finding (.part p) = (doc.member? p.key).map found? :=
  rfl

theorem finding_setting (doc : Document) (s : Setting) :
    doc.finding (.setting s) = (doc.setting? s).map found? :=
  rfl

theorem finding_topic (doc : Document) (i : Nat) :
    doc.finding (.topic i) = ((doc.setting? .topics).bind (element? i)).map found? :=
  rfl

/-- **A document that is read has the findings of its tree.** -/
theorem finding_of_read {doc : Document} {root : Json} (read : doc.ReadAs .root 0 root)
    (item : Item) : root.finding item = doc.finding item := by
  have rel := at?_rel read item
  unfold Json.finding finding
  cases stands : doc.at? item with
  | none =>
      rw [stands] at rel
      cases there : root.at? item with
      | none => rfl
      | some v => rw [there] at rel; cases rel
  | some d =>
      rw [stands] at rel
      cases there : root.at? item with
      | none => rw [there] at rel; cases rel
      | some v =>
          rw [there] at rel
          cases rel with
          | some read => exact congrArg some (read.found? item.slot_kept)

/-! ## Related documents -/

/-- A relation between documents in a slot that goes on to what is read of them:
related objects have related members under each known key, related lists related
elements.  What is related is called the same. -/
structure Congruent (R : Slot → Document → Document → Prop) : Prop where
  members : ∀ {slot a b key}, R slot a b → slot.unique key = true →
    Option.Rel (R (slot.member key)) (a.member? key) (b.member? key)
  elements : ∀ {a b} index, R .setting a b →
    Option.Rel (R .setting) (a.element? index) (b.element? index)
  found? : ∀ {slot a b}, R slot a b → a.found? = b.found?

namespace Congruent

variable {R : Slot → Document → Document → Prop} (congruent : Congruent R) {a b : Document}
  (related : R .root a b)

include congruent related

theorem section? (p : Section) : Option.Rel (R (.body p)) (a.member? p.key) (b.member? p.key) := by
  have known : Slot.root.unique p.key = true := by cases p <;> decide
  have rel := congruent.members related known
  rwa [Slot.member_root] at rel

theorem setting? (s : Setting) : Option.Rel (R .setting) (a.setting? s) (b.setting? s) := by
  have known : (Slot.body .network).unique s.key = true := by cases s <;> decide
  apply rel_bind (congruent.section? related .network)
  intro x y inside
  have rel := congruent.members inside known
  rwa [Slot.member_network] at rel

/-- What stands at an item is related. -/
theorem at? (item : Item) : Option.Rel (R item.slot) (a.at? item) (b.at? item) := by
  cases item with
  | root => exact .some related
  | part p => exact congruent.section? related p
  | setting s => exact congruent.setting? related s
  | topic i =>
      apply rel_bind (congruent.setting? related .topics)
      intro x y inside
      exact congruent.elements i inside

/-- **Related documents have the same findings.** -/
theorem finding (item : Item) : a.finding item = b.finding item := by
  have rel := congruent.at? related item
  unfold Document.finding
  generalize a.at? item = x at rel
  generalize b.at? item = y at rel
  cases rel with
  | none => rfl
  | some inside => exact congrArg some (congruent.found? inside)

end Congruent

end Document

/-- **What a source comes to depends on the findings of its document alone.** -/
theorem decode_congr {source other : Source} {a b : Document} (gives : source.Gives a)
    (gives' : other.Gives b) (same : ∀ item, a.finding item = b.finding item) :
    (decode source).1 = (decode other).1 := by
  obtain ⟨⟨root, read⟩, holds⟩ := gives
  obtain ⟨⟨root', read'⟩, holds'⟩ := gives'
  rw [decode_outcome, decode_outcome, read, read']
  apply Json.outcome_congr
  intro item
  rw [Document.finding_of_read (read_of_holds read holds),
    Document.finding_of_read (read_of_holds read' holds'), same]

end NodeSettings
