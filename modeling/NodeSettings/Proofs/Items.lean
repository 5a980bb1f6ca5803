/-
# NodeSettings.Proofs.Items -- the items of a document and their order

`Json.at?` says what stands at an item of a document, without going through the
interpretation of the document.  An item is *mistyped* when something stands
there that is neither null nor of the kind the item wants (`Json.Mistyped`).

Items are ranked: the root, then the sections in their fixed order, and the
settings within the network section in theirs, the topics by their index
(`Item.Precedes`).  `Json.items` lists the items of one document in that order,
and `Json.mismatches` what is wrong at them; its head is the least
(`head_mismatches_least`).
-/
import NodeSettings.Interpretation

namespace NodeSettings

set_option autoImplicit false

/-! ## What stands at an item -/

namespace Json

def member? (key : String) : Json → Option Json
  | .object members => members.lookup key
  | _ => none

def element? (index : Nat) : Json → Option Json
  | .array items => items[index]?
  | _ => none

def elementCount : Json → Nat
  | .array items => items.length
  | _ => 0

def setting? (root : Json) (s : Setting) : Option Json :=
  (root.member? Section.network.key).bind (member? s.key)

def at? (root : Json) : Item → Option Json
  | .root => some root
  | .part p => root.member? p.key
  | .setting s => root.setting? s
  | .topic i => (root.setting? .topics).bind (element? i)

end Json

/-- Whether a value is of a kind; null is of none. -/
def Wanted.admits : Wanted → Json → Bool
  | .object, .object _ => true
  | .string, .string _ => true
  | .list, .array _ => true
  | .integer, value => value.int64?.isSome
  | _, _ => false

namespace Json

def Mistyped (root : Json) (item : Item) : Prop :=
  ∃ value, root.at? item = some value ∧ value ≠ .null ∧ item.wanted.admits value = false

end Json

/-- What is wrong at an item, by what stands there. -/
def Item.mismatch? (item : Item) (value : Option Json) : Option Mismatch :=
  value.bind fun v =>
    if item.wanted.admits v then none else (Found.of? v).map fun found => ⟨item, found⟩

theorem Found.of?_eq_none {value : Json} : Found.of? value = none ↔ value = .null := by
  cases value <;> simp [Found.of?]

theorem Item.mismatch?_eq_some {item : Item} {value : Option Json} {m : Mismatch} :
    item.mismatch? value = some m ↔
      m.item = item ∧ ∃ v, value = some v ∧ item.wanted.admits v = false ∧
        Found.of? v = some m.found := by
  cases value with
  | none => simp [Item.mismatch?]
  | some v =>
      cases fits : item.wanted.admits v with
      | true => simp [Item.mismatch?, fits]
      | false =>
          cases found : Found.of? v with
          | none => simp [Item.mismatch?, fits, found]
          | some f =>
              simp only [Item.mismatch?, Option.bind_some, fits, Bool.false_eq_true, if_false,
                found, Option.map_some, Option.some.injEq]
              constructor
              · rintro rfl
                exact ⟨rfl, v, rfl, fits, found⟩
              · rintro ⟨rfl, w, rfl, -, hw⟩
                rw [found] at hw
                cases hw
                rfl

theorem Json.mistyped_iff (root : Json) (item : Item) :
    root.Mistyped item ↔ ∃ m, item.mismatch? (root.at? item) = some m := by
  constructor
  · rintro ⟨value, stands, present, unfit⟩
    cases found : Found.of? value with
    | none => exact absurd (Found.of?_eq_none.mp found) present
    | some f => exact ⟨⟨item, f⟩, Item.mismatch?_eq_some.mpr ⟨rfl, value, stands, unfit, found⟩⟩
  · rintro ⟨m, wrong⟩
    obtain ⟨-, value, stands, unfit, found⟩ := Item.mismatch?_eq_some.mp wrong
    refine ⟨value, stands, ?_, unfit⟩
    rintro rfl
    simp [Found.of?] at found

/-! ## The order of the items -/

namespace Item

/-- Where an item ranks; the topics share a place and are told apart by their
index. -/
def rank : Item → Nat × Nat
  | root => (0, 0)
  | part .execution => (1, 0)
  | part .network => (2, 0)
  | setting .scope => (3, 0)
  | setting .topics => (4, 0)
  | topic i => (4, i + 1)
  | setting .maxPeers => (5, 0)
  | setting .port => (6, 0)
  | part .storage => (7, 0)

def Precedes (a b : Item) : Prop :=
  a.rank.1 < b.rank.1 ∨ a.rank.1 = b.rank.1 ∧ a.rank.2 < b.rank.2

theorem Precedes.irrefl (a : Item) : ¬ a.Precedes a := by
  simp [Precedes]

theorem Precedes.trans {a b c : Item} (ab : a.Precedes b) (bc : b.Precedes c) :
    a.Precedes c := by
  unfold Precedes at *
  omega

end Item

namespace Json

def topicItems (count : Nat) : List Item :=
  (List.range count).map .topic

/-- The items a document may be wrong at, in their order: as many topics as its
list of topics is long. -/
def items (root : Json) : List Item :=
  [.root, .part .execution, .part .network, .setting .scope, .setting .topics] ++
    topicItems ((root.setting? .topics).elim 0 elementCount) ++
    [.setting .maxPeers, .setting .port, .part .storage]

/-- What is wrong with a document, item by item. -/
def mismatches (root : Json) : List Mismatch :=
  root.items.filterMap fun item => item.mismatch? (root.at? item)

theorem items_pairwise (root : Json) : root.items.Pairwise Item.Precedes := by
  have topics (n : Nat) : (topicItems n).Pairwise Item.Precedes := by
    rw [topicItems, List.pairwise_map]
    apply List.pairwise_lt_range.imp
    intro i j less
    refine Or.inr ⟨rfl, ?_⟩
    exact Nat.succ_lt_succ less
  rw [items, List.pairwise_append, List.pairwise_append]
  refine ⟨⟨?_, topics _, ?_⟩, ?_, ?_⟩
  · simp [Item.Precedes, Item.rank]
  · simp [topicItems, Item.Precedes, Item.rank]
  · simp [Item.Precedes, Item.rank]
  · simp [topicItems, Item.Precedes, Item.rank]

/-- Nothing stands at an item that is not listed. -/
theorem mem_items_of_at? {root value : Json} {item : Item} (stands : root.at? item = some value) :
    item ∈ root.items := by
  cases item with
  | root => simp [items]
  | part p => cases p <;> simp [items]
  | setting s => cases s <;> simp [items]
  | topic i =>
      obtain ⟨list, listed, element⟩ := Option.bind_eq_some_iff.mp stands
      cases list with
      | array elements =>
          have bound : i < elements.length := (List.getElem?_eq_some_iff.mp element).1
          simp [items, topicItems, listed, elementCount, bound]
      | _ => simp [element?] at element

theorem mem_mismatches {root : Json} {m : Mismatch} :
    m ∈ root.mismatches ↔ m.item.mismatch? (root.at? m.item) = some m := by
  rw [mismatches, List.mem_filterMap]
  constructor
  · rintro ⟨item, -, wrong⟩
    obtain ⟨rfl, -⟩ := Item.mismatch?_eq_some.mp wrong
    exact wrong
  · intro wrong
    obtain ⟨-, value, stands, -⟩ := Item.mismatch?_eq_some.mp wrong
    exact ⟨m.item, mem_items_of_at? stands, wrong⟩

theorem mismatches_pairwise (root : Json) :
    root.mismatches.Pairwise fun a b => a.item.Precedes b.item := by
  rw [mismatches, List.pairwise_filterMap]
  apply root.items_pairwise.imp
  intro a b before m hm n hn
  obtain ⟨rfl, -⟩ := Item.mismatch?_eq_some.mp hm
  obtain ⟨rfl, -⟩ := Item.mismatch?_eq_some.mp hn
  exact before

theorem mismatches_eq_nil {root : Json} :
    root.mismatches = [] ↔ ∀ item, ¬ root.Mistyped item := by
  rw [List.eq_nil_iff_forall_not_mem]
  constructor
  · intro none item wrong
    obtain ⟨m, hm⟩ := (root.mistyped_iff item).mp wrong
    obtain ⟨rfl, -⟩ := Item.mismatch?_eq_some.mp hm
    exact none m (mem_mismatches.mpr hm)
  · intro none m member
    exact none m.item ((root.mistyped_iff m.item).mpr ⟨m, mem_mismatches.mp member⟩)

/-- **The first mismatch is at the least mistyped item.** -/
theorem head_mismatches_least {root : Json} {m : Mismatch}
    (first : root.mismatches.head? = some m) :
    root.Mistyped m.item ∧
      ∀ item, root.Mistyped item → item ≠ m.item → m.item.Precedes item := by
  obtain ⟨rest, shape⟩ := List.head?_eq_some_iff.mp first
  have sorted := root.mismatches_pairwise
  rw [shape, List.pairwise_cons] at sorted
  refine ⟨(root.mistyped_iff m.item).mpr ⟨m, mem_mismatches.mp (by simp [shape])⟩, ?_⟩
  intro item wrong other
  obtain ⟨n, hn⟩ := (root.mistyped_iff item).mp wrong
  obtain ⟨rfl, -⟩ := Item.mismatch?_eq_some.mp hn
  have listed : n ∈ m :: rest := shape ▸ mem_mismatches.mpr hn
  rcases List.mem_cons.mp listed with rfl | later
  · exact absurd rfl other
  · exact sorted.1 n later

end Json

end NodeSettings
