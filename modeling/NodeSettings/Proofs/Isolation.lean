/-
# NodeSettings.Proofs.Isolation -- every setting depends on its own value only

Of a document that is read, each setting of the configuration is what stands at
that setting's item, if it is of the right kind, and the default otherwise;
nothing else in the document matters, mistyped siblings included
(`Network.Follows`).  So two documents that agree at one setting give that
setting alike (`decode_follows`).
-/
import NodeSettings.Proofs.Recording
import NodeSettings.Proofs.Sources
import NodeSettings.Proofs.Written.Items

namespace NodeSettings

open Text

set_option autoImplicit false

/-- The topics of a list as it is written; an element that is no string gives the
empty topic. -/
def Document.topics? : Document → Option (List String)
  | .array elements => some (elements.map fun element => element.text?.getD "")
  | _ => none

/-- Network settings are what a document says at each of their items. -/
structure Network.Follows (network : Network) (doc : Document) : Prop where
  scope : network.scope = ((doc.setting? .scope).bind Document.text?).getD ""
  topics : network.topics = ((doc.setting? .topics).bind Document.topics?).getD []
  maxPeers : network.maxPeers.toInt = ((doc.setting? .maxPeers).bind Document.integer?).getD 0
  port : network.port.toInt = ((doc.setting? .port).bind Document.integer?).getD 0
  /-- Without a network section that is an object, nothing is given. -/
  absent : (∀ members, doc.at? (.part .network) ≠ some (.object members)) → network = {}

/-- Two configurations of a network agree at one setting. -/
def Network.AgreesAt (a b : Network) : Setting → Prop
  | .scope => a.scope = b.scope
  | .topics => a.topics = b.topics
  | .maxPeers => a.maxPeers = b.maxPeers
  | .port => a.port = b.port

/-! ## From the tree to what is written -/

namespace Document

variable {doc : Document} {root : Json}

theorem text?_of_rel {slot : Slot} {depth : Nat} (kept : slot.kept = true)
    {a : Option Document} {b : Option Json} (rel : Option.Rel (ReadAs slot depth) a b) :
    b.bind Json.text? = a.bind text? := by
  cases rel with
  | none => rfl
  | some read => exact read.text? kept

theorem integer?_of_rel {slot : Slot} {depth : Nat} (kept : slot.kept = true)
    {a : Option Document} {b : Option Json} (rel : Option.Rel (ReadAs slot depth) a b) :
    ((b.bind Json.int64?).getD 0).toInt = (a.bind integer?).getD 0 := by
  cases rel with
  | none => rfl
  | @some d v read =>
      show (v.int64?.getD 0).toInt = d.integer?.getD 0
      rw [← read.integer? kept]
      cases v.int64? <;> rfl

theorem topics?_of_rel {depth : Nat} {a : Option Document} {b : Option Json}
    (rel : Option.Rel (ReadAs .setting depth) a b) :
    b.bind Recorder.topicList? = a.bind topics? := by
  cases rel with
  | none => rfl
  | @some d v read =>
      show Recorder.topicList? v = d.topics?
      cases read.alike rfl with
      | @array elements _ =>
          obtain ⟨more, same, -, agree⟩ := readElements_rel rfl ((readAs_array rfl).mp read).2
          cases same
          simp only [List.reverse_nil, List.nil_append, Recorder.topicList?, topics?,
            Option.some.injEq]
          apply List.ext_getElem?
          intro i
          rw [List.getElem?_map, List.getElem?_map]
          have rel := agree i
          revert rel
          generalize elements[i]? = a
          generalize more[i]? = b
          intro rel
          cases rel with
          | none => rfl
          | some read => simp [Recorder.topicOf, read.text? rfl]
      | _ => rfl

theorem object_of_rel {slot : Slot} {depth : Nat} (kept : slot.kept = true)
    {a : Option Document} {members : List (String × Json)}
    (rel : Option.Rel (ReadAs slot depth) a (some (.object members))) :
    ∃ inside, a = some (.object inside) := by
  cases rel with
  | @some d _ read =>
      have object := read.fits kept .object
      cases d with
      | object inside => exact ⟨inside, rfl⟩
      | _ => cases object

/-- The settings of the tree are those of the document it was read from. -/
theorem network_follows (read : doc.ReadAs .root 0 root) : root.config.network.Follows doc where
  scope := congrArg (·.getD "") (text?_of_rel rfl (setting?_rel read .scope))
  topics := congrArg (·.getD []) (topics?_of_rel (setting?_rel read .topics))
  maxPeers := integer?_of_rel rfl (setting?_rel read .maxPeers)
  port := integer?_of_rel rfl (setting?_rel read .port)
  absent := by
    intro noObject
    have rel := at?_rel read (.part .network)
    show Json.networkOf (root.at? (.part .network)) = {}
    cases stands : root.at? (.part .network) with
    | none => rfl
    | some v =>
        cases v with
        | object members =>
            obtain ⟨inside, written⟩ := object_of_rel rfl (stands ▸ rel)
            exact absurd written (noObject inside)
        | _ => rfl

end Document

/-- **Each setting depends on its own value only.**  A source whose document is
read carries, in its outcome, the configuration the document gives item by item,
however its bytes were read as a document; and another such source whose document
has the same value at a setting agrees with it there. -/
theorem decode_follows {source : Source} {root : Json}
    (read : (readDocument source).1 = .ok root) :
    (source.Unresumed → ∃ doc : Document, source.Holds doc) ∧
      (∀ doc : Document, source.Holds doc →
        (decode source).1.config.network.Follows doc) ∧
      ∀ (other : Source) (tree : Json), (readDocument other).1 = .ok tree →
        ∀ s : Setting, root.setting? s = tree.setting? s →
          (decode source).1.config.network.AgreesAt (decode other).1.config.network s := by
  refine ⟨fun unresumed => exists_holds unresumed read, ?_, ?_⟩
  · intro doc holds
    rw [decode_config read]
    exact Document.network_follows (read_of_holds read holds)
  · intro other tree readOther s same
    rw [decode_config read, decode_config readOther]
    cases s with
    | scope => exact congrArg (fun v => (v.bind Json.text?).getD "") same
    | topics => exact congrArg (fun v => (v.bind Recorder.topicList?).getD []) same
    | maxPeers => exact congrArg (fun v => (v.bind Json.int64?).getD 0) same
    | port => exact congrArg (fun v => (v.bind Json.int64?).getD 0) same

/-- A namespace that is a number, before a port that is well given. -/
def Source.mistypedScope : Source :=
  .ofBytes (Utf8.encode "\x7b\"networkConfig\":\x7b\"namespace\":1,\"port\":7\x7d\x7d")

theorem decode_follows_mistypedScope :
    ∃ root, (readDocument Source.mistypedScope).1 = .ok root ∧
      ∃ doc : Document, Source.mistypedScope.Holds doc ∧
        (decode Source.mistypedScope).1.config.network.Follows doc := by
  have read : (readDocument Source.mistypedScope).1 =
      .ok (.object [("networkConfig", .object
        [("namespace", .number (.integer 1)), ("port", .number (.integer 7))])]) := by
    rfl
  obtain ⟨exists_doc, follows, -⟩ := decode_follows read
  obtain ⟨doc, holds⟩ := exists_doc (Source.ofBytes_unresumed _)
  exact ⟨_, read, doc, holds, follows doc holds⟩

end NodeSettings
