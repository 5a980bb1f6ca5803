/-
# NodeSettings.Interpretation -- what a document says about a node

A document is interpreted leniently: an item of the wrong kind keeps its default
and interpretation goes on, so that the configuration holds everything the
document says well.  Of the mismatches only the first is kept, in the order in
which the items are asked for -- the sections in their fixed order, the settings
within the network section in theirs -- and not in the order of the text.

The *recorder* holds that first mismatch.  `Recorder.object`, `Recorder.setting`
and `Recorder.topics` each read one item; null is the same as absence in all of
them.
-/
import NodeSettings.Config
import NodeSettings.Mismatch

namespace NodeSettings

set_option autoImplicit false

/-- A computation that may record a mismatch; the first one recorded stays. -/
abbrev Recorder := StateM (Option Mismatch)

namespace Recorder

def record (mismatch : Mismatch) : Recorder Unit :=
  modify fun first => some (first.getD mismatch)

/-- Record that `value` stands at `item`, unless it is null. -/
def refuse (item : Item) (value : Json) : Recorder Unit :=
  match Found.of? value with
  | none => pure ()
  | some found => record ⟨item, found⟩

/-- The members of the object at `item`. -/
def object (item : Item) : Option Json → Recorder (Option (List (String × Json)))
  | none => pure none
  | some (.object members) => pure (some members)
  | some value => do
      refuse item value
      pure none

/-- The value at `item`, converted. -/
def setting {α : Type} (convert : Json → Option α) (item : Item) :
    Option Json → Recorder (Option α)
  | none => pure none
  | some value =>
      match convert value with
      | some converted => pure (some converted)
      | none => do
          refuse item value
          pure none

end Recorder

/-! ## Conversions -/

def Json.text? : Json → Option String
  | .string text => some text
  | _ => none

/-- Only integer literals are integers, and only those that fit. -/
def Json.int64? : Json → Option Int64
  | .number (.integer n) =>
      if Int64.minValue.toInt ≤ n ∧ n ≤ Int64.maxValue.toInt then some (Int64.ofInt n) else none
  | _ => none

namespace Recorder

/-- Topics from index `start` on, one for each element; an element that is no
string becomes the empty topic. -/
def topicsFrom : Nat → List Json → Recorder (List String)
  | _, [] => pure []
  | start, item :: rest => do
      let topic ← setting Json.text? (.topic start) (some item)
      let others ← topicsFrom (start + 1) rest
      pure (topic.getD "" :: others)

def topics : Option Json → Recorder (Option (List String))
  | some (.array items) => do
      let topics ← topicsFrom 0 items
      pure (some topics)
  | value => setting (fun _ => none) (.setting .topics) value

/-- The settings of a network section. -/
def network (members : List (String × Json)) : Recorder GivenNetwork := do
  let value (s : Setting) := members.lookup s.key
  let scope ← setting Json.text? (.setting .scope) (value .scope)
  let topics ← topics (value .topics)
  let maxPeers ← setting Json.int64? (.setting .maxPeers) (value .maxPeers)
  let port ← setting Json.int64? (.setting .port) (value .port)
  pure { scope, topics, maxPeers, port }

/-- The sections of a document whose root is an object. -/
def sections (members : List (String × Json)) : Recorder Config := do
  let value (p : Section) := members.lookup p.key
  let _ ← object (.part .execution) (value .execution)
  let network ← match ← object (.part .network) (value .network) with
    | none => pure {}
    | some settings => do
        let given ← network settings
        pure given.resolve
  let _ ← object (.part .storage) (value .storage)
  pure { network }

def document (root : Json) : Recorder Config := do
  match ← object .root (some root) with
  | none => pure {}
  | some members => sections members

end Recorder

/-- The configuration a document gives, and the first mismatch in it. -/
def interpret (document : Json) : Config × Option Mismatch :=
  (Recorder.document document).run none

end NodeSettings
