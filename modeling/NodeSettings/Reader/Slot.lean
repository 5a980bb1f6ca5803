/-
# NodeSettings.Reader.Slot -- where a value stands decides how it is read

Four kinds of place matter while a document is read.  The root and the body of a
section are read for their known keys.  The value of a setting is kept whole.
Everything else is *skipped*: read to its end so that what follows can be read,
under laxer rules and at any depth, and not kept.

What stands inside a value follows from where the value stands: members of the
root are section bodies or skipped, members of the network body are settings or
skipped, and elements of an array that is itself out of place are skipped.
-/
import NodeSettings.Schema

namespace NodeSettings

set_option autoImplicit false

inductive Slot where
  | root
  | body (part : Section)
  | setting
  | skipped
deriving DecidableEq, Repr

namespace Slot

/-- Whether values standing here are kept. -/
def kept : Slot → Bool
  | skipped => false
  | _ => true

/-- Where the value of a member stands, by the key of the member. -/
def member : Slot → String → Slot
  | root, key => match Section.ofKey? key with
      | some part => .body part
      | none => .skipped
  | body .network, key => if (Setting.ofKey? key).isSome then .setting else .skipped
  | setting, _ => .setting
  | _, _ => .skipped

/-- Where the elements of an array stand. -/
def item : Slot → Slot
  | setting => .setting
  | _ => .skipped

/-- Whether an object standing here may hold a key only once. -/
def unique : Slot → String → Bool
  | root, key => (Section.ofKey? key).isSome
  | body .network, key => (Setting.ofKey? key).isSome
  | _, _ => false

end Slot

end NodeSettings
