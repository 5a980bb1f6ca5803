/-
# NodeSettings.Mismatch -- a value that is not of the kind its place wants

A document has items that want a kind of value: the root and the sections want
objects, the settings a string, a list or an integer of 64 bits, and each topic a
string.  A mismatch is an item with the value found there instead.
-/
import NodeSettings.Json
import NodeSettings.Notice
import NodeSettings.Number.Layout
import NodeSettings.Schema
import NodeSettings.Text.Quoted

namespace NodeSettings

open Text

set_option autoImplicit false

inductive Item where
  | root
  | part (part : Section)
  | setting (setting : Setting)
  | topic (index : Nat)
deriving DecidableEq, Repr

inductive Wanted where
  | object
  | string
  | list
  | integer
deriving DecidableEq, Repr

/-- What stands where something else was wanted.  Null never does: it counts as
absence. -/
inductive Found where
  | unit
  | bool (value : Bool)
  | number (value : Number)
  | string (value : String)
  | array
  | object
deriving DecidableEq, Repr

namespace Item

/-- The name of an item in messages; the root has none. -/
def path? : Item → Option String
  | root => none
  | part p => some p.key
  | setting s => some s!"{Section.network.key}.{s.key}"
  | topic i => some s!"{Section.network.key}.{Setting.topics.key}[{i}]"

def wanted : Item → Wanted
  | root => .object
  | part _ => .object
  | setting .scope => .string
  | setting .topics => .list
  | setting .maxPeers => .integer
  | setting .port => .integer
  | topic _ => .string

/-- Numbers found in place of a section are written out in full; numbers found in
place of a setting are written compactly. -/
def layout : Item → Layout
  | root => .plain
  | part _ => .plain
  | setting _ => .compact
  | topic _ => .compact

end Item

namespace Wanted

def text : Wanted → String
  | object => "an object"
  | string => "a string"
  | list => "a sequence"
  | integer => "i64"

end Wanted

namespace Found

def of? : Json → Option Found
  | .null => none
  | .unit => some .unit
  | .bool value => some (.bool value)
  | .number value => some (.number value)
  | .string value => some (.string value)
  | .array _ => some .array
  | .object _ => some .object

def text (layout : Layout) : Found → String
  | unit => "unit value"
  | bool value => s!"boolean `{value}`"
  | number (.integer n) => s!"integer `{n}`"
  | number (.float negative magnitude) => s!"floating point `{layout.text negative magnitude}`"
  | string value => s!"string {quoted value}"
  | array => "sequence"
  | object => "map"

end Found

structure Mismatch where
  item : Item
  found : Found
deriving DecidableEq, Repr

namespace Mismatch

/-- An integer where an integer is wanted is the wrong value, one too large; all
else is the wrong kind of value. -/
def complaint (m : Mismatch) : String :=
  match m.item.wanted, m.found with
  | .integer, .number (.integer _) => "invalid value"
  | _, _ => "invalid type"

/-- What is wrong, without saying where in the document. -/
def what (m : Mismatch) : String :=
  s!"{m.complaint}: {m.found.text m.item.layout}, expected {m.item.wanted.text}"

/-- What is wrong is a message of its own before the item's path is put in front
of it. -/
def notice (m : Mismatch) : Notice :=
  let what := Notice.ofText m.what
  match m.item.path? with
  | none => what
  | some path => Notice.ofText s!"{path}: {what.text}"

def text (m : Mismatch) : String :=
  m.notice.text

end Mismatch

end NodeSettings
