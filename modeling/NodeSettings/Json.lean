/-
# NodeSettings.Json -- a document as a tree

What reading a document leaves: the members of an object in the order of the
text, repeated keys included.

A null that only comes after the source has reported its end is no longer the absence
of a section: as the root or a section it is a `unit`, which no text spells.
-/
import NodeSettings.Number.Numeral

namespace NodeSettings

set_option autoImplicit false

inductive Json where
  | null
  | unit
  | bool (value : Bool)
  | number (value : Number)
  | string (value : String)
  | array (items : List Json)
  | object (members : List (String × Json))

end NodeSettings
