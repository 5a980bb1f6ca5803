/-
# NodeSettings.Text.Shown -- values laid out with their names

A value that is shown for inspection is a tree of named records, tuples and
lists over finished texts.  `inline` writes the tree on one line; `indented`
gives every part a line of its own, four columns deeper than what holds it, each
closed by a comma.  A record without fields is its name alone, and an empty list
stays on one line.
-/

namespace NodeSettings.Text

set_option autoImplicit false

inductive Shown where
  | atom (text : String)
  | record (name : String) (fields : List (String × Shown))
  | tuple (name : String) (parts : List Shown)
  | list (parts : List Shown)

namespace Shown

/-! ## On one line -/

mutual

def inline : Shown → String
  | .atom text => text
  | .record name [] => name
  | .record name fields => name ++ " \x7b " ++ ", ".intercalate (inlineFields fields) ++ " \x7d"
  | .tuple name parts => name ++ "(" ++ ", ".intercalate (inlineParts parts) ++ ")"
  | .list parts => "[" ++ ", ".intercalate (inlineParts parts) ++ "]"

def inlineFields : List (String × Shown) → List String
  | [] => []
  | (name, value) :: rest => (name ++ ": " ++ value.inline) :: inlineFields rest

def inlineParts : List Shown → List String
  | [] => []
  | value :: rest => value.inline :: inlineParts rest

end

/-! ## Over several lines -/

/-- The line break before something `depth` levels deep. -/
def lineAt (depth : Nat) : String :=
  "\n" ++ String.ofList (List.replicate (4 * depth) ' ')

mutual

/-- The tree as it stands inside something `depth` levels deep. -/
def indentedAt (depth : Nat) : Shown → String
  | .atom text => text
  | .record name [] => name
  | .record name fields =>
      name ++ " \x7b" ++ fieldLines (depth + 1) fields ++ lineAt depth ++ "\x7d"
  | .tuple name parts => name ++ "(" ++ partLines (depth + 1) parts ++ lineAt depth ++ ")"
  | .list [] => "[]"
  | .list parts => "[" ++ partLines (depth + 1) parts ++ lineAt depth ++ "]"

def fieldLines (depth : Nat) : List (String × Shown) → String
  | [] => ""
  | (name, value) :: rest =>
      lineAt depth ++ name ++ ": " ++ value.indentedAt depth ++ "," ++ fieldLines depth rest

def partLines (depth : Nat) : List Shown → String
  | [] => ""
  | value :: rest => lineAt depth ++ value.indentedAt depth ++ "," ++ partLines depth rest

end

def indented (shown : Shown) : String :=
  shown.indentedAt 0

end Shown

end NodeSettings.Text
