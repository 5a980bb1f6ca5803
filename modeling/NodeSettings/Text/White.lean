/-
# NodeSettings.Text.White -- white space among the characters

The characters with the white space property: the ASCII ones that move the
cursor, the space, and the spaces and separators beyond ASCII.
-/

namespace NodeSettings.Text

set_option autoImplicit false

/-- Closed ranges of codes, ascending and apart. -/
def whiteRanges : List (Nat × Nat) :=
  [(0x9, 0xD), (0x20, 0x20), (0x85, 0x85), (0xA0, 0xA0), (0x1680, 0x1680), (0x2000, 0x200A),
    (0x2028, 0x2029), (0x202F, 0x202F), (0x205F, 0x205F), (0x3000, 0x3000)]

def isWhite (c : Char) : Bool :=
  whiteRanges.any fun range => range.1 ≤ c.toNat && c.toNat ≤ range.2

end NodeSettings.Text
