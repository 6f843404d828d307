/-!
# Blank characters

The characters with the Unicode property `White_Space`, and the removal of blanks
from both ends of a text.
-/

set_option autoImplicit false

namespace ByteMachine

namespace Blank

/-- The code points with the property `White_Space`, as closed ranges in
ascending order. -/
def ranges : List (Nat × Nat) :=
  [(0x09, 0x0D), (0x20, 0x20), (0x85, 0x85), (0xA0, 0xA0), (0x1680, 0x1680),
    (0x2000, 0x200A), (0x2028, 0x2029), (0x202F, 0x202F), (0x205F, 0x205F),
    (0x3000, 0x3000)]

end Blank

/-- Whether a character is blank. -/
def isBlank (char : Char) : Bool :=
  Blank.ranges.any fun (first, last) => first ≤ char.toNat && char.toNat ≤ last

/-- A text without the blanks at its two ends. -/
def trim (text : List Char) : List Char :=
  ((text.dropWhile isBlank).reverse.dropWhile isBlank).reverse

end ByteMachine
