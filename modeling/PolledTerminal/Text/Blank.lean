import PolledTerminal.Text.Ranges
set_option autoImplicit false

/-!
# Text: white space

The characters with the Unicode property White_Space, and trimming by it.
-/

namespace PolledTerminal.Text.Blank

/-- The white space characters. -/
def ranges : Ranges := [
  (0x9, 0xD), (0x20, 0x20), (0x85, 0x85), (0xA0, 0xA0), (0x1680, 0x1680), (0x2000, 0x200A),
    (0x2028, 0x2029), (0x202F, 0x202F), (0x205F, 0x205F), (0x3000, 0x3000)]

/-- The character is white space. -/
def isBlank (c : Char) : Bool := ranges.has c.toNat

/-- The text without the white space at its ends. -/
def trim (cs : List Char) : List Char :=
  ((cs.dropWhile isBlank).reverse.dropWhile isBlank).reverse

end PolledTerminal.Text.Blank
