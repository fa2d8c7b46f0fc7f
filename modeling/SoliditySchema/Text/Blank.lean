/-
  SoliditySchema.Text.Blank — white space.

  The Unicode class White_Space: it separates tokens, and a text of it alone is blank.
-/

import SoliditySchema.Text.CodeRange

namespace SoliditySchema.Text

/-- The ranges of the class White_Space. -/
def blankRanges : List (Nat × Nat) := [
  (0x9, 0xD), (0x20, 0x20), (0x85, 0x85), (0xA0, 0xA0), (0x1680, 0x1680), (0x2000, 0x200A),
  (0x2028, 0x2029), (0x202F, 0x202F), (0x205F, 0x205F), (0x3000, 0x3000)]

/-- A white space character. -/
def isBlank (c : Char) : Bool := inRanges blankRanges c

/-- A text of white space alone. -/
def isBlankText (cs : List Char) : Bool := cs.all isBlank

/-- The text without the white space at its two ends. -/
def trim (cs : List Char) : List Char :=
  ((cs.dropWhile isBlank).reverse.dropWhile isBlank).reverse

end SoliditySchema.Text
