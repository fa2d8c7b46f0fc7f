/-
  SoliditySchema.Text.CodeRange — sets of characters as ranges of code points.
-/

namespace SoliditySchema.Text

/-- The character's code point lies in one of the ranges, ends included. -/
def inRanges (ranges : List (Nat × Nat)) (c : Char) : Bool :=
  ranges.any fun r => r.1 ≤ c.toNat && c.toNat ≤ r.2

end SoliditySchema.Text
