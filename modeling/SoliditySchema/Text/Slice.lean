/-
  SoliditySchema.Text.Slice — a text as bytes, and parts of it by byte offsets.

  A part is there only if both its offsets fall between two characters, so that taking one says whether
  a walk over the bytes has kept to the characters.
-/

import SoliditySchema.Text.Position

namespace SoliditySchema.Text

/-- The bytes of a text in UTF-8. -/
def bytes (cs : List Char) : List UInt8 := cs.flatMap String.utf8EncodeChar

/-- What follows the first `n` bytes of a text, if `n` falls between two characters. -/
def dropBytes? : List Char → Nat → Option (List Char)
  | cs, 0 => some cs
  | [], _ + 1 => none
  | c :: cs, n + 1 => if c.utf8Size ≤ n + 1 then dropBytes? cs (n + 1 - c.utf8Size) else none

/-- The part of a text between two byte offsets. -/
def slice? (cs : List Char) (start stop : Nat) : Option (List Char) :=
  if start ≤ stop then (dropBytes? cs start).bind fun rest => takeBytes? rest (stop - start) else none

/-- The byte offset at which a text first reads `pattern`. -/
def find? (pattern : List Char) : List Char → Option Nat
  | [] => if pattern = [] then some 0 else none
  | c :: cs => if pattern.isPrefixOf (c :: cs) then some 0 else (find? pattern cs).map (c.utf8Size + ·)

end SoliditySchema.Text
