/-
  SoliditySchema.Text.Position — places in a text.

  A place is given by its byte offset in the UTF-8 form of the text and shown as a line and a column,
  both counted from 1, the column in characters; only a newline ends a line. An offset inside a
  character or past the end is shown as the end of the text.
-/

namespace SoliditySchema.Text

/-- The number of bytes of a text in UTF-8. -/
def byteLength : List Char → Nat
  | [] => 0
  | c :: cs => c.utf8Size + byteLength cs

/-- The beginning of a text that is `n` bytes long, if `n` falls between two characters. -/
def takeBytes? : List Char → Nat → Option (List Char)
  | _, 0 => some []
  | [], _ + 1 => none
  | c :: cs, n => if c.utf8Size ≤ n then (takeBytes? cs (n - c.utf8Size)).map (c :: ·) else none

/-- A line and a column, both from 1. -/
structure Position where
  line : Nat
  column : Nat
  deriving DecidableEq, Repr

namespace Position

/-- The place where every text begins. -/
def first : Position := ⟨1, 1⟩

/-- The place right after a character that stands at `p`. -/
def after (p : Position) (c : Char) : Position :=
  if c = '\n' then ⟨p.line + 1, 1⟩ else ⟨p.line, p.column + 1⟩

/-- The place right after a text that begins at `p`. -/
def afterText (p : Position) (cs : List Char) : Position := cs.foldl after p

end Position

/-- The place of a byte offset. -/
def lineColumn (text : List Char) (offset : Nat) : Position :=
  Position.first.afterText ((takeBytes? text offset).getD text)

end SoliditySchema.Text
