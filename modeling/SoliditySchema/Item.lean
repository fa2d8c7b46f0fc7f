/-
  SoliditySchema.Item — the top-level items of a text.

  A text that does not parse as a whole is cut into items: one ends with a brace that closes the
  outermost one, or with a semicolon outside all braces. Braces and semicolons in comments and in
  literals between quotes do not count. The cutting is a walk over the characters whose state, the
  `Cursor`, is back at its beginning after every cut, so what follows a cut is cut as if it stood
  alone. A rest of white space is no item.
-/

import SoliditySchema.Text.Blank
import SoliditySchema.Text.Position

namespace SoliditySchema

/-- Where a walk over a text stands: in code, maybe behind a slash that opens a comment, in a comment, in
a block comment behind a star that may end it, or in a literal, maybe behind a backslash. -/
inductive Region where
  | code
  | slash
  | lineComment
  | blockComment
  | star
  | quoted (quote : Char)
  | escaped (quote : Char)
  deriving DecidableEq, Repr

/-- The state of a walk: the region and the number of open braces. -/
structure Cursor where
  region : Region
  depth : Nat
  deriving DecidableEq, Repr

namespace Cursor

/-- The state at the beginning of an item. -/
def start : Cursor := ⟨.code, 0⟩

/-- A character of code, and whether an item ends after it. -/
def stepCode (depth : Nat) (c : Char) : Cursor × Bool :=
  if c = '/' then (⟨.slash, depth⟩, false)
  else if c = '"' ∨ c = '\'' then (⟨.quoted c, depth⟩, false)
  else if c = '{' then (⟨.code, depth + 1⟩, false)
  else if c = '}' then (⟨.code, depth - 1⟩, depth ≤ 1)
  else (⟨.code, depth⟩, c = ';' ∧ depth = 0)

/-- The state after a character, and whether an item ends after it. -/
def step (s : Cursor) (c : Char) : Cursor × Bool :=
  match s.region with
  | .code => stepCode s.depth c
  | .slash =>
    if c = '/' then (⟨.lineComment, s.depth⟩, false)
    else if c = '*' then (⟨.blockComment, s.depth⟩, false)
    else stepCode s.depth c
  | .lineComment => (⟨if c = '\n' then .code else .lineComment, s.depth⟩, false)
  | .blockComment => (⟨if c = '*' then .star else .blockComment, s.depth⟩, false)
  | .star =>
    (⟨if c = '/' then .code else if c = '*' then .star else .blockComment, s.depth⟩, false)
  | .quoted q =>
    (⟨if c = '\\' then .escaped q else if c = q then .code else .quoted q, s.depth⟩, false)
  | .escaped q => (⟨.quoted q, s.depth⟩, false)

end Cursor

/-- A piece of a text and the byte offset where it begins. -/
structure Item where
  start : Nat
  text : List Char
  deriving DecidableEq, Repr

namespace Item

/-- Puts a character before the first piece. -/
def extend (c : Char) : List (List Char) → List (List Char)
  | [] => [[c]]
  | p :: ps => (c :: p) :: ps

/-- The pieces between the cuts, from a given state on. The last piece, after the last cut, may be
empty. -/
def pieces (s : Cursor) : List Char → List (List Char)
  | [] => [[]]
  | c :: cs =>
    let (s', ends) := s.step c
    if ends then [c] :: pieces s' cs else extend c (pieces s' cs)

/-- Gives consecutive pieces their places. -/
def place (start : Nat) : List (List Char) → List Item
  | [] => []
  | p :: ps => ⟨start, p⟩ :: place (start + Text.byteLength p) ps

/-- The top-level items of a text. -/
def ofText (text : List Char) : List Item :=
  (place 0 (pieces .start text)).filter fun item => !Text.isBlankText item.text

end Item

end SoliditySchema
