/-
  SoliditySchema.Diagnostic — syntax errors as they are shown.
-/

import SoliditySchema.SyntaxError
import SoliditySchema.Text.Position

namespace SoliditySchema

/-- A syntax error with its line and column. -/
structure Diagnostic where
  place : Text.Position
  message : String
  deriving DecidableEq, Repr

namespace Diagnostic

/-- An error of a part of `text` that begins at byte `offset`. -/
def ofError (text : List Char) (offset : Nat) (e : SyntaxError) : Diagnostic :=
  ⟨Text.lineColumn text (offset + e.start), e.problem.message⟩

/-- A diagnostic on a line of its own: the line, the column and the message. -/
def render (d : Diagnostic) : String :=
  toString d.place.line ++ ":" ++ toString d.place.column ++ ": " ++ d.message

/-- The message for a source that does not parse. -/
def failureMessage (ds : List Diagnostic) : String :=
  "Failed to parse source: " ++ "; ".intercalate (ds.map render)

end Diagnostic

end SoliditySchema
