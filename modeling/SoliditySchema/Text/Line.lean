/-
  SoliditySchema.Text.Line — texts that are written line by line.
-/

namespace SoliditySchema.Text

/-- The text of lines, each ended by a newline. -/
def unlines (lines : List String) : String := String.join (lines.map (· ++ "\n"))

end SoliditySchema.Text
