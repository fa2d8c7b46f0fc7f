/-
  SoliditySchema.Report — the printed result of a run.

  For each database, each format: a label line and the database in that format, ended by a newline.
-/

import SoliditySchema.Format

namespace SoliditySchema

/-- Databases and the formats in which to print each. -/
structure Report where
  databases : List Database
  formats : List Format
  deriving DecidableEq, Repr

namespace Report

/-- A text with a newline at its end, added unless there is one. -/
def endLine (s : String) : String := if s.toList.getLast? = some '\n' then s else s ++ "\n"

/-- A database in a format, under its label. -/
def block (d : Database) (f : Format) : String := f.label ++ "\n" ++ endLine (f.render d)

/-- The text of a report. -/
def render (r : Report) : String := String.join (r.databases.flatMap fun d => r.formats.map (block d))

end Report

end SoliditySchema
