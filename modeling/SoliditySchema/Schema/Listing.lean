/-
  SoliditySchema.Schema.Listing — a database as a listing of collections and their fields.
-/

import SoliditySchema.Schema
import SoliditySchema.Text.Line

namespace SoliditySchema

/-- The line of a column. -/
def Column.listingLine (c : Column) : String := "  " ++ c.name ++ ": " ++ c.type.label

/-- The lines of a table. -/
def Table.listingLines (t : Table) : List String :=
  ("Collection: " ++ t.name) :: t.columns.map Column.listingLine

/-- The listing of a database. -/
def Database.toListing (d : Database) : String :=
  Text.unlines (("Database: " ++ d.name) :: d.tables.flatMap Table.listingLines)

end SoliditySchema
