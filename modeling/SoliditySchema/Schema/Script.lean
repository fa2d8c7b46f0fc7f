/-
  SoliditySchema.Schema.Script — a database as a script of statements.

  One statement creates the database, and one each table, with a line for each column and a comma after
  all but the last. Names stand as they are, without quotes.
-/

import SoliditySchema.Schema
import SoliditySchema.Text.Line

namespace SoliditySchema

/-- The lines of columns. -/
def Column.scriptLines : List Column → List String
  | [] => []
  | [c] => ["  " ++ c.name ++ " " ++ c.type.label]
  | c :: cs => ("  " ++ c.name ++ " " ++ c.type.label ++ ",") :: scriptLines cs

/-- The lines of the statement that creates a table. -/
def Table.scriptLines (t : Table) : List String :=
  ("CREATE TABLE " ++ t.name ++ " (") :: Column.scriptLines t.columns ++ [");"]

/-- The statement that creates a table. -/
def Table.toScript (t : Table) : String := Text.unlines t.scriptLines

/-- The script that creates a database with its tables. -/
def Database.toScript (d : Database) : String :=
  Text.unlines (("CREATE DATABASE " ++ d.name ++ ";") :: d.tables.flatMap Table.scriptLines)

end SoliditySchema
