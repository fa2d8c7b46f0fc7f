/-
  SoliditySchema.Schema — databases, tables and columns.

  A database is the schema of one contract: its tables in the order of their definitions, each with its
  columns in the order of their declarations. Names may repeat and may be empty.
-/

namespace SoliditySchema

/-- The type of a column. -/
inductive ColumnType where
  | integer
  | string
  deriving DecidableEq, Repr

namespace ColumnType

/-- The type as every rendering writes it. -/
def label : ColumnType → String
  | .integer => "INTEGER"
  | .string => "STRING"

/-- The column type of a type name: only the names of the 256-bit unsigned integer are integers. -/
def ofTypeName (name : String) : ColumnType :=
  if name = "uint256" ∨ name = "uint" then .integer else .string

end ColumnType

/-- A column. -/
structure Column where
  name : String
  type : ColumnType
  deriving DecidableEq, Repr

/-- A table. -/
structure Table where
  name : String
  columns : List Column
  deriving DecidableEq, Repr

/-- A table without columns. -/
def Table.isEmpty (t : Table) : Bool := t.columns.isEmpty

/-- The schema of a contract. -/
structure Database where
  name : String
  tables : List Table
  deriving DecidableEq, Repr

/-- The number of columns of all tables together. -/
def Database.columnCount (d : Database) : Nat := d.tables.foldr (fun t n => t.columns.length + n) 0

end SoliditySchema
