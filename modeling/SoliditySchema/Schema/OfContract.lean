/-
  SoliditySchema.Schema.OfContract — the schema of a contract.

  Each struct is a table with a column for each member. Each function is a table with a column for each
  declaring statement of its body: the first variable that the statement declares, whatever it declares
  after it. A type that resolves to no name makes the whole contract fail; the tables before that one
  have been built and reported by then.
-/

import SoliditySchema.Event
import SoliditySchema.Outline
import SoliditySchema.Schema

namespace SoliditySchema

/-- A column whose type resolves to no name. -/
structure UnresolvedColumn where
  table : String
  column : String
  deriving DecidableEq, Repr

/-- The message for a column without a type name. -/
def UnresolvedColumn.message (u : UnresolvedColumn) : String :=
  "Cannot resolve a type name for column '" ++ u.column ++ "' of table '" ++ u.table ++ "'"

/-- The column of a variable of a table. -/
def Column.ofVariable (table : String) (v : Outline.Variable) : Except UnresolvedColumn Column :=
  match v.type.resolvedName with
  | some name => .ok ⟨v.name, ColumnType.ofTypeName name⟩
  | none => .error ⟨table, v.name⟩

/-- The variable that a statement contributes: the first that it declares. -/
def Outline.Statement.firstVariable? : Outline.Statement → Option Outline.Variable
  | .declare slots => slots.findSome? id
  | .other => none

namespace Table

/-- A table of the given variables, or the first column that has no type. -/
def ofVariables (name : String) (vs : List Outline.Variable) : Except UnresolvedColumn Table :=
  (vs.mapM (Column.ofVariable name)).map fun columns => ⟨name, columns⟩

/-- The table of a part of a contract, if the part is one. -/
def ofPart? : Outline.Part → Option (Except UnresolvedColumn Table)
  | .structDefinition name members => some (ofVariables name members)
  | .function name statements => some (ofVariables name (statements.filterMap (·.firstVariable?)))
  | .ignored => none

end Table

/-- What comes of a contract: the tables built, and the column at which building stopped, if it did. -/
structure BuiltTables where
  tables : List Table
  stopped : Option UnresolvedColumn
  deriving DecidableEq, Repr

namespace BuiltTables

/-- Builds tables up to the first that fails. -/
def ofAttempts : List (Except UnresolvedColumn Table) → BuiltTables
  | [] => ⟨[], none⟩
  | .error u :: _ => ⟨[], some u⟩
  | .ok t :: rest =>
    let built := ofAttempts rest
    ⟨t :: built.tables, built.stopped⟩

/-- The tables of a contract. -/
def ofContract (c : Outline.Contract) : BuiltTables := ofAttempts (c.parts.filterMap Table.ofPart?)

/-- The reports of the tables, one for each. -/
def events (contract : String) (built : BuiltTables) : List Event :=
  built.tables.map fun t => .builtTable contract t.name t.columns.length

end BuiltTables

namespace Database

/-- The database of a contract. -/
def ofContract (c : Outline.Contract) : Except UnresolvedColumn Database :=
  let built := BuiltTables.ofContract c
  match built.stopped with
  | some u => .error u
  | none => .ok ⟨c.name, built.tables⟩

end Database

end SoliditySchema
