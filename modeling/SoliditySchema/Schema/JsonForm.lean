/-
  SoliditySchema.Schema.JsonForm — databases as JSON.

  A database is a record of its name and its tables, a table one of its name and its columns, a column
  one of its name and its type. What is written can be read back.
-/

import SoliditySchema.Json
import SoliditySchema.Json.Shape.OfText
import SoliditySchema.Schema

namespace SoliditySchema

open Json (Shape Field Datum)

/-! ## Writing -/

/-- A column as a JSON value. -/
def Column.toJson (c : Column) : Json := .object [("name", .string c.name), ("type", .string c.type.label)]

/-- A table as a JSON value. -/
def Table.toJson (t : Table) : Json :=
  .object [("name", .string t.name), ("columns", .array (t.columns.map Column.toJson))]

/-- A database as a JSON value. -/
def Database.toJson (d : Database) : Json :=
  .object [("name", .string d.name), ("tables", .array (d.tables.map Table.toJson))]

/-- A database as an indented JSON text. -/
def Database.toJsonText (d : Database) : String := d.toJson.render

/-! ## Reading -/

/-- The shape of a column. -/
def Column.shape : Shape :=
  .record "Column" [.mk "name" .text none, .mk "type" (.choice ["INTEGER", "STRING"]) none]

/-- The shape of a table. -/
def Table.shape : Shape := .record "Table" [.mk "name" .text none, .mk "columns" (.list Column.shape) none]

/-- The shape of a database. -/
def Database.shape : Shape := .record "Database" [.mk "name" .text none, .mk "tables" (.list Table.shape) none]

/-- The column that was read. -/
def Column.ofDatum : Datum → Column
  | .record [.text name, .choice "INTEGER"] => ⟨name, .integer⟩
  | .record (.text name :: _) => ⟨name, .string⟩
  | _ => ⟨"", .string⟩

/-- The table that was read. -/
def Table.ofDatum : Datum → Table
  | .record [.text name, .list columns] => ⟨name, columns.map Column.ofDatum⟩
  | _ => ⟨"", []⟩

/-- The database that was read. -/
def Database.ofDatum : Datum → Database
  | .record [.text name, .list tables] => ⟨name, tables.map Table.ofDatum⟩
  | _ => ⟨"", []⟩

/-- Reads a database from a JSON text. -/
def Database.ofJsonText (text : String) : Except Json.Fault Database :=
  (Database.shape.readText text).map Database.ofDatum

end SoliditySchema
