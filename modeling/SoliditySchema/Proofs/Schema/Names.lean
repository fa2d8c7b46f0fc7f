/-
  SoliditySchema.Proofs.Schema.Names — the names in a schema.

  The renderings other than JSON put names into lines as they are; what can be said of such a text depends on
  what the names are made of.
-/

import SoliditySchema.Schema

namespace SoliditySchema

/-- The names of a table and its columns. -/
def Table.names (t : Table) : List String := t.name :: t.columns.map Column.name

/-- The names of a database, its tables and their columns. -/
def Database.names (d : Database) : List String := d.name :: d.tables.flatMap Table.names

/-- A name without a newline. -/
def OnOneLine (name : String) : Prop := '\n' ∉ name.toList

instance (name : String) : Decidable (OnOneLine name) := inferInstanceAs (Decidable (¬ '\n' ∈ name.toList))

theorem Database.name_mem (d : Database) : d.name ∈ d.names := List.mem_cons_self

theorem Database.tableNames_mem {d : Database} {t : Table} (ht : t ∈ d.tables) {name : String} (h : name ∈ t.names) :
    name ∈ d.names := List.mem_cons_of_mem _ (List.mem_flatMap.mpr ⟨t, ht, h⟩)

theorem Table.name_mem (t : Table) : t.name ∈ t.names := List.mem_cons_self

theorem Table.columnName_mem {t : Table} {c : Column} (hc : c ∈ t.columns) : c.name ∈ t.names :=
  List.mem_cons_of_mem _ (List.mem_map_of_mem hc)

end SoliditySchema
