/-
  SoliditySchema.Proofs.Schema.JsonForm — a database is read back from its JSON text.

  A column, a table and a database are each written as an object whose members are the fields of its shape
  in order. Each is read as a datum that says the same (`Column.datum`, `Table.datum`, `Database.datum`),
  whatever its names are, and the datum gives it back.
-/

import SoliditySchema.Proofs.Json.Pretty
import SoliditySchema.Schema.JsonForm

namespace SoliditySchema

open Json Input

/-! ## Data of a schema -/

/-- A column as it is read. -/
def Column.datum (c : Column) : Datum := .record [.text c.name, .choice c.type.label]

/-- A table as it is read. -/
def Table.datum (t : Table) : Datum := .record [.text t.name, .list (t.columns.map Column.datum)]

/-- A database as it is read. -/
def Database.datum (d : Database) : Datum := .record [.text d.name, .list (d.tables.map Table.datum)]

theorem Column.ofDatum_datum (c : Column) : ofDatum c.datum = c := by
  obtain ⟨name, type⟩ := c
  cases type <;> rfl

theorem Table.ofDatum_datum (t : Table) : ofDatum t.datum = t := by
  have hcolumns : (t.columns.map Column.datum).map Column.ofDatum = t.columns := by
    rw [List.map_map]
    exact List.map_id'' Column.ofDatum_datum t.columns
  exact congrArg (Table.mk t.name) hcolumns

theorem Database.ofDatum_datum (d : Database) : ofDatum d.datum = d := by
  have htables : (d.tables.map Table.datum).map Table.ofDatum = d.tables := by
    rw [List.map_map]
    exact List.map_id'' Table.ofDatum_datum d.tables
  exact congrArg (Database.mk d.name) htables

/-! ## Reading what is written -/

theorem blanks_space : Blanks [' '] := Blanks.of_spaces 1

/-- The member that names a column, a table or a database. -/
def nameEntry (name : String) : Entry where
  field := ⟨"name", Shape.text.read, none⟩
  text := quote name
  value := .text name
  reads := by
    intro rest
    have h := (Reader.reads_text blanks_space (spells_escaped name.toList) "a string" rest).map Datum.text
    rw [← quote_append] at h
    exact h

/-- The member with the type of a column. -/
def typeEntry (type : ColumnType) : Entry where
  field := ⟨"type", (Shape.choice ["INTEGER", "STRING"]).read, none⟩
  text := quote type.label
  value := .choice type.label
  reads := by
    intro rest
    have hmem : type.label ∈ ["INTEGER", "STRING"] := by cases type <;> simp [ColumnType.label]
    have h := Reader.reads_choice blanks_space (spells_escaped type.label.toList) hmem rest
    rw [← quote_append] at h
    exact h

/-- A column stands as an element of a list. -/
theorem Column.isElement (depth : Nat) (c : Column) : IsElement Column.shape.read (pretty depth c.toJson) c.datum where
  begins := ⟨'{', _, rfl, rfl, by decide⟩
  reads := by
    intro rest
    have hkeys : ["name", "type"].Nodup := by decide
    exact Entry.reads_lines [nameEntry c.name, typeEntry c.type] hkeys "struct Column" .nil rest

/-- The member with the columns of a table. -/
def columnsEntry (depth : Nat) (columns : List Column) : Entry where
  field := ⟨"columns", (Shape.list Column.shape).read, none⟩
  text := pretty depth (.array (columns.map Column.toJson))
  value := .list (columns.map Column.datum)
  reads := by
    intro rest
    have h := reads_elementLines depth (Column.isElement (depth + 1)) columns blanks_space rest
    rw [pretty, prettyElements_eq_map, List.map_map]
    exact h

theorem Table.isElement (depth : Nat) (t : Table) : IsElement Table.shape.read (pretty depth t.toJson) t.datum where
  begins := ⟨'{', _, rfl, rfl, by decide⟩
  reads := by
    intro rest
    have hkeys : ["name", "columns"].Nodup := by decide
    exact Entry.reads_lines [nameEntry t.name, columnsEntry (depth + 1) t.columns] hkeys "struct Table" .nil rest

/-- The member with the tables of a database. -/
def tablesEntry (depth : Nat) (tables : List Table) : Entry where
  field := ⟨"tables", (Shape.list Table.shape).read, none⟩
  text := pretty depth (.array (tables.map Table.toJson))
  value := .list (tables.map Table.datum)
  reads := by
    intro rest
    have h := reads_elementLines depth (Table.isElement (depth + 1)) tables blanks_space rest
    rw [pretty, prettyElements_eq_map, List.map_map]
    exact h

theorem Database.reads_datum (depth : Nat) (d : Database) (rest : List Char) :
    Reads Database.shape.read (pretty depth d.toJson ++ rest) d.datum rest := by
  have hkeys : ["name", "tables"].Nodup := by decide
  exact Entry.reads_lines [nameEntry d.name, tablesEntry (depth + 1) d.tables] hkeys "struct Database" .nil rest

/-- A text that is read as a value up to blanks is a text of that value. -/
theorem readText_of_reads {shape : Shape} {text : String} {d : Datum} {b : List Char} (hb : Blanks b)
    (h : Reads shape.read text.toList d b) : shape.readText text = .ok d := by
  obtain ⟨j, hj, hrest⟩ := h (Input.ofText text) rfl
  have hend : j.skipBlanks.rest = [] := rest_skipBlanks_of_blanks (by rw [hrest]; exact hb)
  simp only [Shape.readText, hj, bind, Except.bind, hend, if_true]
  rfl

/-- Blanks behind the text of a database do not matter. -/
theorem Database.ofJsonText_append (d : Database) {text : String} {b : List Char} (hb : Blanks b)
    (h : text.toList = d.toJsonText.toList ++ b) : Database.ofJsonText text = .ok d := by
  have htext : d.toJsonText.toList = pretty 0 d.toJson := String.toList_ofList
  have hread : Reads Database.shape.read text.toList d.datum b := by
    rw [h, htext]
    exact Database.reads_datum 0 d b
  rw [Database.ofJsonText, readText_of_reads hb hread]
  show Except.ok (Database.ofDatum d.datum) = .ok d
  rw [Database.ofDatum_datum]

/-- A database is read back from its text. -/
theorem Database.ofJsonText_toJsonText (d : Database) : Database.ofJsonText d.toJsonText = .ok d :=
  d.ofJsonText_append .nil (List.append_nil _).symm

end SoliditySchema
