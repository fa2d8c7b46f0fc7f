/-
  SoliditySchema.Proofs.Schema.Listing — a listing determines its database.

  If no name has a newline, a listing falls into the lines it was written from. Which of them begins a table
  can be told from its first character, since the line of a column begins with a blank. A name is what is left
  of its line without the known beginning and the known end, and the columns of a table are the lines up to
  the next table. `Database.ofListing?` decodes a listing in this way.
-/

import SoliditySchema.Proofs.Schema.Names
import SoliditySchema.Proofs.Text.Between
import SoliditySchema.Proofs.Text.Line
import SoliditySchema.Schema.Listing

namespace SoliditySchema

/-! ## The decoder -/

/-- The column of a line. -/
def Column.ofListingLine? (line : String) : Option Column :=
  [ColumnType.integer, .string].findSome? fun type =>
    (Text.between? "  " (": " ++ type.label) line).map fun name => ⟨name, type⟩

/-- Decodes the lines of tables from the last one backwards: the columns of a table whose first line is yet to
come, and the tables after it. -/
def Table.ofListingLines? : List String → Option (List Column × List Table)
  | [] => some ([], [])
  | line :: lines =>
    match ofListingLines? lines with
    | none => none
    | some (columns, tables) =>
      match Text.between? "Collection: " "" line with
      | some name => some ([], ⟨name, columns⟩ :: tables)
      | none => (Column.ofListingLine? line).map fun c => (c :: columns, tables)

/-- Decodes a listing. -/
def Database.ofListing? (listing : String) : Option Database :=
  match Text.lines listing with
  | [] => none
  | line :: lines =>
    match Text.between? "Database: " "" line, Table.ofListingLines? lines with
    | some name, some ([], tables) => some ⟨name, tables⟩
    | _, _ => none

/-! ## Lines -/

/-- The first line of a listing. -/
def Database.listingHeader (d : Database) : String := "Database: " ++ d.name

/-- The first line of a table. -/
def Table.listingHeader (t : Table) : String := "Collection: " ++ t.name

/-- A line that begins as the first line of a table does. -/
def Table.beginsListing (line : String) : Bool := "Collection: ".toList.isPrefixOf line.toList

theorem Column.toList_listingLine (c : Column) :
    c.listingLine.toList = [' ', ' '] ++ (c.name.toList ++ ':' :: ' ' :: c.type.label.toList) := by
  show ("  " ++ c.name ++ ": " ++ c.type.label).toList = _
  simp

theorem Table.toList_listingHeader (t : Table) : t.listingHeader.toList = "Collection: ".toList ++ t.name.toList :=
  String.toList_append

theorem Database.toList_listingHeader (d : Database) : d.listingHeader.toList = "Database: ".toList ++ d.name.toList :=
  String.toList_append

theorem Table.listingLines_eq (t : Table) :
    t.listingLines = t.listingHeader :: t.columns.map Column.listingLine := rfl

theorem Column.listingLine_onOneLine {c : Column} (h : OnOneLine c.name) : OnOneLine c.listingLine := by
  have hlabel : '\n' ∉ c.type.label.toList := by cases c.type <;> decide
  have hname : '\n' ∉ c.name.toList := h
  rw [OnOneLine, toList_listingLine]
  simp [hlabel, hname]

theorem Table.listingLines_onOneLine {t : Table} (h : ∀ name ∈ t.names, OnOneLine name) :
    ∀ line ∈ t.listingLines, OnOneLine line := by
  intro line hline
  rw [listingLines_eq] at hline
  rcases List.mem_cons.mp hline with rfl | hline
  · have hname : '\n' ∉ t.name.toList := h _ t.name_mem
    rw [OnOneLine, toList_listingHeader]
    simp [hname]
  · obtain ⟨c, hc, rfl⟩ := List.mem_map.mp hline
    exact Column.listingLine_onOneLine (h _ (columnName_mem hc))

theorem Database.listingLines_onOneLine {d : Database} (h : ∀ name ∈ d.names, OnOneLine name) :
    ∀ line ∈ d.listingHeader :: d.tables.flatMap Table.listingLines, OnOneLine line := by
  intro line hline
  rcases List.mem_cons.mp hline with rfl | hline
  · have hname : '\n' ∉ d.name.toList := h _ d.name_mem
    rw [OnOneLine, toList_listingHeader]
    simp [hname]
  · obtain ⟨t, ht, hline⟩ := List.mem_flatMap.mp hline
    exact Table.listingLines_onOneLine (fun name hn => h _ (tableNames_mem ht hn)) line hline

/-- If no name has a newline, the lines of a listing are those it was written from. -/
theorem Database.lines_toListing {d : Database} (h : ∀ name ∈ d.names, OnOneLine name) :
    Text.lines d.toListing = d.listingHeader :: d.tables.flatMap Table.listingLines :=
  Text.lines_unlines (listingLines_onOneLine h)

theorem Column.listingLine_apart (c : Column) : ¬ Table.beginsListing c.listingLine = true := by
  rw [Table.beginsListing, List.isPrefixOf_iff_prefix]
  intro h
  obtain ⟨rest, hrest⟩ := h
  rw [toList_listingLine] at hrest
  injection hrest with hc _
  exact absurd hc (by decide)

theorem Table.filter_listingLines (t : Table) : t.listingLines.filter beginsListing = [t.listingHeader] := by
  have hheader : beginsListing t.listingHeader = true := by
    rw [beginsListing, List.isPrefixOf_iff_prefix]
    exact ⟨_, t.toList_listingHeader.symm⟩
  have hcolumns : ∀ line ∈ t.columns.map Column.listingLine, ¬ beginsListing line = true := by
    intro line hline
    obtain ⟨c, -, rfl⟩ := List.mem_map.mp hline
    exact c.listingLine_apart
  rw [listingLines_eq, List.filter_cons_of_pos hheader, List.filter_eq_nil_iff.mpr hcolumns]

/-- The lines of a listing that begin as tables do are the first lines of its tables, in order. -/
theorem Database.filter_toListing {d : Database} (h : ∀ name ∈ d.names, OnOneLine name) :
    (Text.lines d.toListing).filter Table.beginsListing = d.tables.map Table.listingHeader := by
  have hheader : ¬ Table.beginsListing d.listingHeader = true := by
    rw [Table.beginsListing, List.isPrefixOf_iff_prefix, toList_listingHeader]
    intro hp
    obtain ⟨rest, hrest⟩ := hp
    simp at hrest
  rw [lines_toListing h, List.filter_cons_of_neg hheader, List.filter_flatMap]
  simp only [Table.filter_listingLines]
  exact List.map_eq_flatMap.symm

/-! ## Decoding -/

/-- No column type is written as the end of another one. -/
theorem ColumnType.labels_apart : ∀ type ∈ [integer, string], ∀ type' ∈ [integer, string],
    (": " ++ type.label).toList <:+ (": " ++ type'.label).toList → type = type' := by decide

theorem Column.ofListingLine?_listingLine (c : Column) : ofListingLine? c.listingLine = some c := by
  have hmem : c.type ∈ [ColumnType.integer, .string] := by cases c.type <;> decide
  have hfound := Text.findSome?_between? ColumnType.labels_apart hmem "  " c.name fun type name =>
    (⟨name, type⟩ : Column)
  rw [← String.append_assoc] at hfound
  exact hfound

theorem Table.ofListingLines?_columns (cs : List Column) {lines : List String} {tables : List Table}
    (h : ofListingLines? lines = some ([], tables)) :
    ofListingLines? (cs.map Column.listingLine ++ lines) = some (cs, tables) := by
  induction cs with
  | nil => exact h
  | cons c cs ih =>
    have hname : Text.between? "Collection: " "" c.listingLine = none := by
      apply Text.between?_eq_none
      intro hp
      exact c.listingLine_apart (List.isPrefixOf_iff_prefix.mpr hp)
    simp only [List.map_cons, List.cons_append, ofListingLines?, ih, hname, Column.ofListingLine?_listingLine]
    rfl

/-- The lines of a table are decoded to that table, whatever its names look like. -/
theorem Table.ofListingLines?_table (t : Table) {lines : List String} {tables : List Table}
    (h : ofListingLines? lines = some ([], tables)) :
    ofListingLines? (t.listingLines ++ lines) = some ([], t :: tables) := by
  have hname : Text.between? "Collection: " "" t.listingHeader = some t.name := Text.between?_opening _ _
  rw [listingLines_eq, List.cons_append]
  simp only [ofListingLines?, ofListingLines?_columns t.columns h, hname]

theorem Table.ofListingLines?_tables (tables : List Table) :
    ofListingLines? (tables.flatMap Table.listingLines) = some ([], tables) := by
  induction tables with
  | nil => rfl
  | cons t tables ih =>
    rw [List.flatMap_cons]
    exact ofListingLines?_table t ih

theorem Database.ofListing?_eq {d : Database} (h : ∀ name ∈ d.names, OnOneLine name) :
    ofListing? d.toListing = some d := by
  have hname : Text.between? "Database: " "" d.listingHeader = some d.name := Text.between?_opening _ _
  simp only [ofListing?, lines_toListing h, Table.ofListingLines?_tables, hname]

/-- One line for a table, and one for each of its columns. -/
theorem Table.length_listingLines (t : Table) : t.listingLines.length = 1 + t.columns.length := by
  rw [listingLines_eq, List.length_cons, List.length_map, Nat.add_comm]

theorem Database.length_listingLines (d : Database) :
    (d.tables.flatMap Table.listingLines).length = d.tables.length + d.columnCount := by
  obtain ⟨name, tables⟩ := d
  show (tables.flatMap Table.listingLines).length =
    tables.length + tables.foldr (fun t n => t.columns.length + n) 0
  induction tables with
  | nil => rfl
  | cons t tables ih =>
    rw [List.flatMap_cons, List.length_append, Table.length_listingLines, ih, List.length_cons, List.foldr_cons]
    omega

/-- A listing is lossless if no name has a newline: it is decoded to its database, it is made of one line for
the database and one for each table and each column, and no other such database has the same listing. -/
theorem Database.listing_lossless {d : Database} (h : ∀ name ∈ d.names, OnOneLine name) :
    ofListing? d.toListing = some d ∧
    Text.unlines (Text.lines d.toListing) = d.toListing ∧
    (Text.lines d.toListing).length = 1 + d.tables.length + d.columnCount ∧
    ∀ d' : Database, (∀ name ∈ d'.names, OnOneLine name) → d'.toListing = d.toListing → d' = d := by
  refine ⟨ofListing?_eq h, ?_, ?_, ?_⟩
  · rw [lines_toListing h]
    rfl
  · rw [lines_toListing h, List.length_cons, length_listingLines]
    omega
  · intro d' h' hsame
    have := ofListing?_eq h'
    rw [hsame, ofListing?_eq h] at this
    exact (Option.some_inj.mp this).symm

/-- A database whose names read like lines of a listing. -/
def misleadingDatabase : Database :=
  ⟨"Database: a", [⟨"", []⟩, ⟨"Collection: x", [⟨"Collection: y", .integer⟩, ⟨"  a: STRING", .integer⟩, ⟨"", .string⟩]⟩]⟩

theorem misleadingDatabase_decoded : (∀ name ∈ misleadingDatabase.names, OnOneLine name) ∧
    Database.ofListing? misleadingDatabase.toListing = some misleadingDatabase ∧
    (Text.lines misleadingDatabase.toListing).length = 6 :=
  have hlossless := Database.listing_lossless (d := misleadingDatabase) (by decide)
  ⟨by decide, hlossless.1, hlossless.2.2.1⟩

end SoliditySchema
