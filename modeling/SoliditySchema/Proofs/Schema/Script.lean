/-
  SoliditySchema.Proofs.Schema.Script — a script determines its database.

  Names stand in a script without quotes and may look like anything around them, a newline apart. What a line
  is can still be told from its beginning: that of a column begins with blanks, that of a table with
  `CREATE`, and the one behind the columns is `);`. Within its line a name is what is left when the known
  beginning and the known end are taken off. `Database.ofScript?` decodes a script in this way.
-/

import Mathlib.Data.List.Forall2
import SoliditySchema.Proofs.Schema.Names
import SoliditySchema.Proofs.Text.Between
import SoliditySchema.Proofs.Text.Line
import SoliditySchema.Schema.Script

namespace SoliditySchema

/-! ## The decoder -/

/-- What may stand behind the name of a column: its type, with or without a comma. -/
def Column.endings : List (ColumnType × String) := [(.integer, ""), (.integer, ","), (.string, ""), (.string, ",")]

/-- The line of a column with a text behind it. -/
def Column.scriptLine (c : Column) (comma : String) : String := "  " ++ c.name ++ " " ++ c.type.label ++ comma

/-- The column of a line. -/
def Column.ofScriptLine? (line : String) : Option Column :=
  endings.findSome? fun e => (Text.between? "  " (" " ++ e.1.label ++ e.2) line).map fun name => ⟨name, e.1⟩

/-- Decodes the lines of tables from the last one backwards: the columns of a table whose first line is yet to
come, and the tables after it. -/
def Table.ofScriptLines? : List String → Option (List Column × List Table)
  | [] => some ([], [])
  | line :: lines =>
    match ofScriptLines? lines with
    | none => none
    | some (columns, tables) =>
      if line = ");" then some ([], tables)
      else
        match Text.between? "CREATE TABLE " " (" line with
        | some name => some ([], ⟨name, columns⟩ :: tables)
        | none => (Column.ofScriptLine? line).map fun c => (c :: columns, tables)

/-- Decodes a script. -/
def Database.ofScript? (script : String) : Option Database :=
  match Text.lines script with
  | [] => none
  | line :: lines =>
    match Text.between? "CREATE DATABASE " ";" line, Table.ofScriptLines? lines with
    | some name, some (_, tables) => some ⟨name, tables⟩
    | _, _ => none

/-! ## Lines -/

/-- No ending of a column is the end of another one. -/
theorem Column.endings_apart : ∀ e ∈ endings, ∀ e' ∈ endings,
    (" " ++ e.1.label ++ e.2).toList <:+ (" " ++ e'.1.label ++ e'.2).toList → e = e' := by decide

theorem Column.ofScriptLine?_scriptLine (c : Column) {comma : String} (h : comma = "" ∨ comma = ",") :
    ofScriptLine? (c.scriptLine comma) = some c := by
  have hmem : (c.type, comma) ∈ endings := by
    rcases h with rfl | rfl <;> cases c.type <;> simp [endings]
  have hfound := Text.findSome?_between? endings_apart hmem "  " c.name fun e name => (⟨name, e.1⟩ : Column)
  rw [← String.append_assoc, ← String.append_assoc] at hfound
  exact hfound

/-! ## Columns -/

theorem Column.toList_scriptLine (c : Column) (comma : String) :
    (c.scriptLine comma).toList = [' ', ' '] ++ (c.name.toList ++ ' ' :: c.type.label.toList ++ comma.toList) := by
  show ("  " ++ c.name ++ " " ++ c.type.label ++ comma).toList = _
  simp

theorem Column.scriptLine_blank (c : Column) (comma : String) : [' ', ' '] <+: (c.scriptLine comma).toList :=
  ⟨_, (c.toList_scriptLine comma).symm⟩

/-- A line of a column cannot be taken for the beginning or the end of a table. -/
theorem Column.scriptLine_apart (c : Column) (comma : String) :
    c.scriptLine comma ≠ ");" ∧ ¬ "CREATE TABLE ".toList <+: (c.scriptLine comma).toList := by
  obtain ⟨rest, hrest⟩ := c.scriptLine_blank comma
  constructor
  · intro h
    rw [h] at hrest
    injection hrest with hc _
    exact absurd hc (by decide)
  · intro h
    obtain ⟨more, hmore⟩ := h
    rw [← hrest] at hmore
    injection hmore with hc _
    exact absurd hc (by decide)

theorem Column.scriptLines_cons (c c' : Column) (cs : List Column) :
    scriptLines (c :: c' :: cs) = c.scriptLine "," :: scriptLines (c' :: cs) := rfl

theorem Column.scriptLines_single (c : Column) : scriptLines [c] = [c.scriptLine ""] := by
  show ["  " ++ c.name ++ " " ++ c.type.label] = ["  " ++ c.name ++ " " ++ c.type.label ++ ""]
  rw [String.append_empty]

/-- Each line is that of a column, so there are as many, and all but the last end in a comma. -/
theorem Column.scriptLines_eq (cs : List Column) (c : Column) :
    scriptLines (cs ++ [c]) = cs.map (fun c => c.scriptLine ",") ++ [c.scriptLine ""] := by
  induction cs with
  | nil => exact scriptLines_single c
  | cons d cs ih =>
    have hne : ∃ e es, cs ++ [c] = e :: es := by
      cases cs with
      | nil => exact ⟨c, [], rfl⟩
      | cons e es => exact ⟨e, es ++ [c], rfl⟩
    obtain ⟨e, es, he⟩ := hne
    rw [List.cons_append, he, scriptLines_cons, ← he, ih, List.map_cons, List.cons_append]

theorem Column.mem_scriptLines {cs : List Column} {line : String} (h : line ∈ scriptLines cs) :
    ∃ c ∈ cs, ∃ comma, (comma = "" ∨ comma = ",") ∧ line = c.scriptLine comma := by
  rcases List.eq_nil_or_concat cs with rfl | ⟨cs, c, rfl⟩
  · cases h
  · rw [List.concat_eq_append, scriptLines_eq, List.mem_append] at h
    rcases h with h | h
    · obtain ⟨d, hd, rfl⟩ := List.mem_map.mp h
      exact ⟨d, by simp [hd], ",", .inr rfl, rfl⟩
    · exact ⟨c, by simp, "", .inl rfl, List.mem_singleton.mp h⟩

/-! ## Tables -/

/-- One line of a column is decoded to that column. -/
theorem Table.ofScriptLines?_column {c : Column} {comma : String} (hcomma : comma = "" ∨ comma = ",")
    {lines : List String} {columns : List Column} {tables : List Table}
    (h : ofScriptLines? lines = some (columns, tables)) :
    ofScriptLines? (c.scriptLine comma :: lines) = some (c :: columns, tables) := by
  obtain ⟨hend, htable⟩ := c.scriptLine_apart comma
  simp only [ofScriptLines?, h, if_neg hend, Text.between?_eq_none htable, Column.ofScriptLine?_scriptLine c hcomma]
  rfl

theorem Table.ofScriptLines?_columns (cs : List Column) {lines : List String} {tables : List Table}
    (h : ofScriptLines? lines = some ([], tables)) :
    ofScriptLines? (Column.scriptLines cs ++ lines) = some (cs, tables) := by
  induction cs with
  | nil => exact h
  | cons c cs ih =>
    cases cs with
    | nil =>
      rw [Column.scriptLines_single]
      exact ofScriptLines?_column (.inl rfl) h
    | cons c' cs =>
      rw [Column.scriptLines_cons, List.cons_append]
      exact ofScriptLines?_column (.inr rfl) ih

/-- The first line of a table. -/
def Table.scriptHeader (t : Table) : String := "CREATE TABLE " ++ t.name ++ " ("

theorem Table.toList_scriptHeader (t : Table) :
    t.scriptHeader.toList = "CREATE TABLE ".toList ++ (t.name.toList ++ " (".toList) := by
  show ("CREATE TABLE " ++ t.name ++ " (").toList = _
  simp

theorem Table.scriptLines_eq (t : Table) :
    t.scriptLines = t.scriptHeader :: (Column.scriptLines t.columns ++ [");"]) := rfl

/-- The lines of a table are decoded to that table. -/
theorem Table.ofScriptLines?_table (t : Table) {lines : List String} {tables : List Table}
    (h : ofScriptLines? lines = some ([], tables)) :
    ofScriptLines? (t.scriptLines ++ lines) = some ([], t :: tables) := by
  have hend : ofScriptLines? (");" :: lines) = some ([], tables) := by
    simp only [ofScriptLines?, h, if_true]
  have hcolumns := ofScriptLines?_columns t.columns hend
  have hlines : t.scriptLines ++ lines = t.scriptHeader :: (Column.scriptLines t.columns ++ ");" :: lines) := by
    rw [scriptLines_eq]
    simp
  have hne : t.scriptHeader ≠ ");" := by
    intro he
    have hlist := t.toList_scriptHeader
    rw [he] at hlist
    simp at hlist
  have hname : Text.between? "CREATE TABLE " " (" t.scriptHeader = some t.name := Text.between?_append _ _ _
  rw [hlines]
  simp only [ofScriptLines?, hcolumns, if_neg hne, hname]

theorem Table.ofScriptLines?_tables (tables : List Table) :
    ofScriptLines? (tables.flatMap Table.scriptLines) = some ([], tables) := by
  induction tables with
  | nil => rfl
  | cons t tables ih =>
    rw [List.flatMap_cons]
    exact ofScriptLines?_table t ih

/-! ## Databases -/

theorem Column.scriptLine_onOneLine {c : Column} (h : OnOneLine c.name) {comma : String} (hcomma : comma = "" ∨ comma = ",") :
    OnOneLine (c.scriptLine comma) := by
  have hlabel : '\n' ∉ c.type.label.toList := by cases c.type <;> decide
  have hend : '\n' ∉ comma.toList := by rcases hcomma with rfl | rfl <;> decide
  have hname : '\n' ∉ c.name.toList := h
  rw [OnOneLine, toList_scriptLine]
  simp [hlabel, hend, hname]

theorem Table.scriptLines_onOneLine {t : Table} (h : ∀ name ∈ t.names, OnOneLine name) :
    ∀ line ∈ t.scriptLines, OnOneLine line := by
  intro line hline
  rw [scriptLines_eq, List.mem_cons, List.mem_append, List.mem_singleton] at hline
  rcases hline with rfl | hline | rfl
  · have hname : '\n' ∉ t.name.toList := h _ t.name_mem
    rw [OnOneLine, toList_scriptHeader]
    simp [hname]
  · obtain ⟨c, hc, comma, hcomma, rfl⟩ := Column.mem_scriptLines hline
    exact Column.scriptLine_onOneLine (h _ (columnName_mem hc)) hcomma
  · decide

/-- The first line of a script. -/
def Database.scriptHeader (d : Database) : String := "CREATE DATABASE " ++ d.name ++ ";"

theorem Database.toList_scriptHeader (d : Database) :
    d.scriptHeader.toList = "CREATE DATABASE ".toList ++ (d.name.toList ++ ";".toList) := by
  show ("CREATE DATABASE " ++ d.name ++ ";").toList = _
  simp

theorem Database.scriptLines_onOneLine {d : Database} (h : ∀ name ∈ d.names, OnOneLine name) :
    ∀ line ∈ d.scriptHeader :: d.tables.flatMap Table.scriptLines, OnOneLine line := by
  intro line hline
  rcases List.mem_cons.mp hline with rfl | hline
  · have hname : '\n' ∉ d.name.toList := h _ d.name_mem
    rw [OnOneLine, toList_scriptHeader]
    simp [hname]
  · obtain ⟨t, ht, hline⟩ := List.mem_flatMap.mp hline
    exact Table.scriptLines_onOneLine (fun name hn => h _ (tableNames_mem ht hn)) line hline

/-- If no name has a newline, the lines of a script are those it was written from. -/
theorem Database.lines_toScript {d : Database} (h : ∀ name ∈ d.names, OnOneLine name) :
    Text.lines d.toScript = d.scriptHeader :: d.tables.flatMap Table.scriptLines :=
  Text.lines_unlines (scriptLines_onOneLine h)

theorem Database.ofScript?_eq {d : Database} (h : ∀ name ∈ d.names, OnOneLine name) : ofScript? d.toScript = some d := by
  have hname : Text.between? "CREATE DATABASE " ";" d.scriptHeader = some d.name := Text.between?_append _ _ _
  simp only [ofScript?, lines_toScript h, Table.ofScriptLines?_tables, hname]

theorem Column.getLast?_comma (c : Column) : (c.scriptLine ",").toList.getLast? = some ',' := by
  rw [toList_scriptLine, ← List.append_assoc, List.getLast?_append]
  rfl

theorem Column.getLast?_type (c : Column) : (c.scriptLine "").toList.getLast? ≠ some ',' := by
  have hlast : (' ' :: c.type.label.toList).getLast? ≠ some ',' := by cases c.type <;> decide
  have hsome : (' ' :: c.type.label.toList).getLast?.isSome = true := by simp
  obtain ⟨l, hl⟩ := Option.isSome_iff_exists.mp hsome
  have hempty : "".toList = [] := rfl
  rw [toList_scriptLine, hempty, List.append_nil, ← List.append_assoc, List.getLast?_append, hl]
  rw [hl] at hlast
  exact hlast

/-- Lines that tell a table: its first line, for each column a line behind two blanks with a comma at its end
unless it is the last, and the line that closes it. -/
def Table.IsScript (t : Table) (lines : List String) : Prop :=
  ∃ columnLines : List String, lines = t.scriptHeader :: (columnLines ++ [");"]) ∧
    columnLines.length = t.columns.length ∧ (∀ line ∈ columnLines, "  ".toList <+: line.toList) ∧
    (∀ line ∈ columnLines.dropLast, line.toList.getLast? = some ',') ∧
    ∀ line ∈ columnLines.getLast?, line.toList.getLast? ≠ some ','

theorem Table.isScript_scriptLines (t : Table) : t.IsScript t.scriptLines := by
  refine ⟨Column.scriptLines t.columns, rfl, ?_⟩
  rcases List.eq_nil_or_concat t.columns with hnil | ⟨cs, c, hcs⟩
  · rw [hnil]
    simp [Column.scriptLines]
  · rw [hcs, List.concat_eq_append, Column.scriptLines_eq]
    refine ⟨by simp, ?_, ?_, ?_⟩
    · intro line hline
      rw [← Column.scriptLines_eq] at hline
      obtain ⟨d, -, comma, -, rfl⟩ := Column.mem_scriptLines hline
      exact d.scriptLine_blank comma
    · intro line hline
      rw [List.dropLast_concat] at hline
      obtain ⟨d, -, rfl⟩ := List.mem_map.mp hline
      exact d.getLast?_comma
    · intro line hline
      rw [List.getLast?_concat, Option.mem_some_iff] at hline
      rw [← hline]
      exact c.getLast?_type

/-- A line that begins as the first line of a table does. -/
def Table.beginsScript (line : String) : Bool := "CREATE TABLE ".toList.isPrefixOf line.toList

theorem Table.filter_scriptLines (t : Table) : t.scriptLines.filter beginsScript = [t.scriptHeader] := by
  have hheader : beginsScript t.scriptHeader = true := by
    rw [beginsScript, List.isPrefixOf_iff_prefix]
    exact ⟨_, t.toList_scriptHeader.symm⟩
  have hcolumns : ∀ line ∈ Column.scriptLines t.columns ++ [");"], ¬ beginsScript line = true := by
    intro line hline
    rcases List.mem_append.mp hline with hline | hline
    · obtain ⟨c, -, comma, -, rfl⟩ := Column.mem_scriptLines hline
      rw [beginsScript, List.isPrefixOf_iff_prefix]
      exact (c.scriptLine_apart comma).2
    · rw [List.mem_singleton.mp hline]
      decide
  rw [scriptLines_eq, List.filter_cons_of_pos hheader, List.filter_eq_nil_iff.mpr hcolumns]

theorem Table.filter_flatMap_scriptLines (tables : List Table) :
    (tables.flatMap Table.scriptLines).filter beginsScript = tables.map scriptHeader := by
  rw [List.filter_flatMap]
  simp only [filter_scriptLines]
  exact List.map_eq_flatMap.symm

/-- A script is lossless if no name has a newline: it is decoded to its database, its lines are the first
line and after it those of each table in order, a table begins wherever a line looks as if one did, and no
other such database has the same script. -/
theorem Database.script_lossless {d : Database} (h : ∀ name ∈ d.names, OnOneLine name) :
    ofScript? d.toScript = some d ∧
    Text.unlines (Text.lines d.toScript) = d.toScript ∧
    (∃ blocks : List (List String), Text.lines d.toScript = d.scriptHeader :: blocks.flatten ∧
      List.Forall₂ Table.IsScript d.tables blocks) ∧
    (Text.lines d.toScript).filter Table.beginsScript = d.tables.map Table.scriptHeader ∧
    ∀ d' : Database, (∀ name ∈ d'.names, OnOneLine name) → d'.toScript = d.toScript → d' = d := by
  have hheader : ¬ Table.beginsScript d.scriptHeader = true := by
    rw [Table.beginsScript, List.isPrefixOf_iff_prefix]
    intro hp
    obtain ⟨rest, hrest⟩ := hp
    rw [toList_scriptHeader] at hrest
    simp at hrest
  refine ⟨ofScript?_eq h, ?_, ⟨d.tables.map Table.scriptLines, ?_, ?_⟩, ?_, ?_⟩
  · rw [lines_toScript h]
    rfl
  · rw [lines_toScript h, List.flatMap_def]
  · rw [List.forall₂_map_right_iff, List.forall₂_same]
    exact fun t _ => t.isScript_scriptLines
  · rw [lines_toScript h, List.filter_cons_of_neg hheader, Table.filter_flatMap_scriptLines]
  · intro d' h' hsame
    have := ofScript?_eq h'
    rw [hsame, ofScript?_eq h] at this
    exact (Option.some_inj.mp this).symm

/-- A database whose names read like the script around them: the decoder is not misled. -/
def oddDatabase : Database := ⟨"a;", [⟨"", []⟩, ⟨"t (", [⟨");", .string⟩, ⟨"CREATE TABLE x (", .integer⟩, ⟨" STRING,", .integer⟩]⟩]⟩

theorem oddDatabase_decoded : (∀ name ∈ oddDatabase.names, OnOneLine name) ∧
    Database.ofScript? oddDatabase.toScript = some oddDatabase :=
  ⟨by decide, (Database.script_lossless (by decide)).1⟩

end SoliditySchema
