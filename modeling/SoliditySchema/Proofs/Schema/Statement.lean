/-
  SoliditySchema.Proofs.Schema.Statement — the statements of a script.

  A script has no quotes, so its statements are what its semicolons end. If no name has a semicolon, there is
  one statement for the database and one for each table, and no others.
-/

import Mathlib.Data.List.Basic
import SoliditySchema.Proofs.Schema.Script
import SoliditySchema.Text.Blank

namespace SoliditySchema

/-- The statements of a text: what stands between its semicolons, without the blanks before it, unless it is
empty. -/
def Text.statements (text : String) : List String :=
  (((text.toList.splitOn ';').map (List.dropWhile isBlank)).filter fun s => !s.isEmpty).map String.ofList

/-- A character other than a newline is in lines only if it is in one of them. -/
theorem Text.mem_unlines {c : Char} (hc : c ≠ '\n') {ls : List String} (h : c ∈ (unlines ls).toList) :
    ∃ line ∈ ls, c ∈ line.toList := by
  induction ls with
  | nil => cases h
  | cons line ls ih =>
    rw [toList_unlines_cons, List.mem_append, List.mem_cons] at h
    rcases h with h | h | h
    · exact ⟨line, List.mem_cons_self, h⟩
    · exact absurd h hc
    · obtain ⟨l, hl, hmem⟩ := ih h
      exact ⟨l, List.mem_cons_of_mem _ hl, hmem⟩

/-! ## Statements of a schema -/

/-- The statement that creates a table. -/
def Table.statement (t : Table) : String := Text.unlines (t.scriptHeader :: Column.scriptLines t.columns) ++ ")"

/-- The statement that creates a database. -/
def Database.statement (d : Database) : String := "CREATE DATABASE " ++ d.name

theorem Table.toList_statement (t : Table) :
    t.statement.toList = (Text.unlines (t.scriptHeader :: Column.scriptLines t.columns)).toList ++ [')'] :=
  String.toList_append

theorem Database.toList_statement (d : Database) : d.statement.toList = "CREATE DATABASE ".toList ++ d.name.toList :=
  String.toList_append

theorem Table.unlines_scriptLines (t : Table) : Text.unlines t.scriptLines = t.statement ++ ";\n" := by
  have hlines : t.scriptLines = (t.scriptHeader :: Column.scriptLines t.columns) ++ [");"] := rfl
  have hend : Text.unlines [");"] = ")" ++ ";\n" := rfl
  rw [hlines, Text.unlines_append, hend, ← String.append_assoc]
  rfl

theorem Column.semicolon_not_mem {c : Column} (h : ';' ∉ c.name.toList) {comma : String}
    (hcomma : comma = "" ∨ comma = ",") : ';' ∉ (c.scriptLine comma).toList := by
  have hlabel : ';' ∉ c.type.label.toList := by cases c.type <;> decide
  have hend : ';' ∉ comma.toList := by rcases hcomma with rfl | rfl <;> decide
  rw [toList_scriptLine]
  simp [hlabel, hend, h]

theorem Table.semicolon_not_mem {t : Table} (h : ∀ name ∈ t.names, ';' ∉ name.toList) : ';' ∉ t.statement.toList := by
  intro hmem
  rw [toList_statement, List.mem_append] at hmem
  rcases hmem with hmem | hmem
  · obtain ⟨line, hline, hc⟩ := Text.mem_unlines (by decide) hmem
    rcases List.mem_cons.mp hline with rfl | hline
    · have hname := h _ t.name_mem
      rw [toList_scriptHeader] at hc
      simp [hname] at hc
    · obtain ⟨c, hcol, comma, hcomma, rfl⟩ := Column.mem_scriptLines hline
      exact Column.semicolon_not_mem (h _ (columnName_mem hcol)) hcomma hc
  · revert hmem
    decide

/-- The text of tables behind a newline, cut at its semicolons. -/
theorem Table.splitOn_scriptLines {tables : List Table} (h : ∀ t ∈ tables, ∀ name ∈ t.names, ';' ∉ name.toList) :
    ('\n' :: (Text.unlines (tables.flatMap Table.scriptLines)).toList).splitOn ';' =
      (tables.map fun t => '\n' :: t.statement.toList) ++ [['\n']] := by
  induction tables with
  | nil => rfl
  | cons t tables ih =>
    have hsplit : '\n' :: (Text.unlines ((t :: tables).flatMap Table.scriptLines)).toList =
        ('\n' :: t.statement.toList) ++
          ';' :: ('\n' :: (Text.unlines (tables.flatMap Table.scriptLines)).toList) := by
      rw [List.flatMap_cons, Text.unlines_append, unlines_scriptLines]
      simp
    have hnot : ';' ∉ '\n' :: t.statement.toList := by
      rw [List.mem_cons]
      intro hmem
      exact hmem.elim (by decide) (semicolon_not_mem (h t List.mem_cons_self))
    rw [hsplit, List.splitOn_append_cons_self_of_not_mem hnot, ih fun t ht => h t (List.mem_cons_of_mem _ ht)]
    rfl

theorem Table.statement_begins (t : Table) : ∃ rest, t.statement.toList = 'C' :: rest := by
  rw [toList_statement, Text.toList_unlines_cons, toList_scriptHeader]
  exact ⟨_, rfl⟩

theorem Table.dropWhile_statement (t : Table) :
    ('\n' :: t.statement.toList).dropWhile Text.isBlank = t.statement.toList := by
  obtain ⟨rest, hrest⟩ := t.statement_begins
  have hnewline : Text.isBlank '\n' = true := by decide
  have hletter : ¬ Text.isBlank 'C' = true := by decide
  rw [hrest, List.dropWhile_cons_of_pos hnewline, List.dropWhile_cons_of_neg hletter]

/-- If no name has a semicolon, the statements of a script are the one of the database and those of its
tables, in order. -/
theorem Database.statements_toScript {d : Database} (h : ∀ name ∈ d.names, ';' ∉ name.toList) :
    Text.statements d.toScript = d.statement :: d.tables.map Table.statement := by
  have hsplit : d.toScript.toList =
      d.statement.toList ++ ';' :: ('\n' :: (Text.unlines (d.tables.flatMap Table.scriptLines)).toList) := by
    have hlines : d.toScript = Text.unlines (d.scriptHeader :: d.tables.flatMap Table.scriptLines) := rfl
    rw [hlines, Text.toList_unlines_cons, toList_scriptHeader, toList_statement]
    simp
  have hnot : ';' ∉ d.statement.toList := by
    have hname := h _ d.name_mem
    rw [toList_statement]
    simp [hname]
  have hdrop : d.statement.toList.dropWhile Text.isBlank = d.statement.toList := by
    have hletter : ¬ Text.isBlank 'C' = true := by decide
    rw [toList_statement]
    exact List.dropWhile_cons_of_neg hletter
  have htables : ((d.tables.map fun t => '\n' :: t.statement.toList).map (List.dropWhile Text.isBlank)) =
      d.tables.map fun t => t.statement.toList := by
    rw [List.map_map]
    exact List.map_congr_left fun t _ => t.dropWhile_statement
  have hkeep : (d.statement.toList :: d.tables.map fun t => t.statement.toList).filter (fun s => !s.isEmpty) =
      d.statement.toList :: d.tables.map fun t => t.statement.toList := by
    rw [List.filter_eq_self]
    intro s hs
    rcases List.mem_cons.mp hs with rfl | hs
    · rw [toList_statement]
      rfl
    · obtain ⟨t, -, rfl⟩ := List.mem_map.mp hs
      obtain ⟨rest, hrest⟩ := t.statement_begins
      rw [hrest]
      rfl
  have hlast : [(['\n'] : List Char).dropWhile Text.isBlank].filter (fun s => !s.isEmpty) = [] := by decide
  have hstrings : (d.statement.toList :: d.tables.map fun t => t.statement.toList).map String.ofList =
      d.statement :: d.tables.map Table.statement := by
    rw [List.map_cons, String.ofList_toList, List.map_map]
    exact congrArg (d.statement :: ·) (List.map_congr_left fun t _ => String.ofList_toList)
  rw [Text.statements, hsplit, List.splitOn_append_cons_self_of_not_mem hnot,
    Table.splitOn_scriptLines fun t ht name hn => h _ (tableNames_mem ht hn), List.map_cons, List.map_append, htables, hdrop,
    ← List.cons_append, List.filter_append, hkeep, List.map_singleton, hlast, List.append_nil, hstrings]

/-- A statement that creates a database. -/
def Database.beginsScript (statement : String) : Bool := "CREATE DATABASE ".toList.isPrefixOf statement.toList

/-- One statement creates the database, and the statements that create tables are one for each. -/
theorem Database.filter_statements {d : Database} (h : ∀ name ∈ d.names, ';' ∉ name.toList) :
    (Text.statements d.toScript).filter beginsScript = [d.statement] ∧
      (Text.statements d.toScript).filter Table.beginsScript = d.tables.map Table.statement := by
  have hdatabase : beginsScript d.statement = true ∧ ¬ Table.beginsScript d.statement = true := by
    rw [beginsScript, Table.beginsScript, toList_statement]
    exact ⟨List.isPrefixOf_iff_prefix.mpr ⟨_, rfl⟩, by simp [List.isPrefixOf]⟩
  have htable : ∀ t : Table, Table.beginsScript t.statement = true ∧ ¬ beginsScript t.statement = true := by
    intro t
    rw [beginsScript, Table.beginsScript, Table.toList_statement, Text.toList_unlines_cons, Table.toList_scriptHeader,
      List.append_assoc, List.append_assoc]
    exact ⟨List.isPrefixOf_iff_prefix.mpr ⟨_, rfl⟩, by simp [List.isPrefixOf]⟩
  have hothers : (d.tables.map Table.statement).filter beginsScript = [] := by
    rw [List.filter_eq_nil_iff]
    intro s hs
    obtain ⟨t, -, rfl⟩ := List.mem_map.mp hs
    exact (htable t).2
  have htables : (d.tables.map Table.statement).filter Table.beginsScript = d.tables.map Table.statement := by
    rw [List.filter_eq_self]
    intro s hs
    obtain ⟨t, -, rfl⟩ := List.mem_map.mp hs
    exact (htable t).1
  rw [statements_toScript h, List.filter_cons_of_pos hdatabase.1, List.filter_cons_of_neg hdatabase.2, hothers, htables]
  exact ⟨rfl, rfl⟩

end SoliditySchema
