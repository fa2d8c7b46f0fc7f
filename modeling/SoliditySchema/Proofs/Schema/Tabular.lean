/-
  SoliditySchema.Proofs.Schema.Tabular — the tabular notation determines its database.

  A text in quotes begins with a quote and a bare one does not, so which of the two it is can be told from its first
  character (`Tabular.unscalar?_scalar`). Neither has a newline of its own, since quoting escapes it: the notation
  falls into the lines it was written from. A table ends in the line of its name, so the lines are decoded from the
  last one backwards: behind the header of the next table comes a name, and then rows up to a header, which is told
  from them by its list marker. No count is needed.

  As the JSON text determines its database too, the two renderings say the same (`Database.toTabular_iff`).
-/

import SoliditySchema.Proofs.Schema.JsonForm
import SoliditySchema.Proofs.Schema.Names
import SoliditySchema.Proofs.Text.Between
import SoliditySchema.Proofs.Text.Line
import SoliditySchema.Schema.Tabular

namespace SoliditySchema

/-! ## The decoder -/

namespace Tabular

/-- The character that is meant by the one behind a backslash. -/
def unescaped (c : Char) : Char :=
  if c = 'n' then '\n' else if c = 'r' then '\r' else if c = 't' then '\t' else c

/-- What stands before a closing quote, without its escapes. -/
def unescape : List Char → Option (List Char)
  | [] => none
  | '\\' :: c :: cs => (unescape cs).map (unescaped c :: ·)
  | c :: cs => if c = '"' then (if cs = [] then some [] else none) else (unescape cs).map (c :: ·)

/-- The text of a scalar. -/
def unscalar? (s : String) : Option String :=
  match s.toList with
  | '"' :: cs => (unescape cs).map String.ofList
  | _ => some s

end Tabular

/-- The column of a row. -/
def Column.ofRow? (line : String) : Option Column := do
  let (type, name) ← [ColumnType.integer, .string].findSome? fun type =>
    (Text.between? "    " ("," ++ type.label) line).map fun name => (type, name)
  return ⟨← Tabular.unscalar? name, type⟩

/-- A line that begins as an element of the list of tables does. -/
def Table.beginsTabular (line : String) : Bool := "  - ".toList.isPrefixOf line.toList

/-- Decodes the lines of tables from the last one backwards: the name and the columns so far of a table whose header
is yet to come, if there is one, and the tables after it. -/
def Table.ofTabularLines? : List String → Option (Option Table × List Table)
  | [] => some (none, [])
  | line :: lines =>
    match ofTabularLines? lines with
    | none => none
    | some (none, tables) =>
      (Text.between? "    name: " "" line >>= Tabular.unscalar?).map fun name => (some ⟨name, []⟩, tables)
    | some (some t, tables) =>
      if beginsTabular line then some (none, t :: tables)
      else (Column.ofRow? line).map fun c => (some ⟨t.name, c :: t.columns⟩, tables)

/-- Decodes the tabular notation. -/
def Database.ofTabular? (text : String) : Option Database :=
  match (text.toList.splitOn '\n').map String.ofList with
  | first :: _ :: lines =>
    match Text.between? "name: " "" first >>= Tabular.unscalar?, Table.ofTabularLines? lines with
    | some name, some (none, tables) => some ⟨name, tables⟩
    | _, _ => none
  | _ => none

/-! ## Scalars -/

namespace Tabular

/-- The characters that stand behind a backslash between quotes, by themselves or as a letter. -/
def escaped : List Char := ['\\', '"', '\n', '\r', '\t']

theorem escape_of_not_mem {c : Char} (h : c ∉ escaped) : escape c = [c] := by
  simp only [escaped, List.mem_cons, List.not_mem_nil, or_false, not_or] at h
  obtain ⟨hslash, hquote, hnewline, hreturn, htab⟩ := h
  rw [escape, if_neg hslash, if_neg hquote, if_neg hnewline, if_neg hreturn, if_neg htab]

theorem unescape_escape (c : Char) (cs : List Char) : unescape (escape c ++ cs) = (unescape cs).map (c :: ·) := by
  by_cases h : c ∈ escaped
  · simp only [escaped, List.mem_cons, List.not_mem_nil, or_false] at h
    rcases h with rfl | rfl | rfl | rfl | rfl <;> rfl
  · have hslash : c ≠ '\\' := fun heq => h (heq ▸ by decide)
    have hquote : c ≠ '"' := fun heq => h (heq ▸ by decide)
    rw [escape_of_not_mem h, List.singleton_append, unescape, if_neg hquote]
    exact fun d ds heq => absurd heq hslash

theorem unescape_flatMap (cs : List Char) : unescape (cs.flatMap escape ++ ['"']) = some cs := by
  induction cs with
  | nil => rfl
  | cons c cs ih => rw [List.flatMap_cons, List.append_assoc, unescape_escape, ih]; rfl

/-- A bare text has no special character. -/
theorem not_special {cs : List Char} (h : needsQuotes cs = false) {c : Char} (hc : isSpecial c = true) : c ∉ cs := by
  simp only [needsQuotes, Bool.or_eq_false_iff] at h
  intro hmem
  exact absurd hc (by simpa using List.any_eq_false.mp h.1.2 c hmem)

/-- Whatever a text looks like, it is told from its scalar. -/
theorem unscalar?_scalar (s : String) : unscalar? (scalar s) = some s := by
  unfold scalar
  split
  case isTrue h =>
    rw [unscalar?, String.toList_ofList]
    show (unescape (s.toList.flatMap escape ++ ['"'])).map String.ofList = some s
    rw [unescape_flatMap, Option.map_some, String.ofList_toList]
  case isFalse h =>
    have hquote : '"' ∉ s.toList := not_special (Bool.eq_false_iff.mpr h) (by decide)
    unfold unscalar?
    split
    case h_1 cs hs =>
      rw [hs] at hquote
      exact absurd List.mem_cons_self hquote
    case h_2 => rfl

theorem newline_escape (c : Char) : '\n' ∉ escape c := by
  by_cases h : c ∈ escaped
  · simp only [escaped, List.mem_cons, List.not_mem_nil, or_false] at h
    rcases h with rfl | rfl | rfl | rfl | rfl <;> decide
  · rw [escape_of_not_mem h, List.mem_singleton]
    rintro rfl
    exact h (by decide)

/-- A scalar stands on one line. -/
theorem scalar_onOneLine (s : String) : OnOneLine (scalar s) := by
  unfold scalar
  split
  case isTrue h =>
    have hcontent : '\n' ∉ s.toList.flatMap escape := by
      intro hc
      obtain ⟨c, -, hmem⟩ := List.mem_flatMap.mp hc
      exact newline_escape c hmem
    rw [OnOneLine, String.toList_ofList]
    simp [hcontent]
  case isFalse h => exact not_special (Bool.eq_false_iff.mpr h) (by decide)

theorem scalar_label (type : ColumnType) : scalar type.label = type.label := by
  cases type <;> decide

end Tabular

/-! ## Lines -/

theorem Column.row_eq (c : Column) : c.row = "    " ++ Tabular.scalar c.name ++ ("," ++ c.type.label) := by
  rw [row, Tabular.scalar_label, String.append_assoc]

/-- The header of a table, with the number of its columns. -/
def Table.tabularHeader (t : Table) : String :=
  if t.columns.isEmpty then "  - columns[0]:"
  else "  - columns[" ++ toString t.columns.length ++ "]\x7bname,type\x7d:"

/-- The line with the name of a table. -/
def Table.tabularName (t : Table) : String := "    name: " ++ Tabular.scalar t.name

theorem Table.tabularLines_eq (t : Table) :
    t.tabularLines = t.tabularHeader :: (t.columns.map Column.row ++ [t.tabularName]) := rfl

theorem Table.tabularHeader_begins (t : Table) : beginsTabular t.tabularHeader = true := by
  rw [beginsTabular, List.isPrefixOf_iff_prefix, tabularHeader]
  split
  · decide
  · rw [String.append_assoc, String.toList_append]
    exact List.IsPrefix.trans (by decide) (List.prefix_append _ _)

theorem Column.row_apart (c : Column) : ¬ Table.beginsTabular c.row = true := by
  rw [Table.beginsTabular, List.isPrefixOf_iff_prefix, row_eq, String.append_assoc, String.toList_append]
  rintro ⟨rest, hrest⟩
  simp at hrest

theorem Column.row_onOneLine (c : Column) : OnOneLine c.row := by
  have hname : '\n' ∉ (Tabular.scalar c.name).toList := Tabular.scalar_onOneLine c.name
  have hlabel : '\n' ∉ c.type.label.toList := by cases c.type <;> decide
  rw [OnOneLine, row_eq]
  simp [hname, hlabel]

theorem Table.tabularHeader_onOneLine (t : Table) : OnOneLine t.tabularHeader := by
  have hcount := Text.newline_not_mem_toDigits t.columns.length
  rw [OnOneLine, tabularHeader]
  split
  · decide
  · simp [hcount]

theorem Table.tabularName_onOneLine (t : Table) : OnOneLine t.tabularName := by
  have hname : '\n' ∉ (Tabular.scalar t.name).toList := Tabular.scalar_onOneLine t.name
  rw [OnOneLine, tabularName]
  simp [hname]

theorem Table.tabularLines_onOneLine (t : Table) : ∀ line ∈ t.tabularLines, OnOneLine line := by
  intro line hline
  rw [tabularLines_eq] at hline
  rcases List.mem_cons.mp hline with rfl | hline
  · exact t.tabularHeader_onOneLine
  rcases List.mem_append.mp hline with hline | hline
  · obtain ⟨c, -, rfl⟩ := List.mem_map.mp hline
    exact c.row_onOneLine
  · rw [List.mem_singleton.mp hline]
    exact t.tabularName_onOneLine

/-- The first line, with the name of the database. -/
def Database.tabularName (d : Database) : String := "name: " ++ Tabular.scalar d.name

/-- The header of the tables, with their number. -/
def Database.tabularHeader (d : Database) : String := "tables[" ++ toString d.tables.length ++ "]:"

/-- The lines of the tabular notation. -/
def Database.tabularLines (d : Database) : List String :=
  d.tabularName :: d.tabularHeader :: d.tables.flatMap Table.tabularLines

theorem Database.toTabular_eq (d : Database) : d.toTabular = "\n".intercalate d.tabularLines := rfl

theorem Database.tabularLines_onOneLine (d : Database) : ∀ line ∈ d.tabularLines, OnOneLine line := by
  intro line hline
  rcases List.mem_cons.mp hline with rfl | hline
  · have hname : '\n' ∉ (Tabular.scalar d.name).toList := Tabular.scalar_onOneLine d.name
    rw [OnOneLine, tabularName]
    simp [hname]
  rcases List.mem_cons.mp hline with rfl | hline
  · have hcount := Text.newline_not_mem_toDigits d.tables.length
    rw [OnOneLine, tabularHeader]
    simp [hcount]
  · obtain ⟨t, -, hline⟩ := List.mem_flatMap.mp hline
    exact t.tabularLines_onOneLine line hline

/-- The notation falls into the lines it was written from. -/
theorem Database.splitOn_toTabular (d : Database) :
    (d.toTabular.toList.splitOn '\n').map String.ofList = d.tabularLines := by
  have hlines : ∀ line ∈ d.tabularLines.map String.toList, '\n' ∉ line := by
    intro line hline
    obtain ⟨s, hs, rfl⟩ := List.mem_map.mp hline
    exact d.tabularLines_onOneLine s hs
  have hsplit : d.toTabular.toList.splitOn '\n' = d.tabularLines.map String.toList := by
    rw [toTabular_eq, String.toList_intercalate]
    exact List.splitOn_intercalate '\n' hlines (by simp [tabularLines])
  rw [hsplit, List.map_map]
  exact List.map_id'' (fun _ => String.ofList_toList) d.tabularLines

/-! ## Decoding -/

theorem Column.ofRow?_row (c : Column) : ofRow? c.row = some c := by
  have hapart : ∀ type ∈ [ColumnType.integer, .string], ∀ type' ∈ [ColumnType.integer, .string],
      ("," ++ type.label).toList <:+ ("," ++ type'.label).toList → type = type' := by decide
  have hmem : c.type ∈ [ColumnType.integer, .string] := by cases c.type <;> decide
  have hfound := Text.findSome?_between? hapart hmem "    " (Tabular.scalar c.name) fun type name => (type, name)
  rw [ofRow?, row_eq, hfound]
  simp only [bind, Option.bind, Tabular.unscalar?_scalar]
  rfl

/-- The scalar behind the beginning of a line gives its text back. -/
theorem unscalar?_between? (opening name : String) :
    (Text.between? opening "" (opening ++ Tabular.scalar name) >>= Tabular.unscalar?) = some name := by
  rw [Text.between?_opening]
  exact Tabular.unscalar?_scalar name

/-- Rows go before the columns of the table whose header is yet to come. -/
theorem Table.ofTabularLines?_rows (cs : List Column) {lines : List String} {t : Table} {tables : List Table}
    (h : ofTabularLines? lines = some (some t, tables)) :
    ofTabularLines? (cs.map Column.row ++ lines) = some (some ⟨t.name, cs ++ t.columns⟩, tables) := by
  induction cs with
  | nil => exact h
  | cons c cs ih =>
    rw [List.map_cons, List.cons_append, ofTabularLines?, ih]
    simp only [if_neg c.row_apart, Column.ofRow?_row]
    rfl

theorem Table.ofTabularLines?_table (t : Table) {lines : List String} {tables : List Table}
    (h : ofTabularLines? lines = some (none, tables)) :
    ofTabularLines? (t.tabularLines ++ lines) = some (none, t :: tables) := by
  have hname : ofTabularLines? (t.tabularName :: lines) = some (some ⟨t.name, []⟩, tables) := by
    rw [ofTabularLines?, h]
    simp only [tabularName, unscalar?_between?]
    rfl
  have hrows := ofTabularLines?_rows t.columns hname
  rw [List.append_nil] at hrows
  rw [tabularLines_eq, List.cons_append, List.append_assoc, List.singleton_append, ofTabularLines?, hrows]
  simp only [if_pos t.tabularHeader_begins]

theorem Table.ofTabularLines?_tables (tables : List Table) :
    ofTabularLines? (tables.flatMap Table.tabularLines) = some (none, tables) := by
  induction tables with
  | nil => rfl
  | cons t tables ih =>
    rw [List.flatMap_cons]
    exact ofTabularLines?_table t ih

/-- A database is decoded from its tabular notation. -/
theorem Database.ofTabular?_toTabular (d : Database) : ofTabular? d.toTabular = some d := by
  rw [ofTabular?, splitOn_toTabular]
  simp only [tabularLines, tabularName, unscalar?_between?, Table.ofTabularLines?_tables]

theorem Database.toTabular_inj {d d' : Database} : d.toTabular = d'.toTabular ↔ d = d' := by
  refine ⟨fun h => ?_, congrArg toTabular⟩
  have hd' := d'.ofTabular?_toTabular
  rw [← h, d.ofTabular?_toTabular] at hd'
  exact Option.some_inj.mp hd'

theorem Database.toJsonText_inj {d d' : Database} : d.toJsonText = d'.toJsonText ↔ d = d' := by
  have hread : ∀ d : Database, ofJsonText d.toJsonText = .ok d :=
    fun d => d.ofJsonText_append Json.Input.Blanks.nil (List.append_nil _).symm
  refine ⟨fun h => ?_, congrArg toJsonText⟩
  have hd' := hread d'
  rw [← h, hread d] at hd'
  exact Except.ok.inj hd'

/-- Two databases have the same tabular notation if and only if they have the same JSON text, that is, if they are the
same. -/
theorem Database.toTabular_iff (d d' : Database) :
    (d.toTabular = d'.toTabular ↔ d.toJsonText = d'.toJsonText) ∧ (d.toTabular = d'.toTabular ↔ d = d') :=
  ⟨toTabular_inj.trans toJsonText_inj.symm, toTabular_inj⟩

end SoliditySchema
