/-
  SoliditySchema.Proofs.Extraction.Names — no source text can break out of a rendering.

  A schema has no names but those of its contract (`Database.names_of_contract`), and the names of a contract
  are identifiers or empty. So what a run reports has no blank, no quote and no punctuation in a name, and the
  renderings that put names into lines without quotes have the statements and header lines that the schema
  calls for, and no others.
-/

import SoliditySchema.Proofs.Extraction.Build
import SoliditySchema.Proofs.Outline.Names
import SoliditySchema.Proofs.Schema.Listing
import SoliditySchema.Proofs.Schema.Statement

namespace SoliditySchema

/-! ## From a contract to its schema -/

theorem Column.name_ofVariable {table : String} {v : Outline.Variable} {c : Column} (h : ofVariable table v = .ok c) :
    c.name = v.name := by
  unfold ofVariable at h
  split at h
  · injection h with h
    rw [← h]
  · cases h

theorem Column.names_ofVariables {title : String} {vs : List Outline.Variable} {columns : List Column}
    (h : vs.mapM (ofVariable title) = .ok columns) : columns.map Column.name = vs.map Outline.Variable.name := by
  induction vs generalizing columns with
  | nil =>
    injection h with h
    rw [← h]
    rfl
  | cons v vs ih =>
    rw [List.mapM_cons] at h
    cases hv : ofVariable title v with
    | error u => rw [hv] at h; cases h
    | ok c =>
      cases hvs : vs.mapM (ofVariable title) with
      | error u => rw [hv, hvs] at h; cases h
      | ok cs =>
        rw [hv, hvs] at h
        injection h with h
        rw [← h, List.map_cons, List.map_cons, ih hvs, name_ofVariable hv]

theorem Table.names_ofVariables {title : String} {vs : List Outline.Variable} {t : Table} (h : ofVariables title vs = .ok t) :
    t.names = title :: vs.map Outline.Variable.name := by
  unfold ofVariables at h
  cases hvs : vs.mapM (Column.ofVariable title) with
  | error u => rw [hvs] at h; cases h
  | ok columns =>
    rw [hvs] at h
    injection h with h
    rw [← h, names, Column.names_ofVariables hvs]

theorem Outline.Statement.name_of_firstVariable? {s : Outline.Statement} {v : Outline.Variable}
    (h : s.firstVariable? = some v) : v.name ∈ s.names := by
  cases s with
  | declare slots =>
    obtain ⟨slot, hslot, rfl⟩ := List.exists_of_findSome?_eq_some h
    exact List.mem_filterMap.mpr ⟨some v, hslot, rfl⟩
  | other => cases h

theorem Table.names_ofPart? {p : Outline.Part} {t : Table} (h : ofPart? p = some (.ok t)) :
    ∀ name ∈ t.names, name ∈ p.names := by
  intro name hname
  cases p with
  | structDefinition title members =>
    rw [names_ofVariables (Option.some_inj.mp h)] at hname
    exact hname
  | function title statements =>
    rw [names_ofVariables (Option.some_inj.mp h)] at hname
    rcases List.mem_cons.mp hname with rfl | hname
    · exact List.mem_cons_self
    · obtain ⟨v, hv, rfl⟩ := List.mem_map.mp hname
      obtain ⟨s, hs, hfirst⟩ := List.mem_filterMap.mp hv
      exact List.mem_cons_of_mem _ (List.mem_flatMap.mpr ⟨s, hs, Outline.Statement.name_of_firstVariable? hfirst⟩)
  | ignored => cases h

theorem BuiltTables.attempt_of_table {attempts : List (Except UnresolvedColumn Table)} {t : Table}
    (h : t ∈ (ofAttempts attempts).tables) : .ok t ∈ attempts := by
  induction attempts with
  | nil => cases h
  | cons attempt attempts ih =>
    cases attempt with
    | error u => cases h
    | ok t' =>
      rcases List.mem_cons.mp h with rfl | h
      · exact List.mem_cons_self
      · exact List.mem_cons_of_mem _ (ih h)

/-- A schema has no names but those of its contract. -/
theorem Database.names_of_contract {c : Outline.Contract} {d : Database} (h : ofContract c = .ok d) :
    ∀ name ∈ d.names, name ∈ c.names := by
  simp only [ofContract] at h
  split at h
  · cases h
  · injection h with h
    intro name hname
    rw [← h] at hname
    rcases List.mem_cons.mp hname with rfl | hname
    · exact List.mem_cons_self
    · obtain ⟨t, ht, hname⟩ := List.mem_flatMap.mp hname
      obtain ⟨p, hp, hpart⟩ := List.mem_filterMap.mp (BuiltTables.attempt_of_table ht)
      exact List.mem_cons_of_mem _ (List.mem_flatMap.mpr ⟨p, hp, Table.names_ofPart? hpart name hname⟩)

/-! ## From a source text to its report -/

theorem Database.contract_of_mem {cs : List Outline.Contract} {ds : List Database}
    (h : List.Forall₂ (fun c d => ofContract c = .ok d) cs ds) : ∀ d ∈ ds, ∃ c ∈ cs, ofContract c = .ok d := by
  induction h with
  | nil =>
    intro d hd
    cases hd
  | cons hc _ ih =>
    intro d hd
    rcases List.mem_cons.mp hd with rfl | hd
    · exact ⟨_, List.mem_cons_self, hc⟩
    · obtain ⟨c', hc', hof⟩ := ih d hd
      exact ⟨c', List.mem_cons_of_mem _ hc', hof⟩

theorem Run.contract_of_report {settings : Settings} {source : String} {report : Report}
    (h : (Run.ofSource settings source).result = .ok report) :
    ∀ d ∈ report.databases, ∃ definition, Database.ofContract (Outline.Contract.ofTree definition) = .ok d := by
  intro d hd
  cases hparsed : (Outline.parse settings.tolerant source.toList).result with
  | error ds => rw [Run.result_ofSource_error hparsed] at h; cases h
  | ok outline =>
    rw [Run.result_ofSource_ok hparsed] at h
    cases hdatabases : (Database.ofContracts outline.contracts).2 with
    | error e => rw [hdatabases] at h; cases h
    | ok ds =>
      rw [hdatabases] at h
      injection h with h
      rw [← h] at hd
      obtain ⟨c, hc, hof⟩ := Database.contract_of_mem (Database.contracts_of_ofContracts hdatabases) d hd
      obtain ⟨definition, rfl⟩ := Outline.parse_contracts hparsed c hc
      exact ⟨definition, hof⟩

/-- Every name in what a run reports, in either mode, is an identifier or empty; so it has no blanks, quotes or
punctuation. The script of a database has one statement that creates it and one for each of its tables, and no
others; its listing has one header line for each. -/
theorem Run.names_of_report {settings : Settings} {source : String} {report : Report}
    (h : (Run.ofSource settings source).result = .ok report) :
    ∀ d ∈ report.databases,
      (∀ name ∈ d.names, name = "" ∨ Text.isIdentifier name.toList = true) ∧
      (∀ name ∈ d.names, ∀ c ∈ name.toList, Text.isBlank c = false ∧ c ∉ Text.marks) ∧
      Text.statements d.toScript = d.statement :: d.tables.map Table.statement ∧
      (Text.statements d.toScript).filter Database.beginsScript = [d.statement] ∧
      (Text.statements d.toScript).filter Table.beginsScript = d.tables.map Table.statement ∧
      (Text.lines d.toListing).filter Table.beginsListing = d.tables.map Table.listingHeader := by
  intro d hd
  obtain ⟨definition, hof⟩ := Run.contract_of_report h d hd
  have hnames : ∀ name ∈ d.names, IsName name := by
    intro name hname
    exact Outline.Contract.names_ofTree definition name (Database.names_of_contract hof name hname)
  have hsemicolon : ∀ name ∈ d.names, ';' ∉ name.toList := fun name hn => (hnames name hn).not_mem (by decide)
  have hnewline : ∀ name ∈ d.names, OnOneLine name := fun name hn => (hnames name hn).not_mem (by decide)
  obtain ⟨hdatabase, htables⟩ := Database.filter_statements hsemicolon
  exact ⟨hnames, fun name hn c hc => (hnames name hn).clean hc, Database.statements_toScript hsemicolon, hdatabase,
    htables, Database.filter_toListing hnewline⟩

/-- A struct and a function without a name: two tables, one of them with an empty name. -/
theorem Run.names_of_unnamed_function :
    ∃ report, (Run.ofSource ⟨true, [.sql]⟩ "contract A { struct S { uint x; } function () {} }").result = .ok report ∧
      (report.databases.map fun d => d.tables.length) = [2] ∧
      ∀ d ∈ report.databases, (∀ name ∈ d.names, name = "" ∨ Text.isIdentifier name.toList = true) ∧
        (Text.statements d.toScript).filter Table.beginsScript = d.tables.map Table.statement := by
  have htables : ((Run.ofSource ⟨true, [.sql]⟩ "contract A { struct S { uint x; } function () {} }").result.toOption.map
      fun report => report.databases.map fun d => d.tables.length) = some [2] := by decide
  cases hrun : (Run.ofSource ⟨true, [.sql]⟩ "contract A { struct S { uint x; } function () {} }").result with
  | error e => rw [hrun] at htables; cases htables
  | ok report =>
    rw [hrun] at htables
    refine ⟨report, rfl, Option.some_inj.mp htables, ?_⟩
    intro d hd
    obtain ⟨hnames, -, -, -, hscript, -⟩ := Run.names_of_report hrun d hd
    exact ⟨hnames, hscript⟩

end SoliditySchema
