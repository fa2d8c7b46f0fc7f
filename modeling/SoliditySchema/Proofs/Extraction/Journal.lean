/-
  SoliditySchema.Proofs.Extraction.Journal — the log of a run says what was done, and no more.

  A line for each table, and behind the tables of a contract a line that counts them and their columns: that is
  the journal of a database. The log of a run begins with what recovering reports, if the text had to be
  recovered, and goes on with the journals of the databases in the order of their contracts. If a contract cannot
  be built the log breaks off before the first table of it that cannot be built (`Journal`): a later contract
  is not begun.
-/

import SoliditySchema.Proofs.Extraction.Build
import SoliditySchema.Proofs.Outline.Warnings

namespace SoliditySchema

/-! ## Lines of the log -/

/-- A line of the log. -/
structure LogLine where
  level : Level
  message : String
  fields : List (String × FieldValue)
  deriving DecidableEq, Repr

/-- An event as the log shows it. -/
def Event.logged (e : Event) : LogLine := ⟨e.level, e.message, e.fields⟩

namespace LogLine

/-- The text did not parse as a whole, with so many errors. -/
def recovery (errors : Nat) : LogLine :=
  ⟨.debug, "full parse failed, recovering per top-level item", [("errors", .number errors)]⟩

/-- An item is skipped for an error. -/
def warning (d : Diagnostic) : LogLine :=
  ⟨.warn, "skipping unparsable item: " ++ d.message,
    [("line", .number d.place.line), ("column", .number d.place.column)]⟩

/-- A table of a contract is built. -/
def table (contract : String) (t : Table) : LogLine :=
  ⟨.debug, "built table",
    [("contract", .text contract), ("table", .text t.name), ("columns", .number t.columns.length)]⟩

/-- The columns that a line counts. -/
def columns (l : LogLine) : Nat :=
  match l.fields.lookup "columns" with
  | some (.number n) => n
  | _ => 0

/-- A contract is done, behind the lines of its tables. -/
def contract (name : String) (tables : List LogLine) : LogLine :=
  ⟨.info, "extracted schema",
    [("contract", .text name), ("tables", .number tables.length), ("columns", .number (tables.map columns).sum)]⟩

end LogLine

/-- What the log says of a database that is built. -/
def Database.journal (d : Database) : List LogLine :=
  let tables := d.tables.map (LogLine.table d.name)
  tables ++ [LogLine.contract d.name tables]

/-- What the log says of recovering a text, which is done in tolerant mode if the text does not parse: the number
of its errors, and for each item that is skipped a line for each of the errors in it. -/
def recoveryLog (tolerant : Bool) (text : List Char) : List LogLine :=
  match tolerant, (Outline.parse false text).result with
  | true, .error whole =>
    LogLine.recovery whole.length :: ((Item.ofText text).flatMap (Outline.movedErrors text)).map LogLine.warning
  | _, _ => []

/-- What building contracts comes to, and what the log says of it: every contract is built, and each has its
journal; or one is not, and behind the journals of those before it stand the tables of it that were built
before the first that could not be. -/
inductive Journal (cs : List Outline.Contract) : Except RunError (List Database) → List LogLine → Prop
  | complete {ds : List Database} : List.Forall₂ (fun c d => Database.ofContract c = .ok d) cs ds →
      Journal cs (.ok ds) (ds.flatMap Database.journal)
  | stopped {before after : List Outline.Contract} {c : Outline.Contract} {ds : List Database} {tables : List Table}
      {u : UnresolvedColumn} {rest : List (Except UnresolvedColumn Table)} : cs = before ++ c :: after →
      List.Forall₂ (fun c d => Database.ofContract c = .ok d) before ds →
      c.parts.filterMap Table.ofPart? = tables.map .ok ++ .error u :: rest →
      Journal cs (.error (.unresolved c.name u)) (ds.flatMap Database.journal ++ tables.map (LogLine.table c.name))

/-! ## The tables of a contract -/

/-- Tables are built up to the first that cannot be. -/
theorem BuiltTables.ofAttempts_cases (attempts : List (Except UnresolvedColumn Table)) :
    ((ofAttempts attempts).stopped = none ∧ attempts = (ofAttempts attempts).tables.map .ok) ∨
    ∃ u rest, (ofAttempts attempts).stopped = some u ∧
      attempts = (ofAttempts attempts).tables.map .ok ++ .error u :: rest := by
  induction attempts with
  | nil => exact .inl ⟨rfl, rfl⟩
  | cons attempt attempts ih =>
    cases attempt with
    | error u => exact .inr ⟨u, attempts, rfl, rfl⟩
    | ok t =>
      rcases ih with ⟨hstopped, hall⟩ | ⟨u, rest, hstopped, hall⟩
      · exact .inl ⟨hstopped, congrArg (.ok t :: ·) hall⟩
      · exact .inr ⟨u, rest, hstopped, congrArg (.ok t :: ·) hall⟩

/-- A contract is built whole, or up to its first table that cannot be. -/
theorem Database.ofContract_cases (c : Outline.Contract) :
    ofContract c = .ok ⟨c.name, (BuiltTables.ofContract c).tables⟩ ∨
    ∃ u rest, ofContract c = .error u ∧
      c.parts.filterMap Table.ofPart? = (BuiltTables.ofContract c).tables.map .ok ++ .error u :: rest := by
  rcases BuiltTables.ofAttempts_cases (c.parts.filterMap Table.ofPart?) with ⟨hstopped, -⟩ | ⟨u, rest, hstopped, hall⟩
  · left
    simp only [ofContract, BuiltTables.ofContract, hstopped]
  · right
    refine ⟨u, rest, ?_, hall⟩
    simp only [ofContract, BuiltTables.ofContract, hstopped]

theorem BuiltTables.logged_events (contract : String) (built : BuiltTables) :
    (built.events contract).map Event.logged = built.tables.map (LogLine.table contract) := by
  rw [events, List.map_map]
  rfl

/-- The line of a contract counts what the lines of its tables count. -/
theorem Database.logged_extracted (d : Database) :
    (Event.extracted d.name d.tables.length d.columnCount).logged =
      LogLine.contract d.name (d.tables.map (LogLine.table d.name)) := by
  have hcount : d.columnCount = ((d.tables.map (LogLine.table d.name)).map LogLine.columns).sum := by
    rw [columnCount, List.map_map, List.sum, List.foldr_map]
    rfl
  rw [LogLine.contract, ← hcount, List.length_map]
  rfl

/-! ## The contracts of a text -/

/-- A contract that is built goes before what the others come to. -/
theorem Journal.cons {c : Outline.Contract} {cs : List Outline.Contract} {d : Database}
    {result : Except RunError (List Database)} {log : List LogLine} (hd : Database.ofContract c = .ok d)
    (h : Journal cs result log) : Journal (c :: cs) (result.map (d :: ·)) (d.journal ++ log) := by
  cases h with
  | complete hall => exact .complete (.cons hd hall)
  | stopped hcs hbefore hattempts =>
    rw [← List.append_assoc]
    exact .stopped (congrArg (c :: ·) hcs) (.cons hd hbefore) hattempts

/-- The events of building contracts are their journal. -/
theorem Database.journal_ofContracts (cs : List Outline.Contract) :
    Journal cs (ofContracts cs).2 ((ofContracts cs).1.map Event.logged) := by
  induction cs with
  | nil => exact .complete .nil
  | cons c cs ih =>
    rcases ofContract_cases c with hd | ⟨u, rest, hu, hattempts⟩
    · have hjournal := ih.cons hd
      have hevents := (BuiltTables.ofContract c).logged_events c.name
      have hextracted := logged_extracted ⟨c.name, (BuiltTables.ofContract c).tables⟩
      simp only [ofContracts, hd, List.map_append, List.map_cons, hevents, hextracted]
      rwa [journal, List.append_assoc] at hjournal
    · have hstopped : Journal (c :: cs) (.error (.unresolved c.name u))
          ((BuiltTables.ofContract c).tables.map (LogLine.table c.name)) :=
        .stopped (List.nil_append _).symm .nil hattempts
      simp only [ofContracts, hu, BuiltTables.logged_events]
      exact hstopped

/-! ## Recovery -/

/-- The events of parsing are those of recovering. -/
theorem Outline.logged_parse (tolerant : Bool) (text : List Char) :
    (parse tolerant text).events.map Event.logged = recoveryLog tolerant text := by
  cases hclean : ofCleanText text with
  | ok u => cases tolerant <;> simp only [recoveryLog, strict_ok hclean, List.map_nil]
  | error es =>
    cases tolerant with
    | false => simp only [recoveryLog, strict_error hclean, List.map_nil]
    | true =>
      have hskipped : ((Item.ofText text).map (ofItem text)).flatMap errorsOf =
          (Item.ofText text).flatMap (movedErrors text) := by
        rw [List.flatMap_map]
        exact List.flatMap_congr fun item h => (errorsOf_ofItem text item).trans (errorsWithin_eq h)
      have hlines : ∀ ds : List Diagnostic, (ds.map Event.skipped).map Event.logged = ds.map LogLine.warning := by
        intro ds
        rw [List.map_map]
        rfl
      have hwhole : recoveryLog true text =
          LogLine.recovery es.length :: ((Item.ofText text).flatMap (movedErrors text)).map LogLine.warning := by
        simp only [recoveryLog, strict_error hclean, List.length_map]
      have hevents : (parse true text).events =
          .recovering es.length :: ((Item.ofText text).flatMap (movedErrors text)).map .skipped := by
        simp only [parse, hclean, if_true, recover, hskipped]
      rw [hwhole, hevents, List.map_cons, hlines]
      rfl

/-! ## The log of a run -/

namespace Run

theorem events_ofSource (settings : Settings) (source : String) :
    (Run.ofSource settings source).events =
      (Outline.parse settings.tolerant source.toList).events ++
        match (Outline.parse settings.tolerant source.toList).result with
        | .error _ => []
        | .ok outline => (Database.ofContracts outline.contracts).1 := by
  unfold Run.ofSource
  dsimp only
  cases (Outline.parse settings.tolerant source.toList).result with
  | error ds => exact (List.append_nil _).symm
  | ok outline => rfl

/-- The log of a run over a source text. It begins with what recovering reports, if there is recovering. If the
text does not parse there is no more. If it does, the journal of its contracts follows. -/
theorem log_ofSource (settings : Settings) (source : String) :
    ∃ log, (Run.ofSource settings source).events.map Event.logged = recoveryLog settings.tolerant source.toList ++ log ∧
      (∀ ds, (Outline.parse settings.tolerant source.toList).result = .error ds →
        (Run.ofSource settings source).result = .error (.badSource ds) ∧ log = []) ∧
      ∀ outline, (Outline.parse settings.tolerant source.toList).result = .ok outline →
        ∃ built, (Run.ofSource settings source).result = built.map (fun ds => ⟨ds, settings.formats⟩) ∧
          Journal outline.contracts built log := by
  have hevents := congrArg (List.map Event.logged) (events_ofSource settings source)
  rw [List.map_append, Outline.logged_parse] at hevents
  refine ⟨_, hevents, ?_, ?_⟩
  · intro ds h
    rw [h]
    exact ⟨result_ofSource_error h, rfl⟩
  · intro outline h
    rw [h]
    exact ⟨_, result_ofSource_ok h, Database.journal_ofContracts outline.contracts⟩

/-- A second contract that stops at its second struct: the third is not looked at. -/
example : ((Run.ofSource ⟨false, []⟩ ("contract A\x7bfunction f()\x7buint x;\x7d\x7d" ++
    "contract B\x7bstruct S\x7b\x7dstruct T\x7bmapping(int=>int)m;\x7dstruct U\x7b\x7d\x7d")).events.map Event.logged) =
    [⟨.debug, "built table", [("contract", .text "A"), ("table", .text "f"), ("columns", .number 1)]⟩,
      ⟨.info, "extracted schema", [("contract", .text "A"), ("tables", .number 1), ("columns", .number 1)]⟩,
      ⟨.debug, "built table", [("contract", .text "B"), ("table", .text "S"), ("columns", .number 0)]⟩] := by
  decide +kernel

end Run

end SoliditySchema
