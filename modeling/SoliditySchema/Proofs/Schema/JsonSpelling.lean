/-
  SoliditySchema.Proofs.Schema.JsonSpelling — a database is read from every text that writes it.

  A value says a database as an object with its name and its tables, each said likewise (`Database.SaidBy`). Only the
  values of the known keys count: the order of the members, other keys with whatever values, and the way all of it is
  written are of no account. With a key of some object missing or coming twice (`Database.Flawed`), and all that is
  there of the right kind (`Database.Sketched`), the text is refused for what it says.

  Columns, tables and databases are alike: a name, and one more part under a key of its own. So each of the three
  notions is one definition with the part as a parameter, and one lemma says what the shape finds (`Named.shape`).
-/

import SoliditySchema.Proofs.Json.DataFault
import SoliditySchema.Proofs.Schema.JsonForm

namespace SoliditySchema

open Json Input

/-! ## What a value says -/

namespace Named

/-- An object with a name, and with one more part of which `P` holds. -/
inductive SaidBy (name part : String) (P : Json → Prop) : Json → Prop
  | object {ms : List (String × Json)} {j : Json} :
      valuesOf "name" ms = [.string name] → valuesOf part ms = [j] → P j → SaidBy name part P (.object ms)

/-- An object whose name is a text and whose other part is of a kind, as far as they come. -/
inductive Sketched (part : String) (Kind : Json → Prop) : Json → Prop
  | object {ms : List (String × Json)} :
      (∀ j ∈ (valuesOf "name" ms).head?, ∃ s, j = .string s) → (∀ j ∈ (valuesOf part ms).head?, Kind j) →
      Sketched part Kind (.object ms)

/-- An object in which the name or the other part is missing or comes twice, or one with a flaw in an element of the
other part. -/
inductive Flawed (part : String) (Inner : Json → Prop) : Json → Prop
  | missing {ms : List (String × Json)} {key : String} :
      key = "name" ∨ key = part → valuesOf key ms = [] → Flawed part Inner (.object ms)
  | twice {ms : List (String × Json)} {key : String} :
      key = "name" ∨ key = part → 2 ≤ (valuesOf key ms).length → Flawed part Inner (.object ms)
  | inside {ms : List (String × Json)} {js : List Json} {j : Json} :
      .array js ∈ valuesOf part ms → j ∈ js → Inner j → Flawed part Inner (.object ms)

end Named

/-- An array with an element for each of some things. -/
inductive ListedBy {α : Type} (P : α → Json → Prop) (as : List α) : Json → Prop
  | array {js : List Json} : List.Forall₂ P as js → ListedBy P as (.array js)

/-- An array of elements of a kind. -/
def IsListOf (Kind : Json → Prop) (j : Json) : Prop := ∃ js, j = .array js ∧ ∀ k ∈ js, Kind k

/-- A value says a column. -/
def Column.SaidBy (c : Column) : Json → Prop := Named.SaidBy c.name "type" fun j => j = .string c.type.label

/-- A value says a table. -/
def Table.SaidBy (t : Table) : Json → Prop := Named.SaidBy t.name "columns" (ListedBy Column.SaidBy t.columns)

/-- A value says a database. -/
def Database.SaidBy (d : Database) : Json → Prop := Named.SaidBy d.name "tables" (ListedBy Table.SaidBy d.tables)

/-- What there is of a column is of the right kind. -/
def Column.Sketched : Json → Prop := Named.Sketched "type" fun j => ∃ type : ColumnType, j = .string type.label

/-- What there is of a table is of the right kind. -/
def Table.Sketched : Json → Prop := Named.Sketched "columns" (IsListOf Column.Sketched)

/-- What there is of a database is of the right kind. -/
def Database.Sketched : Json → Prop := Named.Sketched "tables" (IsListOf Table.Sketched)

/-- A key of a column is missing or comes twice. -/
def Column.Flawed : Json → Prop := Named.Flawed "type" fun _ => False

/-- A key of a table or of one of its columns is missing or comes twice. -/
def Table.Flawed : Json → Prop := Named.Flawed "columns" Column.Flawed

/-- A key of a database, of one of its tables or of one of their columns is missing or comes twice. -/
def Database.Flawed : Json → Prop := Named.Flawed "tables" Table.Flawed

/-! ## What is found -/

namespace Named

/-- The shape of an object with a name and one more part. -/
def shape (kind part : String) (s : Shape) : Shape := .record kind [.mk "name" .text none, .mk part s none]

section Parts

variable {name kind part : String} {s : Shape} {j : Json}

theorem datum?_object (ms : List (String × Json)) :
    (shape kind part s).datum? (.object ms) =
      Find.field ⟨"name", Shape.text.datum?, none⟩ (valuesOf "name" ms) >>= fun name =>
        Find.field ⟨part, s.datum?, none⟩ (valuesOf part ms) >>= fun d => some (.record [name, d]) := by
  show ([⟨"name", Shape.text.datum?, none⟩, ⟨part, s.datum?, none⟩].mapM fun f : FieldBy Finder =>
    Find.field f (valuesOf f.key ms)).map Datum.record = _
  rw [List.mapM_cons, List.mapM_cons, List.mapM_nil]
  cases Find.field ⟨"name", Shape.text.datum?, none⟩ (valuesOf "name" ms) <;>
    cases Find.field ⟨part, s.datum?, none⟩ (valuesOf part ms) <;> rfl

theorem SaidBy.datum? {P : Json → Prop} (h : SaidBy name part P j) {d : Datum} (hP : ∀ j, P j → s.datum? j = some d) :
    (shape kind part s).datum? j = some (.record [.text name, d]) := by
  cases h with
  | @object ms k hname hpart hk =>
    have hfield : Find.field ⟨part, s.datum?, none⟩ [k] = some d := hP k hk
    rw [datum?_object, hname, hpart, hfield]
    rfl

theorem Sketched.fits {Kind : Json → Prop} (h : Sketched part Kind j) (hkind : ∀ j, Kind j → s.Fits j) :
    (shape kind part s).Fits j := by
  cases h with
  | object hname hpart =>
    refine ⟨fun j hj => ?_, fun j hj => hkind j (hpart j hj), trivial⟩
    obtain ⟨s, rfl⟩ := hname j hj
    exact trivial

theorem Sketched.of_first {Kind : Json → Prop} {ms : List (String × Json)} {name : String}
    (hname : (valuesOf "name" ms).head? = some (.string name)) (hpart : (valuesOf part ms).head? = some j) (hj : Kind j) :
    Sketched part Kind (.object ms) := by
  refine .object ?_ ?_
  · rw [hname]
    rintro _ ⟨⟩
    exact ⟨name, rfl⟩
  · rw [hpart]
    rintro _ ⟨⟩
    exact hj

theorem Flawed.datum? {Inner : Json → Prop} (h : Flawed part Inner j)
    (hinner : ∀ js, ∀ j ∈ js, Inner j → s.datum? (.array js) = none) : (shape kind part s).datum? j = none := by
  have hname : ∀ {ms : List (String × Json)}, Find.field ⟨"name", Shape.text.datum?, none⟩ (valuesOf "name" ms) = none →
      (shape kind part s).datum? (.object ms) = none := by
    intro ms hms
    rw [datum?_object, hms]
    rfl
  have hpart : ∀ {ms : List (String × Json)}, Find.field ⟨part, s.datum?, none⟩ (valuesOf part ms) = none →
      (shape kind part s).datum? (.object ms) = none := by
    intro ms hms
    rw [datum?_object, hms]
    cases Find.field ⟨"name", Shape.text.datum?, none⟩ (valuesOf "name" ms) <;> rfl
  cases h with
  | missing hkey hnone =>
    rcases hkey with rfl | rfl
    · exact hname (by rw [hnone]; rfl)
    · exact hpart (by rw [hnone]; rfl)
  | twice hkey htwo =>
    rcases hkey with rfl | rfl
    · exact hname (Find.field_of_two htwo)
    · exact hpart (Find.field_of_two htwo)
  | inside hjs hj hflaw => exact hpart (Find.field_of_mem hjs (hinner _ _ hj hflaw))

end Parts

end Named

section Lists

variable {α : Type} {s : Shape}

theorem ListedBy.datum? {P : α → Json → Prop} {as : List α} {j : Json} (h : ListedBy P as j) {g : α → Datum}
    (hP : ∀ a j, P a j → s.datum? j = some (g a)) : (Shape.list s).datum? j = some (.list (as.map g)) := by
  cases h with
  | @array js hjs =>
    have hall : js.mapM s.datum? = some (as.map g) := by
      induction hjs with
      | nil => rfl
      | cons ha _ ih => rw [List.mapM_cons, hP _ _ ha, ih]; rfl
    exact congrArg (Option.map Datum.list) hall

theorem IsListOf.fits {Kind : Json → Prop} {j : Json} (h : IsListOf Kind j) (hkind : ∀ j, Kind j → s.Fits j) :
    (Shape.list s).Fits j := by
  obtain ⟨js, rfl, hjs⟩ := h
  exact fun k hk => hkind k (hjs k hk)

theorem datum?_array {js : List Json} {j : Json} (hj : j ∈ js) (hnone : s.datum? j = none) :
    (Shape.list s).datum? (.array js) = none :=
  congrArg (Option.map Datum.list) (mapM_eq_none hj hnone)

end Lists

/-! ## Columns, tables and databases -/

theorem Column.SaidBy.datum? (c : Column) (j : Json) (h : c.SaidBy j) : Column.shape.datum? j = some c.datum := by
  refine Named.SaidBy.datum? h fun k hk => ?_
  subst hk
  cases c.type <;> rfl

theorem Table.SaidBy.datum? (t : Table) (j : Json) (h : t.SaidBy j) : Table.shape.datum? j = some t.datum :=
  Named.SaidBy.datum? h fun _ hk => hk.datum? Column.SaidBy.datum?

theorem Database.SaidBy.datum? (d : Database) (j : Json) (h : d.SaidBy j) : Database.shape.datum? j = some d.datum :=
  Named.SaidBy.datum? h fun _ hk => hk.datum? Table.SaidBy.datum?

theorem Column.Sketched.fits (j : Json) (h : Column.Sketched j) : Column.shape.Fits j := by
  refine Named.Sketched.fits h fun k hk => ?_
  obtain ⟨type, rfl⟩ := hk
  show type.label ∈ ["INTEGER", "STRING"]
  cases type <;> decide

theorem Table.Sketched.fits (j : Json) (h : Table.Sketched j) : Table.shape.Fits j :=
  Named.Sketched.fits h fun _ hk => hk.fits Column.Sketched.fits

theorem Database.Sketched.fits (j : Json) (h : Database.Sketched j) : Database.shape.Fits j :=
  Named.Sketched.fits h fun _ hk => hk.fits Table.Sketched.fits

theorem Column.Flawed.datum? {j : Json} (h : Column.Flawed j) : Column.shape.datum? j = none :=
  Named.Flawed.datum? h fun _ _ _ hfalse => hfalse.elim

theorem Table.Flawed.datum? {j : Json} (h : Table.Flawed j) : Table.shape.datum? j = none :=
  Named.Flawed.datum? h fun _ _ hk hflaw => datum?_array hk hflaw.datum?

theorem Database.Flawed.datum? {j : Json} (h : Database.Flawed j) : Database.shape.datum? j = none :=
  Named.Flawed.datum? h fun _ _ hk hflaw => datum?_array hk hflaw.datum?

theorem Database.shape_distinct : Database.shape.Distinct := by
  have hcolumn : Column.shape.Distinct := ⟨by decide, trivial, trivial, trivial⟩
  have htable : Table.shape.Distinct := ⟨by decide, trivial, hcolumn, trivial⟩
  exact ⟨by decide, trivial, htable, trivial⟩

/-! ## Loading -/

namespace Database

/-- A text is loaded as the database that the value it writes says; with a key missing or coming twice in what would
otherwise say a database, loading fails for what the text says. -/
theorem ofJsonText_spelling {j : Json} {text : String} (h : WrittenText j text) :
    (∀ d : Database, d.SaidBy j → ofJsonText text = .ok d) ∧
      (Database.Sketched j → Database.Flawed j →
        ∃ f : Fault, ofJsonText text = .error f ∧ f.cause.category = .data) := by
  constructor
  · intro d hd
    have hread := Shape.readText_written shape_distinct h
    rw [SaidBy.datum? d j hd] at hread
    unfold ofJsonText
    cases hx : shape.readText text with
    | error f =>
      rw [hx] at hread
      cases hread
    | ok datum =>
      rw [hx] at hread
      obtain rfl : datum = d.datum := Option.some_inj.mp hread
      exact congrArg Except.ok d.ofDatum_datum
  · intro hsketch hflaw
    obtain ⟨f, hf, hdata⟩ := Shape.readText_data shape_distinct hsketch.fits hflaw.datum? h
    exact ⟨f, by rw [ofJsonText, hf]; rfl, hdata⟩

/-- A database with one column. -/
def smileDatabase : Database := ⟨"A", [⟨"", [⟨"😀", .integer⟩]⟩]⟩

/-- A text of it: the members of each object in another order, a further key, and the two halves of the name. -/
def smileText : String :=
  "\x7b\"tables\":[\x7b\"columns\":[\x7b\"x\":[\x7b\x7d],\n\"type\":\"INTEGER\",\n\"name\":\"\\ud83d\\uDE00\"\x7d]," ++
    "\n\"name\":\"\"\x7d],\n\"name\":\"A\"\x7d"

/-- A text with two names of a column. -/
def twoNamesText : String :=
  "\x7b\"name\":\"A\",\n\"tables\":[\x7b\"name\":\"\",\n\"columns\":[\x7b\"name\":\"x\"," ++
    "\n\"type\":\"STRING\",\n\"name\":null\x7d]\x7d]\x7d"

theorem spells_smile : Spells ['\\', 'u', 'd', '8', '3', 'd', '\\', 'u', 'D', 'E', '0', '0'] "😀".toList := by
  have hcode : "😀".toList = [joinHalves 0xd83d 0xde00] := by decide
  rw [hcode]
  exact .halves (by decide) (by decide) (by decide) (by decide) .nil

theorem written_smileText :
    WrittenText (.object [("tables", .array [.object [("columns", .array [.object [("x", .array [.object []]),
      ("type", .string "INTEGER"), ("name", .string "😀")]]), ("name", .string "")]]), ("name", .string "A")]) smileText := by
  have hx : Written (.array [.object []]) _ := .array (.element (.first .nil) (.object (.close .nil)) (.close .nil))
  have hcolumn : Written (.object [("x", .array [.object []]), ("type", .string "INTEGER"), ("name", .string "😀")]) _ :=
    .object (.member (.first .nil) (spells_escaped _) .nil .nil hx
      (.member (lead_comma 0) (spells_escaped _) .nil .nil (.string (spells_escaped _))
        (.member (lead_comma 0) (spells_escaped _) .nil .nil (.string spells_smile) (.close .nil))))
  have htable : Written (.object [("columns", .array [_]), ("name", .string "")]) _ :=
    .object (.member (.first .nil) (spells_escaped _) .nil .nil (.array (.element (.first .nil) hcolumn (.close .nil)))
      (.member (lead_comma 0) (spells_escaped _) .nil .nil (.string (spells_escaped _)) (.close .nil)))
  have hall : Written (.object [("tables", .array [_]), ("name", .string "A")]) _ :=
    .object (.member (.first .nil) (spells_escaped _) .nil .nil (.array (.element (.first .nil) htable (.close .nil)))
      (.member (lead_comma 0) (spells_escaped _) .nil .nil (.string (spells_escaped _)) (.close .nil)))
  exact ⟨[], _, [], .nil, hall, .nil, by decide +kernel⟩

theorem written_twoNamesText :
    WrittenText (.object [("name", .string "A"), ("tables", .array [.object [("name", .string ""), ("columns", .array [.object
      [("name", .string "x"), ("type", .string "STRING"), ("name", .null)]])]])]) twoNamesText := by
  have hcolumn : Written (.object [("name", .string "x"), ("type", .string "STRING"), ("name", .null)]) _ :=
    .object (.member (.first .nil) (spells_escaped _) .nil .nil (.string (spells_escaped _))
      (.member (lead_comma 0) (spells_escaped _) .nil .nil (.string (spells_escaped _))
        (.member (lead_comma 0) (spells_escaped _) .nil .nil .null (.close .nil))))
  have htable : Written (.object [("name", .string ""), ("columns", .array [_])]) _ :=
    .object (.member (.first .nil) (spells_escaped _) .nil .nil (.string (spells_escaped _))
      (.member (lead_comma 0) (spells_escaped _) .nil .nil (.array (.element (.first .nil) hcolumn (.close .nil))) (.close .nil)))
  have hall : Written (.object [("name", .string "A"), ("tables", .array [_])]) _ :=
    .object (.member (.first .nil) (spells_escaped _) .nil .nil (.string (spells_escaped _))
      (.member (lead_comma 0) (spells_escaped _) .nil .nil (.array (.element (.first .nil) htable (.close .nil))) (.close .nil)))
  exact ⟨[], _, [], .nil, hall, .nil, by decide +kernel⟩

/-- The one text is loaded, the other is refused. -/
theorem ofJsonText_smileText :
    ofJsonText smileText = .ok smileDatabase ∧
      ∃ f : Fault, ofJsonText twoNamesText = .error f ∧ f.cause.category = .data := by
  constructor
  · refine (ofJsonText_spelling written_smileText).1 smileDatabase (.object rfl rfl (.array (.cons ?_ .nil)))
    exact .object rfl rfl (.array (.cons (.object rfl rfl rfl) .nil))
  · have hcolumn : Column.Sketched (.object [("name", .string "x"), ("type", .string "STRING"), ("name", .null)]) :=
      .of_first rfl rfl ⟨.string, rfl⟩
    have htable : Table.Sketched (.object [("name", .string ""), ("columns", .array [_])]) :=
      .of_first rfl rfl ⟨_, rfl, List.forall_mem_singleton.mpr hcolumn⟩
    refine (ofJsonText_spelling written_twoNamesText).2 ?_ ?_
    · exact .of_first rfl rfl ⟨_, rfl, List.forall_mem_singleton.mpr htable⟩
    · refine .inside List.mem_cons_self List.mem_cons_self ?_
      refine .inside List.mem_cons_self List.mem_cons_self ?_
      exact .twice (.inl rfl) (by decide)

end Database

end SoliditySchema
