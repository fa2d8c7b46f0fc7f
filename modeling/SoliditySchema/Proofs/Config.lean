/-
  SoliditySchema.Proofs.Config — what a configuration file says.

  A configuration says something of a field, or leaves the field out, or its section (`Says`). Keys that are not
  known, the order of the members and the way they are written are of no account. Whatever a well-formed
  configuration leaves out is as it usually is, and the command line comes before it (`Settings.overlay`). A known
  key that comes twice, or has a value it may not have, makes it invalid (`Mistaken`).

  Both sections are a record of one field, so what is found in them is one lemma (`Config.find_of_says`).
-/

import SoliditySchema.Extraction
import SoliditySchema.Proofs.Json.Pretty
import SoliditySchema.Proofs.Json.Record

namespace SoliditySchema

open Json (Datum FieldBy Finder Shape Written WrittenText lead_comma spells_escaped valuesOf)
open Json.Input (Blanks)

/-! ## What a configuration says -/

namespace Config

/-- What an object says of a field of one of its sections, each key coming once at most. -/
inductive Says (ms : List (String × Json)) (part field : String) : Option Json → Prop
  | noSection : valuesOf part ms = [] → Says ms part field none
  | noField {fs : List (String × Json)} :
      valuesOf part ms = [.object fs] → valuesOf field fs = [] → Says ms part field none
  | value {fs : List (String × Json)} {j : Json} :
      valuesOf part ms = [.object fs] → valuesOf field fs = [j] → Says ms part field (some j)

/-- A list of formats by name. -/
def formatNames (formats : List Format) : Json := .array (formats.map fun f => .string f.name)

/-- What makes a configuration invalid: a known key that comes twice in its object, a value of `tolerant` that is
no flag, or a text in `formats` that is no name of a format. -/
inductive Mistaken (ms : List (String × Json)) : Prop
  | sectionTwice {key : String} : key = "parse" ∨ key = "output" → 2 ≤ (valuesOf key ms).length → Mistaken ms
  | tolerantTwice {fs : List (String × Json)} :
      .object fs ∈ valuesOf "parse" ms → 2 ≤ (valuesOf "tolerant" fs).length → Mistaken ms
  | formatsTwice {fs : List (String × Json)} :
      .object fs ∈ valuesOf "output" ms → 2 ≤ (valuesOf "formats" fs).length → Mistaken ms
  | notFlag {fs : List (String × Json)} {j : Json} :
      .object fs ∈ valuesOf "parse" ms → j ∈ valuesOf "tolerant" fs → (∀ b, j ≠ .bool b) → Mistaken ms
  | notFormat {fs : List (String × Json)} {js : List Json} {s : String} :
      .object fs ∈ valuesOf "output" ms → .array js ∈ valuesOf "formats" fs → .string s ∈ js →
      (∀ f : Format, f.name ≠ s) → Mistaken ms

/-! ## Sections -/

/-- What is found in a section with one field. -/
def findOne (key field : String) (shape : Shape) (default : Datum) : FieldBy Finder :=
  ⟨key, Json.Find.record [⟨field, shape.datum?, some default⟩], some (.record [default])⟩

section One

variable {key field : String} {shape : Shape} {default : Datum}

theorem findOne_object (fs : List (String × Json)) :
    (findOne key field shape default).take (.object fs) =
      (Json.Find.field ⟨field, shape.datum?, some default⟩ (valuesOf field fs)).map fun d => .record [d] := by
  simp only [findOne, Json.Find.record, List.mapM_cons, List.mapM_nil]
  cases Json.Find.field ⟨field, shape.datum?, some default⟩ (valuesOf field fs) <;> rfl

/-- What is said of the field is found, if it is of its shape. -/
theorem find_of_says {ms : List (String × Json)} {j? : Option Json} (h : Says ms key field j?) {d : Datum}
    (hd : j?.elim (some default) shape.datum? = some d) :
    Json.Find.field (findOne key field shape default) (valuesOf key ms) = some (.record [d]) := by
  cases h with
  | noSection hs =>
    obtain rfl := Option.some_inj.mp hd
    rw [hs]
    rfl
  | noField hs hf =>
    obtain rfl := Option.some_inj.mp hd
    rw [hs, Json.Find.field, findOne_object, hf]
    rfl
  | value hs hf =>
    rw [hs, Json.Find.field, findOne_object, hf]
    exact congrArg (Option.map fun d => Datum.record [d]) hd

/-- A wrong field makes its section wrong. -/
theorem find_of_wrongField {ms fs : List (String × Json)} (hs : .object fs ∈ valuesOf key ms)
    (hf : Json.Find.field ⟨field, shape.datum?, some default⟩ (valuesOf field fs) = none) :
    Json.Find.field (findOne key field shape default) (valuesOf key ms) = none :=
  Json.Find.field_of_mem hs (by rw [findOne_object, hf]; rfl)

end One

/-! ## The shape of a configuration -/

/-- The section `parse`. -/
def findParse : FieldBy Finder := findOne "parse" "tolerant" .flag (.flag standard.tolerant)

/-- The section `output`. -/
def findOutput : FieldBy Finder := findOne "output" "formats" (.list formatShape) (formatsDatum standard.formats)

theorem datum?_shape (ms : List (String × Json)) :
    shape.datum? (.object ms) =
      ([findParse, findOutput].mapM fun f => Json.Find.field f (valuesOf f.key ms)).map .record := rfl

theorem shape_distinct : shape.Distinct := by
  refine ⟨by decide, ?_, ?_, trivial⟩
  · exact ⟨by decide, trivial, trivial⟩
  · exact ⟨by decide, trivial, trivial⟩

theorem find_formatName (f : Format) : formatShape.datum? (.string f.name) = some (.choice f.name) := by
  cases f <;> rfl

theorem find_notFormat {s : String} (h : ∀ f : Format, f.name ≠ s) : formatShape.datum? (.string s) = none := by
  have hs : s ∉ Format.all.map Format.name := by
    intro hs
    obtain ⟨f, -, rfl⟩ := List.mem_map.mp hs
    exact h f rfl
  exact if_neg hs

theorem find_formatNames (formats : List Format) :
    (Shape.list formatShape).datum? (formatNames formats) = some (formatsDatum formats) := by
  have hall : (formats.map fun f => Json.string f.name).mapM formatShape.datum? = some (formats.map fun f => .choice f.name) := by
    rw [List.mapM_map]
    exact Json.mapM_eq_some fun f _ => find_formatName f
  exact congrArg (Option.map Datum.list) hall

theorem ofDatum_formats (tolerant : Bool) (formats : List Format) :
    ofDatum (.record [.record [.flag tolerant], .record [formatsDatum formats]]) = ⟨tolerant, formats⟩ := by
  have hall : (formats.map fun f => Datum.choice f.name).filterMap formatOfDatum? = formats := by
    have hone : (formatOfDatum? ∘ fun f : Format => Datum.choice f.name) = some := by
      funext f
      cases f <;> rfl
    rw [List.filterMap_map, hone, List.filterMap_some]
  show Config.mk tolerant _ = _
  rw [hall]

/-! ## Loading -/

section Text

variable {ms : List (String × Json)} {text : String}

theorem toOption_ofJsonText (text : String) : (ofJsonText text).toOption = (shape.readText text).toOption.map ofDatum := by
  unfold ofJsonText
  cases shape.readText text <;> rfl

/-- A well-formed configuration is read, with what it leaves out as it usually is. -/
theorem ofJsonText_says (h : WrittenText (.object ms) text) (tolerant? : Option Bool) (formats? : Option (List Format))
    (hparse : Says ms "parse" "tolerant" (tolerant?.map .bool))
    (houtput : Says ms "output" "formats" (formats?.map formatNames)) :
    (ofJsonText text).toOption = some ⟨tolerant?.getD standard.tolerant, formats?.getD standard.formats⟩ := by
  have hp : Json.Find.field findParse (valuesOf findParse.key ms) = some (.record [.flag (tolerant?.getD standard.tolerant)]) :=
    find_of_says hparse (by cases tolerant? <;> rfl)
  have ho : Json.Find.field findOutput (valuesOf findOutput.key ms) =
      some (.record [formatsDatum (formats?.getD standard.formats)]) :=
    find_of_says houtput (by
      cases formats? with
      | none => rfl
      | some formats => exact find_formatNames formats)
  have hfields : ([findParse, findOutput].mapM fun f => Json.Find.field f (valuesOf f.key ms)) =
      some [.record [.flag (tolerant?.getD standard.tolerant)],
        .record [formatsDatum (formats?.getD standard.formats)]] := by
    rw [List.mapM_cons, List.mapM_cons, List.mapM_nil, hp, ho]
    rfl
  rw [toOption_ofJsonText, Shape.readText_written shape_distinct h, datum?_shape, hfields, ← ofDatum_formats]
  rfl

theorem Mistaken.find_eq_none (h : Mistaken ms) :
    Json.Find.field findParse (valuesOf "parse" ms) = none ∨ Json.Find.field findOutput (valuesOf "output" ms) = none := by
  cases h with
  | sectionTwice hkey htwo =>
    rcases hkey with rfl | rfl
    · exact .inl (Json.Find.field_of_two htwo)
    · exact .inr (Json.Find.field_of_two htwo)
  | tolerantTwice hs htwo => exact .inl (find_of_wrongField hs (Json.Find.field_of_two htwo))
  | formatsTwice hs htwo => exact .inr (find_of_wrongField hs (Json.Find.field_of_two htwo))
  | @notFlag fs j hs hj hflag =>
    have hnone : Shape.flag.datum? j = none := by
      cases j with
      | bool b => exact absurd rfl (hflag b)
      | _ => rfl
    exact .inl (find_of_wrongField hs (Json.Find.field_of_mem hj hnone))
  | notFormat hs hjs hj hformat =>
    have hnone := Json.mapM_eq_none hj (find_notFormat hformat)
    exact .inr (find_of_wrongField hs (Json.Find.field_of_mem hjs (congrArg (Option.map Datum.list) hnone)))

/-- A configuration with a mistake is not read. -/
theorem ofJsonText_mistaken (h : WrittenText (.object ms) text) (hwrong : Mistaken ms) : (ofJsonText text).toOption = none := by
  have hfields : ([findParse, findOutput].mapM fun f => Json.Find.field f (valuesOf f.key ms)) = none := by
    rcases hwrong.find_eq_none with hp | ho
    · exact Json.mapM_eq_none List.mem_cons_self hp
    · exact Json.mapM_eq_none (List.mem_cons_of_mem _ List.mem_cons_self) ho
  rw [toOption_ofJsonText, Shape.readText_written shape_distinct h, datum?_shape, hfields]
  rfl

end Text

section Files

variable {files : Files} {args : Arguments} {text : String}

theorem discover_eq_load (h : files (args.config.getD fileName) = .ok text) :
    discover files args.config = load files (args.config.getD fileName) := by
  unfold discover
  cases hpath : args.config with
  | some path => rfl
  | none =>
    rw [hpath] at h
    simp only [Option.getD_none] at h ⊢
    rw [h]

theorem load_of_some {path : String} {config : Config} (h : files path = .ok text)
    (hread : (ofJsonText text).toOption = some config) :
    load files path = ([.loadedConfig path], .ok config) := by
  cases hc : ofJsonText text with
  | ok c =>
    rw [hc] at hread
    cases hread
    simp only [load, h, hc]
  | error f =>
    rw [hc] at hread
    cases hread

theorem load_of_none {path : String} (h : files path = .ok text) (hread : (ofJsonText text).toOption = none) :
    ∃ reason, load files path = ([], .error (.invalidConfig path reason)) := by
  cases hc : ofJsonText text with
  | ok c =>
    rw [hc] at hread
    cases hread
  | error f => exact ⟨f.message text, by simp only [load, h, hc]⟩

end Files

end Config

/-! ## Settings -/

namespace Settings

theorem formats_ne_nil (args : Arguments) (config : Config) : (resolve args config).formats ≠ [] := by
  show (if args.formats ≠ [] then args.formats else if config.formats ≠ [] then config.formats else Format.defaults) ≠ []
  split
  · assumption
  split
  · assumption
  · decide

/-- The settings of a command line over what a configuration says, if it says anything. -/
def merged (args : Arguments) (tolerant? : Option Bool) (formats? : Option (List Format)) : Settings where
  tolerant := tolerant?.getD true && !args.strict
  formats :=
    if args.formats ≠ [] then args.formats
    else
      match formats? with
      | some (f :: fs) => f :: fs
      | _ => [.json, .sql, .nosql]

theorem resolve_eq_merged (args : Arguments) (tolerant? : Option Bool) (formats? : Option (List Format)) :
    resolve args ⟨tolerant?.getD Config.standard.tolerant, formats?.getD Config.standard.formats⟩ =
      merged args tolerant? formats? := by
  have hformats :
      (if formats?.getD Config.standard.formats ≠ [] then formats?.getD Config.standard.formats
        else Format.defaults) =
      match formats? with
      | some (f :: fs) => f :: fs
      | _ => [.json, .sql, .nosql] := by
    match formats? with
    | none => rfl
    | some [] => rfl
    | some (f :: fs) => rfl
  simp only [resolve, merged, hformats]
  rfl

/-- The configuration file holds an object. If what it says of `tolerant` and of `formats` is well-formed, or left out,
it is loaded, and a run goes by the settings of the command line over it. With a mistake it is invalid. -/
theorem overlay {files : Files} {args : Arguments} {ms : List (String × Json)} {text : String}
    (hfile : files (args.config.getD Config.fileName) = .ok text) (htext : WrittenText (.object ms) text) :
    (∀ (tolerant? : Option Bool) (formats? : Option (List Format)),
      Config.Says ms "parse" "tolerant" (tolerant?.map .bool) →
      Config.Says ms "output" "formats" (formats?.map Config.formatNames) →
      ∃ config,
        Config.discover files args.config = ([.loadedConfig (args.config.getD Config.fileName)], .ok config) ∧
        resolve args config = merged args tolerant? formats? ∧ (merged args tolerant? formats?).formats ≠ [] ∧
        ∀ path, args.file = some path →
          Run.ofArguments files args =
            (Run.ofFile files (merged args tolerant? formats?) path).after [.loadedConfig (args.config.getD Config.fileName)]) ∧
    (Config.Mistaken ms → ∃ reason,
      Config.discover files args.config = ([], .error (.invalidConfig (args.config.getD Config.fileName) reason))) := by
  rw [Config.discover_eq_load hfile]
  constructor
  · intro tolerant? formats? hparse houtput
    have hload := Config.load_of_some hfile (Config.ofJsonText_says htext tolerant? formats? hparse houtput)
    have hresolve := resolve_eq_merged args tolerant? formats?
    refine ⟨_, hload, hresolve, hresolve ▸ formats_ne_nil _ _, fun path hpath => ?_⟩
    simp only [Run.ofArguments, hpath, Config.discover_eq_load hfile, hload, hresolve]
  · intro hwrong
    exact Config.load_of_none hfile (Config.ofJsonText_mistaken htext hwrong)

/-- A configuration with an unknown member that says nothing of `tolerant`. -/
def sqlConfig : String := "\x7b\"x\":[null],\n  \"output\" :\x7b\"formats\":[\"sql\"]\x7d\x7d"

/-- A configuration with two sections `parse`. -/
def doubledConfig : String := "\x7b\"parse\":\x7b\x7d,\n  \"parse\":\x7b\x7d\x7d"

theorem written_sqlConfig :
    WrittenText (.object [("x", .array [.null]), ("output", .object [("formats", .array [.string "sql"])])]) sqlConfig := by
  have hformats : Written (.array [.string "sql"]) _ :=
    .array (.element (.first .nil) (.string (spells_escaped _)) (.close .nil))
  have houtput : Written (.object [("formats", .array [.string "sql"])]) _ :=
    .object (.member (.first .nil) (spells_escaped _) .nil .nil hformats (.close .nil))
  have hx : Written (.array [.null]) _ := .array (.element (.first .nil) .null (.close .nil))
  have hall : Written (.object [("x", .array [.null]), ("output", .object [("formats", .array [.string "sql"])])]) _ :=
    .object (.member (.first .nil) (spells_escaped _) .nil .nil hx
      (.member (lead_comma 1) (spells_escaped _) (Blanks.of_spaces 1) .nil houtput (.close .nil)))
  exact ⟨[], _, [], .nil, hall, .nil, by decide +kernel⟩

theorem written_doubledConfig : WrittenText (.object [("parse", .object []), ("parse", .object [])]) doubledConfig := by
  have hall : Written (.object [("parse", .object []), ("parse", .object [])]) _ :=
    .object (.member (.first .nil) (spells_escaped _) .nil .nil (.object (.close .nil))
      (.member (lead_comma 1) (spells_escaped _) .nil .nil (.object (.close .nil)) (.close .nil)))
  exact ⟨[], _, [], .nil, hall, .nil, by decide +kernel⟩

/-- With `--strict` and no format on the command line, the one configuration gives the format; the other is
invalid. -/
theorem overlay_strict :
    Arguments.ofWords ["Token.sol", "--strict"] = .ok ⟨some "Token.sol", [], true, none⟩ ∧
    (∃ config,
      Config.discover (fun _ => .ok sqlConfig) none = ([.loadedConfig ".contract_schema.json"], .ok config) ∧
      resolve ⟨some "Token.sol", [], true, none⟩ config = ⟨false, [.sql]⟩) ∧
    ∃ reason,
      Config.discover (fun _ => .ok doubledConfig) none =
        ([], .error (.invalidConfig ".contract_schema.json" reason)) := by
  refine ⟨by decide, ?_, ?_⟩
  · obtain ⟨config, hload, hresolve, -⟩ :=
      (@overlay (fun _ => .ok sqlConfig) ⟨some "Token.sol", [], true, none⟩ _ _ rfl written_sqlConfig).1 none
        (some [.sql]) (.noSection rfl) (.value rfl rfl)
    exact ⟨config, hload, hresolve⟩
  · exact (@overlay (fun _ => .ok doubledConfig) ⟨some "Token.sol", [], true, none⟩ _ _ rfl written_doubledConfig).2
      (.sectionTwice (.inl rfl) (by decide))

end Settings

end SoliditySchema
